/-!
# TOML values

What a TOML document says. A table remembers how it came to be, because that decides what may still
be added to it.
-/
namespace Concretize.Toml

/-- How a table came to be. -/
inductive Form where
  /-- Written between braces; it is complete. -/
  | inline
  /-- Opened by a header of its own. -/
  | header
  /-- Implied by a header for something inside it. -/
  | implied
  /-- Made by a dotted key. -/
  | dotted
deriving DecidableEq, Repr

/-- A TOML value. -/
inductive Value where
  | text (s : String)
  | integer (n : Int)
  /-- A float, as written. -/
  | float (lexeme : String)
  | boolean (b : Bool)
  /-- A date, a time or both, as written. -/
  | moment (lexeme : String)
  | array (items : List Value)
  | table (form : Form) (members : List (String × Value))
  /-- Tables made by double-bracketed headers. -/
  | tables (items : List (List (String × Value)))
deriving Repr

/-- The members of a table. -/
abbrev Members := List (String × Value)

/-- Puts a value at a key, in place of what stood there. -/
def Members.put (key : String) (v : Value) : Members → Members
  | [] => [(key, v)]
  | (k, w) :: rest => if k = key then (key, v) :: rest else (k, w) :: Members.put key v rest

/-- Adds a value at a path of keys. Tables on the way are made if need be; the last one must have
been made by a dotted key if the path is dotted. -/
def assign (v : Value) : List String → Members → Option Members
  | [], _ => none
  | [key], ms => if (ms.lookup key).isSome then none else some (ms ++ [(key, v)])
  | key :: path@(next :: deeper), ms => do
    let last := deeper.isEmpty
    let changed ←
      match ms.lookup key with
      | none => Value.table .dotted <$> assign v path []
      | some (.table .dotted inner) => Value.table .dotted <$> assign v path inner
      | some (.table .implied inner) =>
        if last then none else Value.table .implied <$> assign v path inner
      | some (.tables items) =>
        match items.getLast? with
        | some inner =>
          if last then none
          else
            (fun inner => .tables (items.dropLast ++ [inner])) <$> assign v (next :: deeper) inner
        | none => none
      | some _ => none
    return ms.put key changed

/-- Changes what stands at a path of keys, going through tables of any form but the inline one and
through the last one of double-bracketed tables. Missing tables are implied. -/
def alter (change : Option Value → Option Value) : List String → Members → Option Members
  | [], _ => none
  | [key], ms => do return ms.put key (← change (ms.lookup key))
  | key :: path, ms => do
    let changed ←
      match ms.lookup key with
      | none => Value.table .implied <$> alter change path []
      | some (.table .inline _) => none
      | some (.table form inner) => Value.table form <$> alter change path inner
      | some (.tables items) =>
        match items.getLast? with
        | some inner =>
          (fun inner => .tables (items.dropLast ++ [inner])) <$> alter change path inner
        | none => none
      | some _ => none
    return ms.put key changed

end Concretize.Toml
