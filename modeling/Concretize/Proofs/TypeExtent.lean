import Concretize.Proofs.Extent

/-!
# The extent of types

A type takes the tokens it takes in front of whatever ends or goes on with a comma. The rules for
what stands between angle brackets see commas, but never the end, as a closing bracket follows.

* `Local`: the rules of a grammar for types and bounds have an extent of their own.
* `local_grammar`: every level of the grammar has the property, by induction on the level.
-/
namespace Concretize.Code.Grammar

open Rule

/-- The rules for types and bounds have an extent of their own. What lies in brackets is always the
same, so nothing is asked of the other rules. -/
structure Local (g : Grammar) : Prop where
  type (plus : Bool) : Rule.Local 1 0 (g.type plus)
  bound (captures constants : Bool) : Rule.Local 1 0 (g.bound captures constants)

variable {g : Grammar} {n : Nat}

theorem local_plainly {m : Nat} {r : Rule Code} (h : Rule.Local m n r) :
    Rule.Local m n (plainly r) :=
  h.bind fun _ => local_pure _

theorem Local.typePiece (h : g.Local) (plus : Bool) : Rule.Local 1 n (g.typePiece plus) :=
  (h.type plus).wide.bind fun _ => local_pure _

theorem Local.typeCode (h : g.Local) : Rule.Local 1 n g.typeCode :=
  (h.type true).wide.bind fun _ => local_pure _

theorem Local.boundCode (h : g.Local) : Rule.Local 1 n g.boundCode :=
  (h.bound false true).wide.bind fun _ => local_pure _

theorem local_groupPiece (d : Delimiter) (r : Rule (List Piece)) :
    Rule.Local 1 n (groupPiece d r) :=
  (local_inside d r).bind fun _ => local_pure _

/-- An operator of one character that stands before something. -/
theorem local_sign (s : String) (filled : 0 < s.toList.length) :
    Rule.Local 1 n (plainly (op s)) :=
  local_plainly (local_op filled)

theorem local_attributes (g : Grammar) : Rule.Local 0 n g.attributes := by
  refine local_repeatWhile (blind_op (by decide)).wide rfl ?_
  exact (local_op (by decide)).first (l := 1) fun _ =>
    (local_inside _ _).bind fun _ => local_pure _

theorem local_attributesCode (g : Grammar) : Rule.Local 0 n g.attributesCode :=
  (local_attributes g).bind fun _ => local_pure _

theorem local_block (g : Grammar) : Rule.Local 1 n g.block := local_grouped _ _

theorem local_sum {α : Type} {ends : Look} {plus item : Rule (List α)} (ending : Blind n ends)
    (hp : Rule.Local 0 n plus) (h : Rule.Local 1 n item) : Rule.Local 0 n (sum ends plus item) :=
  local_chain ending (blind_op (by decide)).wide hp h

/-! ## Paths -/

theorem local_constant (g : Grammar) : Rule.Local 1 n g.constant :=
  Local.ahead blind_literal.wide fun _ => .ite local_literal <|
    Local.ahead blind_name.wide fun _ => .ite local_nameCode (local_block g)

theorem Local.associated (h : g.Local) : Rule.Local 0 1 g.associated := by
  refine Local.ahead (blind_op (by decide)).wide fun _ => .ite ?_ ?_
  · refine (Local.bind (l := 0) (local_sign _ (by decide)) fun equals => ?_).free
    refine Local.ahead blind_literal.wide fun _ => Local.ahead (blind_group _).wide fun _ => ?_
    refine .ite ?_ ?_
    · exact ((local_plainly (local_constant g)).bind fun _ => local_pure _).free
    · exact ((h.typePiece true).bind fun _ => local_pure _).free
  · have bounds : Rule.Local 0 1
        (sum (Look.oneOp [",", ">"]) (plainly (op "+")) (g.bound false true)) :=
      local_sum (blind_oneOp_one (by decide)) (local_sign _ (by decide)).free
        (h.bound false true).wide
    exact ((local_sign _ (by decide)).append bounds).free

theorem Local.argument (h : g.Local) : Rule.Local 1 1 g.argument := by
  refine Local.get ?_ fun rest => .ite ?_ (.ite ?_ ?_)
  · have free : Blind 2 fun code => Look.lifetime code && !Look.second (Look.op "+") code :=
      blind_lifetime.wide.and ((blind_op (by decide)).second.mono (by decide)).not
    exact .ite free (blind_const _)
      (.ite (blind_literal.wide.or (blind_group _).wide) (blind_const _) (blind_const _))
  · exact local_token.first (l := 1) fun _ => local_anyWord.bind fun _ => local_pure _
  · exact (local_plainly (local_constant g)).bind fun _ => local_pure _
  · refine Local.bind (l := 0) (h.type true).wide fun t => ?_
    split
    · refine Local.ahead (blind_oneOp_one (by decide)) fun _ => .ite ?_ (local_pure _)
      exact h.associated.bind fun _ => local_pure _
    · exact local_pure _

/-- The bracket at the end stands between the arguments and what follows. -/
theorem Local.applied (h : g.Local) (name : String) : Rule.Local 1 n (g.applied name) := by
  have arguments : Rule.Local 0 1 (listed (Look.op ">") g.argument) :=
    local_listed (blind_op (by decide)).wide h.argument
  refine Local.bind (l := 1) (local_optionalOp (by decide) (by decide)) fun turbofish => ?_
  refine (local_op (by decide)).first (l := 1) fun _ => ?_
  refine Local.bind (l := 1) (arguments.mono (Nat.le_add_left 1 n)) fun ⟨_, _⟩ => ?_
  exact Local.bind (l := 0) (local_op (by decide)) fun _ => local_pure _

theorem blind_appliesArguments (inExpression : Bool) :
    Blind 0 (appliesArguments inExpression) :=
  ((((blind_const _).and (blind_op (by decide))).and (blind_op (by decide)).not).and
    (blind_op (by decide)).not).or (blind_behindColons (blind_op (by decide)))

theorem Local.segment (h : g.Local) (inExpression : Bool) :
    Rule.Local 1 n (g.segment inExpression) := by
  have named (name : String) : Rule.Local 0 n (do
      if ← ahead (appliesArguments inExpression) then g.applied name else return .plain name) :=
    Local.ahead (blind_appliesArguments inExpression).wide fun _ =>
      .ite (h.applied name).free (local_pure _)
  refine Local.ahead (blind_oneOf _).wide fun _ => .ite ?_ ?_
  · exact local_anyWord.bind fun _ => local_pure _
  refine Local.ahead (blind_word _).wide fun _ => ?_
  exact .ite (local_anyWord.bind named) (local_name.bind named)

/-- A look at what follows a segment. -/
theorem blind_goesOn (parentheses : Bool) : Blind 0 fun code =>
    Look.op "::" code && (parentheses || !Look.third (Look.group .round) code) := by
  cases parentheses with
  | true => exact (blind_op (by decide)).and (blind_const true)
  | false => exact blind_behindColons (blind_group .round).not

theorem local_segmentsUpTo {item : Rule Segment} (h : Rule.Local 1 n item) (parentheses : Bool)
    (turns : Nat) : Rule.Local 1 n (segmentsUpTo item parentheses turns) := by
  induction turns with
  | zero => exact local_failure
  | succ turns ih =>
    refine h.first (l := 0) fun first => Local.get ?_ fun rest => .ite ?_ (local_pure _)
    · exact .ite (blind_goesOn parentheses).wide (blind_const _) (blind_const _)
    · exact ((local_op (by decide)).bind (l := 1) fun _ => ih.bind fun _ => local_pure _).free

theorem steps_segmentsUpTo {item : Rule Segment} (h : Rule.Local 1 n item) (parentheses : Bool) :
    Steps (segmentsUpTo item parentheses) := by
  intro i j z later
  refine run_bind_congr fun hr => run_get_congr (run_ite_congr ?_ rfl)
  refine run_bind_congr fun hs => run_bind_congr_left (later _ ?_)
  exact ((local_op (n := 0) (s := "::") (by decide)).shorter hs).trans (h.shorter hr)

theorem local_segments {item : Rule Segment} (h : Rule.Local 1 n item) (parentheses : Bool) :
    Rule.Local 1 n (do segmentsUpTo item parentheses ((← get).length + 1)) :=
  Local.loop (F := segmentsUpTo item parentheses) (t := (· + 1))
    (fun hi hj => (steps_segmentsUpTo h parentheses).run_eq (k := 0) nofun hi hj)
    (local_segmentsUpTo h parentheses)

theorem Local.path (h : g.Local) (inExpression : Bool) : Rule.Local 1 n (g.path inExpression) := by
  refine Local.bind (l := 1) (local_optionalOp (by decide) (by decide)) fun leading => ?_
  exact (local_segments (h.segment inExpression) false).get_bind fun _ => local_pure _

theorem Local.qualified (h : g.Local) (inExpression : Bool) :
    Rule.Local 1 n (g.qualified inExpression) := by
  refine (local_sign _ (by decide)).first (l := 0) fun opening => ?_
  refine Local.bind (l := 0) (h.typePiece true).free fun self => ?_
  refine Local.bind (l := 0) (.maybe (blind_word _).wide ?_) fun seen => ?_
  · refine Local.bind (l := 0) (local_plainly (local_word _)).free fun keyword => ?_
    exact Local.bind (l := 0) (h.path false).free fun ⟨leading, segments⟩ => local_pure _
  refine Local.bind (l := 0) (local_sign _ (by decide)).free fun closing => ?_
  refine Local.bind (l := 0) (local_op (by decide)).free fun _ => ?_
  have segments := local_segments (n := n) (h.segment inExpression) true
  exact (segments.get_bind (l := 0) fun _ => local_pure _).free

/-! ## Bounds and generic parameters -/

theorem local_lifetimes {ends : Look} (ending : Blind n ends) :
    Rule.Local 0 n (sum ends (op "+") lifetime) :=
  local_sum ending (local_op (by decide)).free (local_lifetime.less (by decide))

theorem local_afterColon {bounds : Rule Code} (h : Rule.Local 0 n bounds) :
    Rule.Local 0 n (afterColon bounds) := by
  refine .maybe (blind_op (by decide)).wide ?_
  refine Local.bind (l := 0) (local_op (by decide)).free fun colon => ?_
  exact Local.bind (l := 0) h fun list => local_pure _

theorem Local.parameter (h : g.Local) : Rule.Local 1 1 g.parameter := by
  refine (local_attributesCode g).append (l := 1) ?_
  refine Local.ahead blind_lifetime.wide fun _ => .ite ?_ ?_
  · have bounds : Rule.Local 0 1 (sum (Look.oneOp [",", ">"]) (op "+") lifetime) :=
      local_lifetimes (blind_oneOp_one (by decide))
    exact (local_lifetime.append (l := 0) (local_afterColon bounds)).less (by decide)
  have fixed (sign : String) (filled : 0 < sign.toList.length) (plain : ',' ∉ sign.toList)
      {r : Rule Code} (hr : Rule.Local 1 1 r) :
      Rule.Local 0 1 (maybe (Look.op sign) (op sign ++ r)) :=
    .maybe (blind_op plain).wide ((local_op filled).append hr).free
  refine Local.ahead (blind_word _).wide fun _ => .ite ?_ ?_
  · have front : Rule.Local 1 1 (word "const" ++ nameCode ++ op ":" ++ g.typeCode) :=
      ((((local_word _).append (l := 0) local_nameCode.free).append (l := 0)
        (local_op (by decide)).free).append (l := 0) h.typeCode.free)
    exact front.append (l := 0) (fixed "=" (by decide) (by decide) (local_constant g))
  · have bounds : Rule.Local 0 1 (sum (Look.oneOp [",", ">", "="]) (op "+") g.boundCode) :=
      local_sum (blind_oneOp_one (by decide)) (local_op (by decide)).free h.boundCode
    have front := local_nameCode.append (l := 0) (local_afterColon bounds)
    exact front.append (l := 0) (fixed "=" (by decide) (by decide) h.typeCode)

theorem Local.parameters (h : g.Local) : Rule.Local 1 n g.parameters := by
  have inside : Rule.Local 0 1 (separated (Look.op ">") (op ",") g.parameter) :=
    local_separated (blind_op (by decide)).wide (local_op (by decide)).free h.parameter
  have front : Rule.Local 1 (n + 1) (op "<" ++ separated (Look.op ">") (op ",") g.parameter) :=
    Rule.Local.append (l := 0) (local_op (by decide)) (inside.mono (Nat.le_add_left 1 n))
  exact (front.append (l := 1) (local_op (by decide))).less (by decide)

theorem Local.binder (h : g.Local) : Rule.Local 0 n g.binder :=
  .maybe (blind_word _).wide ((local_word _).append h.parameters).free

theorem Local.result (h : g.Local) (plus : Bool) : Rule.Local 0 n (g.result plus) :=
  .maybe (blind_op (by decide)).wide ((local_sign _ (by decide)).append (h.typePiece plus)).free

theorem Local.parenthesizedArguments (h : g.Local) : Rule.Local 1 n g.parenthesizedArguments :=
  (local_groupPiece _ _).append (h.result false)

theorem Local.callable (h : g.Local) (segments : List Segment) :
    Rule.Local 0 n (g.callable segments) := by
  match segments with
  | [] => exact local_pure _
  | [.plain name] =>
    refine Local.get ?_ fun rest => .ite ?_ (local_pure _)
    · have called := (blind_group .round).or (blind_behindColons (blind_group .round))
      exact .ite called.wide (blind_const _) (blind_const _)
    · refine Local.bind (l := 0) (local_optionalOp (by decide) (by decide)) fun _ => ?_
      exact h.parenthesizedArguments.free.bind fun _ => local_pure _
  | [.applied ..] | [.called ..] => exact local_pure _
  | first :: second :: rest =>
    rw [Grammar.callable]
    · exact (h.callable (second :: rest)).bind fun _ => local_pure _
    · nofun

theorem Local.boundPath (h : g.Local) : Rule.Local 1 n g.boundPath :=
  (h.path false).first fun ⟨_, segments⟩ => (h.callable segments).bind fun _ => local_pure _

theorem local_constantMark : Rule.Local 0 n constantMark := by
  refine Local.get ?_ fun rest => .ite ?_ (.ite ?_ ?_)
  · have marked : Blind 0 fun code => Look.op "~" code && Look.second (Look.word "const") code :=
      ((blind_op (by decide)).wide.and (blind_word _).second).zero
        ((fails_op (by decide) (by decide)).and _)
    exact .ite marked.wide (blind_const _)
      (.ite (blind_group _).wide (blind_const _) (blind_const _))
  · exact ((local_op (by decide)).append (local_word _)).free
  · exact (local_grouped _ _).free
  · exact local_optionalWord _

theorem Local.traitBound (h : g.Local) (constants : Bool) :
    Rule.Local 1 n (g.traitBound constants) := by
  refine Local.bind (l := 1) (local_plainly h.binder) fun first => ?_
  refine Local.bind (l := 1) (local_plainly local_constantMark) fun mark => ?_
  refine Local.bind (l := 1) (local_check _) fun _ => ?_
  refine Local.bind (l := 1) (local_plainly (local_optionalOp (by decide) (by decide)))
    fun relaxed => ?_
  have named (binder : List Piece) : Rule.Local 1 n (do
      let path ← g.boundPath
      return if mark.isEmpty then relaxed ++ binder ++ path
        else binder ++ mark ++ relaxed ++ path) :=
    h.boundPath.bind fun _ => local_pure _
  exact .ite ((local_plainly h.binder).bind named) ((local_pure _).bind named)

theorem local_captured : Rule.Local 1 n captured := by
  have one : Rule.Local 1 1 (do
      if ← ahead Look.lifetime then lifetime
      else if ← ahead (Look.word "Self") then wordCode else nameCode) :=
    Local.ahead blind_lifetime.wide fun _ => .ite (local_lifetime.less (by decide)) <|
      Local.ahead (blind_word _).wide fun _ => .ite local_wordCode local_nameCode
  have inside : Rule.Local 0 1 (separated (Look.op ">") (op ",") (do
      if ← ahead Look.lifetime then lifetime
      else if ← ahead (Look.word "Self") then wordCode else nameCode)) :=
    local_separated (blind_op (by decide)).wide (local_op (by decide)).free one
  exact ((((local_word _).append (l := 1) (local_op (by decide))).append (l := 0)
    (inside.mono (Nat.le_add_left 1 n))).append (l := 1) (local_op (by decide))).less (by decide)

theorem Local.anyBound (h : g.Local) (captures constants : Bool) :
    Rule.Local 1 n (g.anyBound captures constants) := by
  refine Local.ahead blind_lifetime.wide fun _ => .ite ?_ ?_
  · exact (local_plainly local_lifetime).less (by decide)
  refine Local.ahead (blind_word _).wide fun _ => .ite ?_ ?_
  · exact (local_check _).bind fun _ => local_plainly local_captured
  · exact Local.ahead (blind_group _).wide fun _ => .ite (local_groupPiece _ _) (h.traitBound _)

theorem blind_begins : Blind 0 bounds.begins :=
  (((blind_anyWord.or (blind_oneOp (by decide))).or blind_lifetime).or (blind_group _)).or
    (blind_group _)

theorem Local.moreBounds (h : g.Local) (captures constants : Bool) (turns : Nat) :
    Rule.Local 0 n (bounds.moreBounds g captures constants turns) := by
  induction turns with
  | zero => exact local_pure _
  | succ turns ih =>
    refine .maybe (blind_op (by decide)).wide ?_
    refine Local.bind (l := 0) (local_sign _ (by decide)).free fun plus => ?_
    refine Local.ahead blind_begins.wide fun _ => .ite ?_ (local_pure _)
    exact (h.bound captures constants).wide.free.bind fun _ => ih.bind fun _ => local_pure _

theorem Local.steps_moreBounds (h : g.Local) (captures constants : Bool) :
    Steps (bounds.moreBounds g captures constants) := by
  intro i j z later
  refine run_maybe_congr (run_bind_congr fun hp => run_ahead_congr fun _ => run_ite_congr ?_ rfl)
  refine run_bind_congr fun hb => run_bind_congr_left (later _ ?_)
  exact ((h.bound captures constants).shorter hb).trans
    ((local_sign (n := 0) "+" (by decide)).shorter hp)

/-- Bounds that go on as long as there are tokens. -/
theorem Local.allBounds (h : g.Local) (captures constants : Bool) :
    Rule.Local 0 n (do bounds.moreBounds g captures constants (← get).length) := by
  refine Local.loop (F := bounds.moreBounds g captures constants) (t := fun n => n)
    (fun {i j z} hi hj => ?_) (h.moreBounds captures constants)
  refine (h.steps_moreBounds captures constants).run_eq (k := 1) (fun i z none => ?_)
    (by omega) (by omega)
  obtain rfl : z = [] := List.length_eq_zero_iff.1 (by omega)
  cases i with
  | zero => rfl
  | succ i => rfl

theorem Local.bounds (h : g.Local) (plus captures constants : Bool) :
    Rule.Local 1 n (g.bounds plus captures constants) := by
  refine (h.bound captures constants).wide.first (l := 0) fun first => .ite (local_pure _) ?_
  exact (h.allBounds captures constants).get_bind fun _ => local_pure _

/-! ## Types -/

theorem Local.traits (h : g.Local) (plus captures constants : Bool) :
    Rule.Local 1 n (g.traits plus captures constants) :=
  (h.bounds plus captures constants).first fun _ => (local_check _).bind fun _ => local_pure _

theorem blind_isText : Blind 0 interface.isText :=
  (blind_of_head fun t _ _ => by cases t <;> rfl).zero (fails_of rfl fun _ _ => rfl)

theorem local_interface : Rule.Local 0 n interface :=
  .maybe (blind_word _).wide
    ((local_word _).append (.maybe blind_isText.wide local_token.free)).free

theorem Local.functionType (h : g.Local) : Rule.Local 1 n g.functionType := by
  have marks : Rule.Local 1 (n + 0 + 1) (optionalWord "unsafe" ++ interface ++ word "fn") :=
    ((local_optionalWord _).append local_interface).append (local_word _)
  exact (((local_plainly marks).append (local_groupPiece _ _)).append (h.result false)).less
    (by decide)

theorem blind_callsTemplate (segments : List Segment) : Blind 0 (callsTemplate segments) :=
  ((blind_op (by decide)).and (blind_op (by decide)).not).and (blind_const _)

theorem Local.pathType (h : g.Local) (plus : Bool) (binder : List Piece) :
    Rule.Local 1 n (g.pathType plus binder) := by
  refine Local.ahead (blind_op (by decide)).wide fun _ => .ite ?_ ?_
  · exact (h.qualified false).bind fun _ => local_pure _
  refine (h.path false).first (l := 0) fun ⟨leading, segments⟩ => ?_
  refine Local.ahead (blind_callsTemplate segments).wide fun _ => .ite ?_ ?_
  · exact ((local_plainly ((local_op (by decide)).append local_anyGroup)).bind
      fun _ => local_pure _).free
  · refine Local.ahead (blind_op (by decide)).wide fun bounded => ?_
    refine .ite (local_pure _) (.ite (local_pure _) ?_)
    exact (h.allBounds false true).get_bind fun _ => local_pure _

theorem Local.addedBounds (h : g.Local) : Rule.Local 0 n g.addedBounds :=
  local_repeatWhile (blind_op (by decide)).wide rfl
    (((local_sign _ (by decide)).append (h.bound true true).wide).less (by decide))

theorem Local.parenthesized (h : g.Local) (plus : Bool) (inner : Code) :
    Rule.Local 1 n (g.parenthesized plus inner) := by
  refine .ite ((local_plainly local_token).bind fun _ => local_pure _) (.ite ?_ (.ite ?_ ?_))
  · exact (local_inside _ _).bind fun _ => local_pure _
  · exact ((local_groupPiece _ _).append h.addedBounds).bind fun _ => local_pure _
  · refine (local_inside _ _).first (l := 0) fun ⟨first, rest, several⟩ => .ite (local_pure _) ?_
    refine Local.ahead (blind_op (by decide)).wide fun _ => .ite ?_ (local_pure _)
    exact h.addedBounds.bind fun _ => local_pure _

theorem local_pointerMark : Rule.Local 1 n pointerMark :=
  local_expect (blind_oneOf _).wide local_token

theorem Local.compoundType (h : g.Local) (plus : Bool) : Rule.Local 1 n (g.compoundType plus) := by
  refine Local.get ?_ fun rest => ?_
  · exact .ite (blind_word _).wide (blind_const _) <| .ite (blind_word _).wide (blind_const _) <|
      .ite blind_lifetime.wide (blind_const _) <| .ite (blind_group _).wide (blind_const _) <|
      .ite (blind_op (by decide)).wide (blind_const _) <|
      .ite (blind_op (by decide)).wide (blind_const _) <|
      .ite (blind_op (by decide)).wide (blind_const _) (blind_const _)
  refine .ite ?_ (.ite ?_ (.ite ?_ (.ite ?_ (.ite ?_ (.ite ?_ (.ite ?_ ?_))))))
  · have mark : Rule.Local 0 (n + 1) (optionalOp "*") := local_optionalOp (by decide) (by decide)
    exact ((local_plainly ((local_word _).append mark)).append (h.traits plus false false)).less
      (by decide)
  · exact ((local_plainly (local_word _)).append (h.traits plus true true)).less (by decide)
  · exact h.traits true false false
  · exact local_groupPiece _ _
  · exact (((local_sign _ (by decide)).append (local_plainly local_pointerMark)).append
      (h.typePiece false)).less (by decide)
  · have marks : Rule.Local 1 (n + 1)
        (op "&" ++ maybe Look.lifetime lifetime ++ optionalWord "mut") :=
      ((local_op (by decide)).append (.maybe blind_lifetime.wide local_lifetime.free)).append
        (local_optionalWord _)
    exact ((local_plainly marks).append (h.typePiece false)).less (by decide)
  · exact local_sign _ (by decide)
  · exact local_plainly (local_word _)

theorem Local.anyType (h : g.Local) (plus : Bool) : Rule.Local 1 n (g.anyType plus) := by
  refine Local.bind (l := 1) (local_plainly h.binder) fun binder => Local.get ?_ fun rest => ?_
  · have blind : Blind (n + 1) fun rest : Code =>
        if Look.oneOf ["fn", "unsafe", "extern"] rest then do
          return .compound (binder ++ (← g.functionType))
        else if Look.pathWord rest || (binder.isEmpty && Look.oneOp ["::", "<"] rest) then
          g.pathType plus binder
        else do
          check binder.isEmpty
          return .compound (← g.compoundType plus) :=
      .ite (blind_oneOf _).wide (blind_const _) <|
        .ite (blind_pathWord.or ((blind_const _).and (blind_oneOp (by decide)))).wide
          (blind_const _) (blind_const _)
    intro z e alike
    obtain ⟨t, z', e', rfl, rfl⟩ := alike.head
    match t with
    | .group .round inner => rfl
    | .group .square _ | .group .curly _ | .word _ | .punct .. | .literal _ => exact blind alike
  · split
    · exact .ite (h.parenthesized plus _) local_failure
    · refine .ite (h.functionType.bind fun _ => local_pure _) (.ite (h.pathType plus binder) ?_)
      exact Local.bind (l := 1) (local_check _) fun _ =>
        (h.compoundType plus).bind fun _ => local_pure _

theorem local_grammar (n : Nat) : (grammar n).Local := by
  induction n with
  | zero => exact ⟨fun _ => local_failure, fun _ _ => local_failure⟩
  | succ n ih => exact ⟨ih.anyType, ih.anyBound⟩

end Concretize.Code.Grammar
