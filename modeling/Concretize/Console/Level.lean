/-!
# Levels

How important a record is, from errors down to traces.
-/
namespace Concretize.Console

/-- How important a record is. -/
inductive Level where
  | error
  | warn
  | info
  | debug
  | trace
deriving DecidableEq, Repr

/-- How much is shown at a level: a level shows all records of the same or a lower rank. -/
def Level.rank : Level → Nat
  | .error => 0
  | .warn => 1
  | .info => 2
  | .debug => 3
  | .trace => 4

/-- Whether a record of level `l` is important enough to be shown at level `shown`. -/
def Level.reaches (l shown : Level) : Bool := l.rank ≤ shown.rank

end Concretize.Console
