import WindowRelay.Message.Call
import WindowRelay.Numeric.Coordinate

/-!
Contract: work that is cut short because a coordinate left its range.

Owns:
- the cause of an interruption together with the calls that had gone out by then;
- the interruption of work that comes behind other work.

Calls go out one by one, so those in front of the operation that failed are not taken back.
-/

namespace WindowRelay

/-- An interruption: the operation that failed, and the calls in front of it. -/
structure Interruption where
  cause : Overflow
  sent : List Call := []
deriving DecidableEq, Repr

namespace Interruption

/-- The interruption of work behind some calls. -/
def behind (earlier : List Call) (interruption : Interruption) : Interruption :=
  { interruption with sent := earlier ++ interruption.sent }

/-- The outcome of arithmetic that comes behind some calls. -/
def after (earlier : List Call) (outcome : Except Overflow α) : Except Interruption α :=
  outcome.mapError fun cause => ⟨cause, earlier⟩

/-- Arithmetic without calls in front of it. -/
instance : MonadLift (Except Overflow) (Except Interruption) := ⟨after []⟩

/-- Calls in front do not change what arithmetic gives. -/
theorem after_eq_ok_iff {earlier : List Call} {outcome : Except Overflow α} {value : α} :
    after earlier outcome = .ok value ↔ outcome = .ok value := by
  cases outcome with
  | ok result =>
      constructor
      · intro same
        have results : Except.ok (ε := Interruption) result = .ok value := same
        cases results
        rfl
      · intro same
        cases same
        rfl
  | error cause =>
      constructor
      · intro same
        have results : Except.error (Interruption.mk cause earlier) = .ok value := same
        cases results
      · intro same
        cases same

end Interruption

end WindowRelay
