/-!
# Numbers of arguments
-/

namespace TurnScript

/-- How many arguments an operation takes. -/
inductive Arity
  /-- This many. -/
  | exactly (count : Nat)
  /-- This many or more. -/
  | atLeast (least : Nat)
  /-- From `least` to `most`, both included. -/
  | between (least most : Nat)
  /-- Any number. -/
  | any
  deriving DecidableEq, Repr

namespace Arity

/-- Whether `count` arguments are right. -/
def accepts (count : Nat) : Arity → Bool
  | exactly n => count == n
  | atLeast least => least ≤ count
  | between least most => least ≤ count && count ≤ most
  | any => true

/-- The number in words, to be followed by "arguments". -/
def display : Arity → String
  | exactly n => "exactly " ++ toString n
  | atLeast least => "at least " ++ toString least
  | between least most => "between " ++ toString least ++ " and " ++ toString most
  | any => "any number of"

end Arity

end TurnScript
