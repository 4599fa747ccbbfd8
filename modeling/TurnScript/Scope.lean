import TurnScript.Value

/-!
# Scopes

What names mean inside a procedure: its parameters and local bindings, the innermost of a name
counting. Each call has a scope of its own, which also holds the call's *command context*, its
first argument.
-/

namespace TurnScript

/-- The bindings in force, the latest first, and the command context. -/
structure Scope where
  bindings : List (String × Value) := []
  context : Value := .absent
  deriving DecidableEq, Inhabited

namespace Scope

/-- The scope in which `name` means `v`. -/
def define (name : String) (v : Value) (scope : Scope) : Scope :=
  { scope with bindings := (name, v) :: scope.bindings }

/-- What `name` means. -/
def find? (name : String) (scope : Scope) : Option Value := Keyed.find? name scope.bindings

/-- The scope with parameters bound to arguments in order; a parameter without an argument is
    absent. -/
def bindAll : List String → List Value → Scope → Scope
  | [], _, scope => scope
  | p :: ps, [], scope => bindAll ps [] (scope.define p .absent)
  | p :: ps, v :: vs, scope => bindAll ps vs (scope.define p v)

/-- The scope of a call. -/
def ofCall (parameters : List String) (arguments : List Value) : Scope :=
  bindAll parameters arguments { context := arguments.headD .absent }

@[simp] theorem find?_define_self (name : String) (v : Value) (scope : Scope) :
    (scope.define name v).find? name = some v := by
  simp [define, find?, Keyed.find?]

theorem find?_define_of_ne {name other : String} (h : other ≠ name) (v : Value) (scope : Scope) :
    (scope.define name v).find? other = scope.find? other := by
  simp [define, find?, Keyed.find?, h.symm]

@[simp] theorem context_define (name : String) (v : Value) (scope : Scope) :
    (scope.define name v).context = scope.context := rfl

end Scope

end TurnScript
