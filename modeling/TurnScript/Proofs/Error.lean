import TurnScript.Evaluation

/-!
# Errors of operations

What can go wrong in the operations on values, scopes and the store: every error but those of
loading, the depth limit, and a procedure that is not defined. `Operational` says that a computation
has no other error, and there is one lemma for each operation that evaluation uses.
-/

namespace TurnScript

section Results

variable {ε α : Type} {x : Except ε α}

/-- Whether there is a value can be decided, also if errors cannot be compared. -/
theorem eq_ok_of_toOption {a : α} (h : x.toOption = some a) : x = .ok a := by
  cases x with
  | error e => cases h
  | ok b => exact congrArg _ (Option.some.inj h)

theorem exists_eq_error_of_toOption (h : x.toOption.isNone) : ∃ e, x = .error e := by
  cases x with
  | error e => exact ⟨e, rfl⟩
  | ok a => cases h

end Results

/-- An error that an operation can raise: none of loading, none of the depth limit, and not that a
    procedure is missing. Nothing is on its trail yet. -/
def Error.IsOperational : Error → Prop
  | .parse _ | .duplicateProcedure _ | .invalidDefinition _ | .procedureNotFound _ => False
  | .evaluation (.depthExceeded _) _ => False
  | .stateKeyNotFound _ | .statePathConflict _ | .invalidStatePath _ | .keyNotFound _ => True
  | .mismatch _ (_ :: _) | .evaluation .emptyList (_ :: _) => False
  | .indexOutOfRange .. | .mismatch _ [] | .evaluation .emptyList [] | .arity .. => True

/-- The computation fails with an error of an operation, if it fails. -/
def Operational {α : Type} (x : Except Error α) : Prop := ∀ e, x = .error e → e.IsOperational

namespace Operational

variable {α β : Type}

theorem ok (a : α) : Operational (.ok a) := nofun

theorem error {e : Error} (h : e.IsOperational) : Operational (.error e : Except Error α) := by
  rintro _ ⟨⟩
  exact h

theorem bind {x : Except Error α} {f : α → Except Error β} (hx : Operational x)
    (hf : ∀ a, Operational (f a)) : Operational (x >>= f) := by
  cases x with
  | error e => exact error (hx e rfl)
  | ok a => exact hf a

theorem mapM {f : α → Except Error β} (hf : ∀ a, Operational (f a)) (as : List α) :
    Operational (as.mapM f) := by
  induction as with
  | nil => exact ok []
  | cons a as ih =>
    rw [List.mapM_cons]
    exact (hf a).bind fun b => ih.bind fun bs => ok (b :: bs)

theorem foldlM {f : β → α → Except Error β} (hf : ∀ b a, Operational (f b a)) (as : List α)
    (b : β) : Operational (as.foldlM f b) := by
  induction as generalizing b with
  | nil => exact ok b
  | cons a as ih =>
    rw [List.foldlM_cons]
    exact (hf b a).bind ih

/-! ## Values -/

theorem asNumber (v : Value) : Operational v.asNumber := by
  cases v <;> first | exact ok _ | exact error trivial

theorem asString (v : Value) : Operational v.asString := by
  cases v <;> first | exact ok _ | exact error trivial

theorem stringFor (operation what : String) (v : Value) :
    Operational (v.stringFor operation what) := by
  cases v <;> first | exact ok _ | exact error trivial

theorem textFor (operation what : String) (v : Value) : Operational (v.textFor operation what) := by
  unfold Value.textFor
  cases v.plainText? with
  | some s => exact ok s
  | none => exact error trivial

theorem member (key : String) (v : Value) : Operational (v.member key) := by
  unfold Value.member
  split
  · split
    · exact ok _
    · exact error trivial
  · exact error trivial

theorem memberAlong (keys : List String) (v : Value) : Operational (v.memberAlong keys) :=
  foldlM (fun v key => member key v) keys v

theorem itemAt (items : List Value) (index : Int64) :
    Operational (Function.itemAt items index) := by
  simp only [Function.itemAt]
  split
  · exact ok _
  · exact error trivial

theorem numberedTexts (operation : String) (arguments : List Value) :
    Operational (Function.numberedTexts operation arguments) :=
  mapM (fun (v, _) => textFor _ _ v) _

/-! ## Scopes, the store and arities -/

theorem storeGet (path : String) (store : Store) : Operational (store.get path) := by
  unfold Store.get
  split
  · exact ok _
  · exact error trivial

theorem storeSet (path : String) (v : Value) (store : Store) : Operational (store.set path v) := by
  unfold Store.set
  split
  · exact error trivial
  · exact error trivial
  · split
    · exact ok _
    · exact error trivial

theorem lookUp (name : String) (scope : Scope) (store : Store) :
    Operational (Evaluation.lookUp name scope store) := by
  unfold Evaluation.lookUp
  split
  · exact ok _
  · exact ok _
  · split
    · split
      · exact memberAlong _ _
      · exact storeGet _ _
    · exact storeGet _ _

theorem check (expected : Arity) (operation : String) (count : Nat) :
    Operational (expected.check operation count) := by
  unfold Arity.check
  split
  · exact ok _
  · exact error trivial

end Operational

end TurnScript
