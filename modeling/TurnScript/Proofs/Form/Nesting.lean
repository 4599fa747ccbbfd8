import TurnScript.Form

/-!
# Forms and the forms in them

An induction principle for forms, in which the list case has the hypothesis for every element, and
two things that are collected from all the forms in a form: its symbols, and how deeply its lists
are nested.
-/

namespace TurnScript.Form

/-- What holds of a list whenever it holds of its elements, and of symbols, texts and numbers, holds
    of every form. -/
@[induction_eliminator]
theorem induct {motive : Form → Prop} (symbol : ∀ name, motive (.symbol name))
    (text : ∀ content, motive (.text content)) (number : ∀ value, motive (.number value))
    (list : ∀ items, (∀ item ∈ items, motive item) → motive (.list items)) (form : Form) :
    motive form :=
  @Form.rec motive (fun items => ∀ item ∈ items, motive item) symbol text number list
    (fun _ hitem => absurd hitem List.not_mem_nil)
    (fun _ _ hfirst hrest item hitem =>
      (List.mem_cons.1 hitem).elim (fun heq => heq ▸ hfirst) (hrest item)) form

/-! ## Symbols -/

mutual

/-- The symbols in a form, from left to right. -/
def symbols : Form → List String
  | .symbol name => [name]
  | .text _ | .number _ => []
  | .list items => symbolsIn items

/-- The symbols in several forms. -/
def symbolsIn : List Form → List String
  | [] => []
  | form :: rest => symbols form ++ symbolsIn rest

end

theorem mem_symbolsIn_iff {name : String} {forms : List Form} :
    name ∈ symbolsIn forms ↔ ∃ form ∈ forms, name ∈ form.symbols := by
  induction forms with
  | nil => simp [symbolsIn]
  | cons form rest ih => simp [symbolsIn, ih]

theorem mem_symbols_list_iff {name : String} {items : List Form} :
    name ∈ (list items).symbols ↔ ∃ item ∈ items, name ∈ item.symbols := by
  rw [symbols, mem_symbolsIn_iff]

/-! ## Nesting -/

mutual

/-- How many lists are open at once in a form. -/
def nesting : Form → Nat
  | .symbol _ | .text _ | .number _ => 0
  | .list items => nestingIn items + 1

/-- The greatest nesting of several forms. -/
def nestingIn : List Form → Nat
  | [] => 0
  | form :: rest => max (nesting form) (nestingIn rest)

end

theorem nestingIn_le_iff {forms : List Form} {n : Nat} :
    nestingIn forms ≤ n ↔ ∀ form ∈ forms, form.nesting ≤ n := by
  induction forms with
  | nil => simp [nestingIn]
  | cons form rest ih => rw [nestingIn, Nat.max_le, ih, List.forall_mem_cons]

/-- A list is nested one deeper than its elements. -/
theorem nesting_list_le_iff {items : List Form} {n : Nat} :
    (list items).nesting ≤ n + 1 ↔ ∀ item ∈ items, item.nesting ≤ n := by
  rw [nesting, Nat.add_le_add_iff_right, nestingIn_le_iff]

end TurnScript.Form
