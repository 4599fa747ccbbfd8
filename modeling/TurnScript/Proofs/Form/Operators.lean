import TurnScript.Program.Check

/-!
# The operator forms in a form

Where the operator forms are in a form: every list with a symbol at its head is one, and the others
are in its elements, but of the bindings of a `LET` only in the expressions (`Contains`). The search
finds these and no others (`mem_operatorForms_iff`).
-/

namespace TurnScript.Form

/-- The elements are those of a `LET` with a list of bindings. -/
def BindsIn (operator : String) (arguments : List Form) : Prop :=
  operator = "LET" ∧ ∃ bindings body, arguments = .list bindings :: body

/-- The operator form is in the form. -/
inductive Contains (f : OperatorForm) : Form → Prop
  /-- It is the form. -/
  | here : Contains f (.list (.symbol f.operator :: f.arguments))
  /-- It is in an argument of an operator, but for `LET` and its bindings. -/
  | argument {operator : String} {arguments : List Form} {form : Form} :
    ¬BindsIn operator arguments → form ∈ arguments → Contains f form →
    Contains f (.list (.symbol operator :: arguments))
  /-- It is in an expression of a binding, behind the name. -/
  | expression {bindings body expressions : List Form} {name form : Form} :
    .list (name :: expressions) ∈ bindings → form ∈ expressions → Contains f form →
    Contains f (.list (.symbol "LET" :: .list bindings :: body))
  /-- It is in the body of a `LET`. -/
  | body {bindings body : List Form} {form : Form} : form ∈ body → Contains f form →
    Contains f (.list (.symbol "LET" :: .list bindings :: body))
  /-- It is in an element of a list without an operator. -/
  | element {items : List Form} {form : Form} :
    (∀ operator arguments, items ≠ .symbol operator :: arguments) → form ∈ items → Contains f form →
    Contains f (.list items)

variable {f : OperatorForm}

/-! ## The search -/

theorem operatorForms_operator {operator : String} {arguments : List Form}
    (h : ¬BindsIn operator arguments) :
    (list (.symbol operator :: arguments)).operatorForms =
      ⟨operator, arguments⟩ :: operatorFormsIn arguments := by
  rw [operatorForms]
  exact fun bindings body hbindings hlet => h ⟨hlet, bindings, body, hbindings⟩

theorem operatorForms_elements {items : List Form}
    (h : ∀ operator arguments, items ≠ .symbol operator :: arguments) :
    (list items).operatorForms = operatorFormsIn items := by
  rw [operatorForms]
  · exact fun bindings body hlet => h _ _ hlet
  · exact fun operator arguments hitems => h _ _ hitems

theorem mem_operatorFormsIn_iff {forms : List Form} :
    f ∈ operatorFormsIn forms ↔ ∃ form ∈ forms, f ∈ form.operatorForms := by
  induction forms with
  | nil => simp [operatorFormsIn]
  | cons form rest ih => simp [operatorFormsIn, ih]

theorem mem_operatorFormsInBindings_iff {bindings : List Form} :
    f ∈ operatorFormsInBindings bindings ↔
      ∃ name expressions, .list (name :: expressions) ∈ bindings ∧
        ∃ form ∈ expressions, f ∈ form.operatorForms := by
  induction bindings with
  | nil => simp [operatorFormsInBindings]
  | cons binding rest ih =>
    cases binding with
    | symbol => simp [operatorFormsInBindings, ih]
    | text => simp [operatorFormsInBindings, ih]
    | number => simp [operatorFormsInBindings, ih]
    | list pair =>
      cases pair with
      | nil => simp [operatorFormsInBindings, ih]
      | cons first expressions =>
        rw [operatorFormsInBindings, List.mem_append, ih, mem_operatorFormsIn_iff]
        constructor
        · rintro (hfirst | ⟨name, others, hmem, hrest⟩)
          · exact ⟨first, expressions, List.mem_cons_self, hfirst⟩
          · exact ⟨name, others, List.mem_cons_of_mem _ hmem, hrest⟩
        · rintro ⟨name, others, hmem, hrest⟩
          rcases List.mem_cons.1 hmem with heq | hmem
          · cases heq
            exact .inl hrest
          · exact .inr ⟨name, others, hmem, hrest⟩

theorem mem_operatorForms_let_iff {bindings body : List Form} :
    f ∈ (list (.symbol "LET" :: .list bindings :: body)).operatorForms ↔
      f = ⟨"LET", .list bindings :: body⟩ ∨ f ∈ operatorFormsInBindings bindings ∨
        f ∈ operatorFormsIn body := by
  rw [operatorForms, List.mem_cons, List.mem_append]

/-- What is in a form is found. -/
theorem Contains.mem_operatorForms {form : Form} (h : Contains f form) :
    f ∈ form.operatorForms := by
  induction h with
  | here =>
    -- the operator form itself comes first, whether or not its arguments are bindings
    by_cases hlet : BindsIn f.operator f.arguments
    · obtain ⟨operator, arguments⟩ := f
      obtain ⟨rfl, bindings, body, rfl⟩ := hlet
      exact mem_operatorForms_let_iff.2 (.inl rfl)
    · rw [operatorForms_operator hlet]
      exact List.mem_cons_self
  | argument hlet hform _ ih =>
    rw [operatorForms_operator hlet]
    exact List.mem_cons_of_mem _ (mem_operatorFormsIn_iff.2 ⟨_, hform, ih⟩)
  | expression hpair hform _ ih =>
    exact mem_operatorForms_let_iff.2
      (.inr (.inl (mem_operatorFormsInBindings_iff.2 ⟨_, _, hpair, _, hform, ih⟩)))
  | body hform _ ih =>
    exact mem_operatorForms_let_iff.2 (.inr (.inr (mem_operatorFormsIn_iff.2 ⟨_, hform, ih⟩)))
  | element hitems hform _ ih =>
    rw [operatorForms_elements hitems]
    exact mem_operatorFormsIn_iff.2 ⟨_, hform, ih⟩

theorem sizeOf_lt_list {items : List Form} {form : Form} (h : form ∈ items) :
    sizeOf form < sizeOf (list items) := by
  have := List.sizeOf_lt_of_mem h
  rw [list.sizeOf_spec]
  omega

/-- What is found is in the form. -/
theorem contains_of_mem_operatorForms (form : Form) (h : f ∈ form.operatorForms) :
    Contains f form := by
  match form with
  | .symbol _ | .text _ | .number _ => simp [operatorForms] at h
  | .list [] => simp [operatorForms, operatorFormsIn] at h
  | .list (.symbol operator :: arguments) =>
    by_cases hlet : BindsIn operator arguments
    · obtain ⟨hoperator, bindings, body, harguments⟩ := hlet
      rw [hoperator, harguments] at h ⊢
      rcases mem_operatorForms_let_iff.1 h with rfl | h | h
      · exact .here
      · obtain ⟨name, expressions, hpair, form, hform, h⟩ := mem_operatorFormsInBindings_iff.1 h
        -- the expression is three lists below the form
        have hexpression := sizeOf_lt_list (List.mem_cons_of_mem name hform)
        have hbindings : list bindings ∈ symbol operator :: arguments := by simp [harguments]
        have hless := Nat.lt_trans hexpression
          (Nat.lt_trans (sizeOf_lt_list hpair) (sizeOf_lt_list hbindings))
        exact .expression hpair hform (contains_of_mem_operatorForms form h)
      · obtain ⟨form, hform, h⟩ := mem_operatorFormsIn_iff.1 h
        have hbody : form ∈ symbol operator :: arguments := by simp [harguments, hform]
        have hless := sizeOf_lt_list hbody
        exact .body hform (contains_of_mem_operatorForms form h)
    · rw [operatorForms_operator hlet] at h
      rcases List.mem_cons.1 h with rfl | h
      · exact .here
      · obtain ⟨form, hform, h⟩ := mem_operatorFormsIn_iff.1 h
        have hless := sizeOf_lt_list (List.mem_cons_of_mem (symbol operator) hform)
        exact .argument hlet hform (contains_of_mem_operatorForms form h)
  | .list (.text content :: rest) | .list (.number n :: rest) | .list (.list first :: rest) =>
    rw [operatorForms_elements (by simp)] at h
    obtain ⟨form, hform, h⟩ := mem_operatorFormsIn_iff.1 h
    have hless := sizeOf_lt_list hform
    exact .element (by simp) hform (contains_of_mem_operatorForms form h)
termination_by sizeOf form
decreasing_by all_goals exact hless

theorem mem_operatorForms_iff {form : Form} : f ∈ form.operatorForms ↔ Contains f form :=
  ⟨contains_of_mem_operatorForms form, Contains.mem_operatorForms⟩

end TurnScript.Form
