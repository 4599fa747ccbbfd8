import Mathlib.Data.List.Forall2
import Mathlib.Data.List.Induction
import Mathlib.Data.List.Perm.Basic
import TurnScript.Program
import TurnScript.Proofs.Keyed

/-!
# What programs define

A definition has the shape of `Procedure.DefinedBy`, which names the procedure, or one of the shapes
of `Procedure.Malformed`, which name the fault; there is no third case (`definedBy_or_malformed`).

A program of some forms is made of the procedures of the definitions among them
(`Program.ofProcedures`), and there is one exactly if all of these are well formed and no name is
defined twice. Otherwise the first form that is malformed, or defines a name again, is the error
(`ofForms_cases`). Since the procedures have different names, their order does not matter.

* `ofForms_holds_definitions`: when there is a program, what it holds, and what the error is if
  there is none.
-/

namespace TurnScript

/-! ## Definitions -/

namespace Procedure

/-- The definitions that are well formed, and the procedures that they define. -/
inductive DefinedBy : Form → Procedure → Prop
  /-- A `SEQ` that stands alone is its parts. -/
  | sequence {name : String} {parameters : List String} {parts : List Form} : parameters.Nodup →
    DefinedBy
      (.list [.symbol definitionHead, .symbol name, .list (parameters.map .symbol),
        .list (.symbol "SEQ" :: parts)])
      ⟨name, parameters, parts⟩
  | plain {name : String} {parameters : List String} {body : List Form} : parameters.Nodup →
    (∀ parts, body ≠ [.list (.symbol "SEQ" :: parts)]) →
    DefinedBy
      (.list (.symbol definitionHead :: .symbol name :: .list (parameters.map .symbol) :: body))
      ⟨name, parameters, body⟩

/-- The definitions that define nothing, and what is wrong with them. Of the parameters, the first
    that is at fault is to blame. -/
inductive Malformed : Form → DefinitionFault → Prop
  | tooShort {arguments : List Form} : arguments.length < 2 →
    Malformed (.list (.symbol definitionHead :: arguments)) (.tooShort arguments.length)
  | badName {form parameters : Form} {body : List Form} : (∀ name, form ≠ .symbol name) →
    Malformed (.list (.symbol definitionHead :: form :: parameters :: body)) (.badName form)
  | parametersNotList {name : String} {form : Form} {body : List Form} :
    (∀ items, form ≠ .list items) →
    Malformed (.list (.symbol definitionHead :: .symbol name :: form :: body))
      (.parametersNotList name form)
  | badParameter {name : String} {before : List String} {form : Form} {after body : List Form} :
    before.Nodup → (∀ p, form ≠ .symbol p) →
    Malformed
      (.list (.symbol definitionHead :: .symbol name ::
        .list (before.map .symbol ++ form :: after) :: body))
      (.badParameter name form)
  | repeatedParameter {name p : String} {before : List String} {after body : List Form} :
    before.Nodup → p ∈ before →
    Malformed
      (.list (.symbol definitionHead :: .symbol name ::
        .list (before.map .symbol ++ .symbol p :: after) :: body))
      (.repeatedParameter name p)

variable {form : Form} {p : Procedure} {fault : DefinitionFault} {name : String}

/-- Forms are different symbols, or there is a first one that is no symbol or occurs before. -/
theorem parameters_cases (forms : List Form) :
    (∃ names : List String, names.Nodup ∧ forms = names.map .symbol) ∨
      ∃ (before : List String) (form : Form) (after : List Form), before.Nodup ∧
        forms = before.map .symbol ++ form :: after ∧
        ((∀ p, form ≠ .symbol p) ∨ ∃ p ∈ before, form = .symbol p) := by
  induction forms using List.reverseRecOn with
  | nil => exact .inl ⟨[], List.nodup_nil, rfl⟩
  | append_singleton forms form ih =>
    obtain ⟨names, hnames, rfl⟩ | ⟨before, bad, after, hbefore, rfl, hbad⟩ := ih
    · by_cases hsymbol : ∃ p, form = .symbol p
      · obtain ⟨p, rfl⟩ := hsymbol
        by_cases hp : p ∈ names
        · exact .inr ⟨names, .symbol p, [], hnames, rfl, .inr ⟨p, hp, rfl⟩⟩
        · exact .inl ⟨names.concat p, List.Nodup.concat hp hnames, by simp⟩
      · exact .inr ⟨names, form, [], hnames, rfl, .inl fun p hp => hsymbol ⟨p, hp⟩⟩
    · exact .inr ⟨before, bad, after ++ [form], hbefore, by simp, hbad⟩

/-- Different symbols are added one by one. -/
theorem foldlM_addParameter {names : List String} (h : names.Nodup) :
    (names.map Form.symbol).foldlM (addParameter name) [] = .ok names := by
  induction names using List.reverseRecOn with
  | nil => rfl
  | append_singleton names p ih =>
    rw [← List.concat_eq_append, List.nodup_concat] at h
    obtain ⟨hp, hnames⟩ := h
    rw [List.map_append, List.foldlM_append, ih hnames]
    simp [addParameter, hp, bind, Except.bind, pure, Except.pure]

/-- The first parameter at fault is the error. -/
theorem foldlM_addParameter_error {before : List String} {after : List Form} (h : before.Nodup)
    (hform : addParameter name before form = .error fault) :
    (before.map Form.symbol ++ form :: after).foldlM (addParameter name) [] = .error fault := by
  rw [List.foldlM_append, foldlM_addParameter h]
  simp only [List.foldlM_cons, bind, Except.bind, hform]

theorem DefinedBy.ofDefinition_eq (h : p.DefinedBy form) : ofDefinition form.tail = .ok p := by
  cases h with
  | sequence hparameters =>
    simp only [Form.tail, ofDefinition, foldlM_addParameter hparameters]
    rfl
  | @plain name parameters body hparameters hbody =>
    have hstatements : statements body = body := by
      unfold statements
      split
      · exact absurd rfl (hbody _)
      · rfl
    simp only [Form.tail, ofDefinition, foldlM_addParameter hparameters, hstatements]
    rfl

theorem Malformed.ofDefinition_eq (h : Malformed form fault) :
    ofDefinition form.tail = .error fault := by
  cases h with
  | @tooShort arguments hshort =>
    rcases arguments with _ | ⟨first, _ | ⟨second, rest⟩⟩
    · rfl
    · cases first <;> rfl
    · simp only [List.length_cons] at hshort
      omega
  | @badName form parameters body hname =>
    cases form with
    | symbol name => exact absurd rfl (hname name)
    | _ => rfl
  | @parametersNotList name form body hlist =>
    cases form with
    | list items => exact absurd rfl (hlist items)
    | _ => rfl
  | @badParameter name before form after body hbefore hsymbol =>
    have hform : addParameter name before form = .error (.badParameter name form) := by
      cases form with
      | symbol p => exact absurd rfl (hsymbol p)
      | _ => rfl
    simp only [Form.tail, ofDefinition, foldlM_addParameter_error hbefore hform]
    rfl
  | @repeatedParameter name p before after body hbefore hp =>
    have hform : addParameter name before (.symbol p) = .error (.repeatedParameter name p) :=
      if_pos hp
    simp only [Form.tail, ofDefinition, foldlM_addParameter_error hbefore hform]
    rfl

/-- A definition is well formed or not, but not both. -/
theorem DefinedBy.not_malformed (h : p.DefinedBy form) : ¬ Malformed form fault := fun hmalformed =>
  nomatch h.ofDefinition_eq.symm.trans hmalformed.ofDefinition_eq

theorem DefinedBy.head?_eq (h : p.DefinedBy form) : form.head? = some definitionHead := by
  cases h <;> rfl

theorem Malformed.head?_eq (h : Malformed form fault) : form.head? = some definitionHead := by
  cases h <;> rfl

theorem DefinedBy.unique {q : Procedure} (hp : p.DefinedBy form) (hq : q.DefinedBy form) : p = q :=
  Except.ok.inj (hp.ofDefinition_eq.symm.trans hq.ofDefinition_eq)

theorem definedBy_or_malformed (h : form.head? = some definitionHead) :
    (∃ p : Procedure, p.DefinedBy form) ∨ ∃ fault, Malformed form fault := by
  obtain ⟨arguments, rfl⟩ : ∃ arguments, form = .list (.symbol definitionHead :: arguments) := by
    unfold Form.head? at h
    split at h
    · exact ⟨_, by rw [Option.some.inj h]⟩
    · cases h
  rcases arguments with _ | ⟨first, _ | ⟨second, body⟩⟩
  · exact .inr ⟨_, .tooShort Nat.zero_lt_two⟩
  · exact .inr ⟨_, .tooShort Nat.one_lt_two⟩
  by_cases hname : ∃ name, first = .symbol name
  swap
  · exact .inr ⟨_, .badName fun name heq => hname ⟨name, heq⟩⟩
  obtain ⟨name, rfl⟩ := hname
  by_cases hlist : ∃ forms, second = .list forms
  swap
  · exact .inr ⟨_, .parametersNotList fun forms heq => hlist ⟨forms, heq⟩⟩
  obtain ⟨forms, rfl⟩ := hlist
  obtain ⟨names, hnames, rfl⟩ | ⟨before, bad, after, hbefore, rfl, hbad⟩ := parameters_cases forms
  · by_cases hbody : ∃ parts, body = [.list (.symbol "SEQ" :: parts)]
    · obtain ⟨parts, rfl⟩ := hbody
      exact .inl ⟨_, .sequence hnames⟩
    · exact .inl ⟨_, .plain hnames fun parts heq => hbody ⟨parts, heq⟩⟩
  · obtain hsymbol | ⟨p, hp, rfl⟩ := hbad
    · exact .inr ⟨_, .badParameter hbefore hsymbol⟩
    · exact .inr ⟨_, .repeatedParameter hbefore hp⟩

end Procedure

/-! ## Programs -/

theorem exists_of_mem_left {α β : Type} {R : α → β → Prop} {as : List α} {bs : List β} {a : α}
    (h : List.Forall₂ R as bs) (ha : a ∈ as) : ∃ b ∈ bs, R a b := by
  induction h with
  | nil => exact absurd ha List.not_mem_nil
  | cons hab _ ih =>
    rcases List.mem_cons.1 ha with rfl | ha
    · exact ⟨_, List.mem_cons_self, hab⟩
    · obtain ⟨b, hb, hab⟩ := ih ha
      exact ⟨b, List.mem_cons_of_mem _ hb, hab⟩

namespace Program

open Procedure

variable {forms others : List Form} {form : Form} {program : Program} {p : Procedure}
  {ps qs : List Procedure} {fault : DefinitionFault} {name : String} {e : Error}

theorem isDefinition_iff : isDefinition form ↔ form.head? = some definitionHead := beq_iff_eq

/-- The names that definitions give, well formed or not. -/
def definedNames (forms : List Form) : List String :=
  (forms.filter isDefinition).filterMap fun form => form.tail.head?.bind Form.symbol?

/-- The definitions among the forms are well formed, and their names are different. -/
structure WellDefined (forms : List Form) : Prop where
  exists_definedBy : ∀ form ∈ forms, isDefinition form → ∃ p : Procedure, p.DefinedBy form
  nodup : (definedNames forms).Nodup

/-- Behind the forms `before`, a definition spoils the program if it is malformed, or gives a name
    again. -/
inductive Spoils (before : List Form) (form : Form) : Error → Prop
  | malformed {fault : DefinitionFault} : Malformed form fault →
    Spoils before form (.invalidDefinition fault)
  | repeated {p : Procedure} : p.DefinedBy form → p.name ∈ definedNames before →
    Spoils before form (.duplicateProcedure p.name)

/-! ### One more form -/

theorem add_of_not_isDefinition (h : ¬ isDefinition form) : program.add form = .ok program :=
  if_neg h

theorem add_of_malformed (h : Malformed form fault) :
    program.add form = .error (.invalidDefinition fault) := by
  rw [add, if_pos (isDefinition_iff.2 h.head?_eq), h.ofDefinition_eq]

theorem add_of_definedBy (h : p.DefinedBy form) :
    program.add form =
      if program.defines p.name then .error (.duplicateProcedure p.name)
      else .ok { procedures := Keyed.insert p.name p program.procedures } := by
  rw [add, if_pos (isDefinition_iff.2 h.head?_eq), h.ofDefinition_eq]

theorem ofForms_concat (forms : List Form) (form : Form) :
    ofForms (forms ++ [form]) = ofForms forms >>= fun program => program.add form := by
  rw [ofForms, List.foldlM_append]
  simp only [List.foldlM_cons, List.foldlM_nil, bind_pure]
  rfl

theorem lookUp_eq_ok_iff : program.lookUp name = .ok p ↔ program.find? name = some p := by
  rw [lookUp]
  cases program.find? name <;> simp

/-! ### The procedures of a program -/

/-- The definitions among the forms are well formed, and define these procedures. -/
def Define (forms : List Form) (ps : List Procedure) : Prop :=
  List.Forall₂ (fun form p => DefinedBy form p) (forms.filter isDefinition) ps

/-- The program of these procedures. -/
def ofProcedures (ps : List Procedure) : Program :=
  { procedures := Keyed.ofEntries (ps.map fun p => (p.name, p)) }

theorem map_fst_entries (ps : List Procedure) :
    (ps.map fun p => (p.name, p)).map Prod.fst = ps.map Procedure.name := by
  rw [List.map_map]
  rfl

theorem ofProcedures_concat (ps : List Procedure) (p : Procedure) :
    ofProcedures (ps ++ [p]) =
      { procedures := Keyed.insert p.name p (ofProcedures ps).procedures } := by
  simp [ofProcedures, Keyed.ofEntries]

theorem mem_names_ofProcedures_iff :
    name ∈ (ofProcedures ps).names ↔ name ∈ ps.map Procedure.name := by
  rw [← map_fst_entries]
  exact Keyed.mem_keys_ofEntries_iff

theorem defines_ofProcedures_iff :
    (ofProcedures ps).defines name ↔ name ∈ ps.map Procedure.name := by
  rw [defines, Option.isSome_iff_exists, ← mem_names_ofProcedures_iff]
  exact Keyed.exists_find?_iff

theorem lookUp_ofProcedures_iff (h : (ps.map Procedure.name).Nodup) :
    (ofProcedures ps).lookUp name = .ok p ↔ p.name = name ∧ p ∈ ps := by
  rw [← map_fst_entries] at h
  rw [lookUp_eq_ok_iff, find?, ofProcedures, Keyed.find?_ofEntries_iff h, List.mem_map]
  constructor
  · rintro ⟨q, hq, heq⟩
    cases heq
    exact ⟨rfl, hq⟩
  · rintro ⟨rfl, hp⟩
    exact ⟨p, hp, rfl⟩

theorem ofProcedures_perm (h : (ps.map Procedure.name).Nodup) (hperm : ps.Perm qs) :
    ofProcedures ps = ofProcedures qs := by
  rw [← map_fst_entries] at h
  rw [ofProcedures, Keyed.ofEntries_perm h (hperm.map _), ofProcedures]

namespace Define

/-- A form that is no definition adds nothing. -/
theorem skip (h : Define forms ps) (hform : ¬ isDefinition form) : Define (forms ++ [form]) ps := by
  rw [Define, List.filter_append, List.filter_cons_of_neg hform, List.filter_nil, List.append_nil]
  exact h

theorem concat (h : Define forms ps) (hp : p.DefinedBy form) :
    Define (forms ++ [form]) (ps ++ [p]) := by
  have hform : isDefinition form := isDefinition_iff.2 hp.head?_eq
  rw [Define, List.filter_append, List.filter_cons_of_pos hform, List.filter_nil]
  exact List.rel_append h (.cons hp .nil)

theorem definedNames_eq (h : Define forms ps) : definedNames forms = ps.map Procedure.name := by
  rw [Define] at h
  rw [definedNames]
  generalize forms.filter isDefinition = definitions at h ⊢
  induction h with
  | nil => rfl
  | cons hp _ ih =>
    rw [List.map_cons, ← ih]
    cases hp <;> rfl

theorem exists_of_mem (h : Define forms ps) (hform : form ∈ forms) (hdef : isDefinition form) :
    ∃ p ∈ ps, p.DefinedBy form :=
  exists_of_mem_left h (List.mem_filter.2 ⟨hform, hdef⟩)

theorem mem_iff (h : Define forms ps) : p ∈ ps ↔ ∃ form ∈ forms, p.DefinedBy form := by
  constructor
  · intro hp
    obtain ⟨form, hform, hdefined⟩ := exists_of_mem_left h.flip hp
    exact ⟨form, (List.mem_filter.1 hform).1, hdefined⟩
  · rintro ⟨form, hform, hdefined⟩
    obtain ⟨q, hq, hdefined'⟩ := h.exists_of_mem hform (isDefinition_iff.2 hdefined.head?_eq)
    exact hdefined.unique hdefined' ▸ hq

theorem wellDefined (h : Define forms ps) (hnodup : (ps.map Procedure.name).Nodup) :
    WellDefined forms where
  exists_definedBy form hform hdef := by
    obtain ⟨p, -, hp⟩ := h.exists_of_mem hform hdef
    exact ⟨p, hp⟩
  nodup := h.definedNames_eq ▸ hnodup

end Define

theorem definedNames_append (before after : List Form) :
    definedNames (before ++ after) = definedNames before ++ definedNames after := by
  rw [definedNames, List.filter_append, List.filterMap_append]
  rfl

theorem definedNames_singleton (h : p.DefinedBy form) : definedNames [form] = [p.name] := by
  have hnone : Define [] [] := List.Forall₂.nil
  exact (hnone.concat h).definedNames_eq

/-- Nothing spoils forms that are well defined. -/
theorem WellDefined.not_spoils {before after : List Form}
    (h : WellDefined (before ++ form :: after)) : ¬ Spoils before form e := by
  rintro (hmalformed | ⟨hp, hname⟩)
  · obtain ⟨p, hp⟩ := h.exists_definedBy form (by simp) (isDefinition_iff.2 hmalformed.head?_eq)
    exact hp.not_malformed hmalformed
  · have hnodup := h.nodup
    rw [← List.singleton_append, definedNames_append, definedNames_append,
      definedNames_singleton hp] at hnodup
    exact (List.nodup_append.1 hnodup).2.2 _ hname _ List.mem_cons_self rfl

/-- The definitions make a program, or there is a first one that spoils it. -/
theorem ofForms_cases (forms : List Form) :
    (∃ ps, Define forms ps ∧ (ps.map Procedure.name).Nodup ∧
        ofForms forms = .ok (ofProcedures ps)) ∨
      ∃ before form after e, forms = before ++ form :: after ∧ WellDefined before ∧
        Spoils before form e ∧ ofForms forms = .error e := by
  induction forms using List.reverseRecOn with
  | nil => exact .inl ⟨[], .nil, List.nodup_nil, rfl⟩
  | append_singleton forms form ih =>
    rw [ofForms_concat]
    obtain ⟨ps, hps, hnodup, heq⟩ | ⟨before, bad, after, e, rfl, hbefore, hspoils, heq⟩ := ih
    · rw [heq]
      simp only [bind, Except.bind]
      by_cases hform : isDefinition form
      swap
      · exact .inl ⟨ps, hps.skip hform, hnodup, add_of_not_isDefinition hform⟩
      obtain ⟨p, hp⟩ | ⟨fault, hfault⟩ := definedBy_or_malformed (isDefinition_iff.1 hform)
      swap
      · exact .inr ⟨forms, form, [], _, rfl, hps.wellDefined hnodup, .malformed hfault,
          add_of_malformed hfault⟩
      rw [add_of_definedBy hp]
      by_cases hname : p.name ∈ ps.map Procedure.name
      · rw [if_pos (defines_ofProcedures_iff.2 hname)]
        exact .inr ⟨forms, form, [], _, rfl, hps.wellDefined hnodup,
          .repeated hp (hps.definedNames_eq ▸ hname), rfl⟩
      · rw [if_neg (mt defines_ofProcedures_iff.1 hname), ← ofProcedures_concat]
        refine .inl ⟨ps ++ [p], hps.concat hp, ?_, rfl⟩
        rw [List.map_append, List.map_singleton, ← List.concat_eq_append]
        exact List.Nodup.concat hname hnodup
    · rw [heq]
      exact .inr ⟨before, bad, after ++ [form], e, by simp, hbefore, hspoils, rfl⟩

theorem ofForms_of_define (h : Define forms ps) (hnodup : (ps.map Procedure.name).Nodup) :
    ofForms forms = .ok (ofProcedures ps) := by
  obtain ⟨qs, hqs, -, heq⟩ | ⟨before, form, after, e, rfl, -, hspoils, -⟩ := ofForms_cases forms
  · have hunique : Relator.RightUnique fun (form : Form) p => DefinedBy form p :=
      fun _ _ _ hp hq => hp.unique hq
    rw [heq, List.right_unique_forall₂' hunique h hqs]
  · exact absurd hspoils (h.wellDefined hnodup).not_spoils

/-! ### What a program holds -/

/-- The program holds exactly the procedures that the forms define: they are found by their names,
    the names ascend, and neither other forms nor the order of the definitions matter. -/
structure HoldsDefinitions (forms : List Form) (program : Program) : Prop where
  lookUp_eq_ok_iff : ∀ name p,
    program.lookUp name = .ok p ↔ p.name = name ∧ ∃ form ∈ forms, p.DefinedBy form
  ascending : program.names.Pairwise (· < ·)
  mem_names_iff : ∀ name, name ∈ program.names ↔ name ∈ definedNames forms
  size_eq : program.size = (forms.filter isDefinition).length
  ofForms_eq : ∀ others, (others.filter isDefinition).Perm (forms.filter isDefinition) →
    ofForms others = .ok program

theorem holdsDefinitions_ofProcedures (h : Define forms ps)
    (hnodup : (ps.map Procedure.name).Nodup) : HoldsDefinitions forms (ofProcedures ps) where
  lookUp_eq_ok_iff name p := by rw [lookUp_ofProcedures_iff hnodup, h.mem_iff]
  ascending := Keyed.sorted_ofEntries _
  mem_names_iff name := by rw [mem_names_ofProcedures_iff, h.definedNames_eq]
  size_eq := by
    have hentries : ((ps.map fun p => (p.name, p)).map Prod.fst).Nodup :=
      map_fst_entries ps ▸ hnodup
    rw [size, ofProcedures, Keyed.length_ofEntries hentries, List.length_map, h.length_eq]
  ofForms_eq others hperm := by
    obtain ⟨qs, hqs, hpermed⟩ := List.perm_comp_forall₂ hperm h
    have hnodup' : (qs.map Procedure.name).Nodup := (hpermed.map _).nodup_iff.2 hnodup
    rw [ofForms_of_define hqs hnodup', ofProcedures_perm hnodup' hpermed]

/-- There is a program of forms exactly if the definitions among them are well formed and give
    different names, and it holds just what these define. Otherwise the error is that of the first
    definition that is malformed, or gives the name of an earlier one again. -/
theorem ofForms_holds_definitions (forms : List Form) :
    ((∃ program, ofForms forms = .ok program) ↔ WellDefined forms) ∧
      (∀ program, ofForms forms = .ok program → HoldsDefinitions forms program) ∧
      ∀ e, ofForms forms = .error e → ∃ before form after, forms = before ++ form :: after ∧
        WellDefined before ∧ Spoils before form e := by
  obtain ⟨ps, hps, hnodup, heq⟩ | ⟨before, form, after, e, rfl, hbefore, hspoils, heq⟩ :=
    ofForms_cases forms
  · refine ⟨iff_of_true ⟨_, heq⟩ (hps.wellDefined hnodup), fun program h => ?_, fun e h => ?_⟩
    · obtain rfl := Except.ok.inj (heq.symm.trans h)
      exact holdsDefinitions_ofProcedures hps hnodup
    · exact nomatch heq.symm.trans h
  · refine ⟨iff_of_false (fun ⟨_, h⟩ => nomatch heq.symm.trans h) fun h => h.not_spoils hspoils,
      fun program h => (nomatch heq.symm.trans h), fun e' h => ?_⟩
    obtain rfl := Except.error.inj (heq.symm.trans h)
    exact ⟨before, form, after, rfl, hbefore, hspoils⟩

/-- A definition with parameters and one of a sequence, and between them a form that defines
    nothing. -/
def listing : List Form :=
  [.list [.symbol "DEFINE_PROCEDURE", .symbol "B", .list [.symbol "x", .symbol "y"], .symbol "y"],
    .text "note",
    .list [.symbol "DEFINE_PROCEDURE", .symbol "A", .list [],
      .list [.symbol "SEQ", .number 1, .number 2]]]

/-- The definitions read forwards and backwards, and a second time, which gives the names again. -/
theorem ofForms_holds_definitions_listing :
    (∃ program, ofForms listing = .ok program ∧ ofForms listing.reverse = .ok program ∧
        program.lookUp "A" = .ok ⟨"A", [], [.number 1, .number 2]⟩) ∧
      (∃ e, ofForms (listing ++ listing) = .error e) ∧ ¬ WellDefined (listing ++ listing) := by
  have hok : ofForms listing = .ok ⟨[("A", ⟨"A", [], [.number 1, .number 2]⟩),
      ("B", ⟨"B", ["x", "y"], [.symbol "y"]⟩)]⟩ := by decide
  have herror : ofForms (listing ++ listing) = .error (.duplicateProcedure "B") := by
    decide
  have hholds := (ofForms_holds_definitions listing).2.1 _ hok
  refine ⟨⟨_, hok, ?_, ?_⟩, ⟨_, herror⟩, fun h => ?_⟩
  · exact hholds.ofForms_eq _ ((List.reverse_perm listing).filter _)
  · exact (hholds.lookUp_eq_ok_iff _ _).2
      ⟨rfl, _, by simp [listing, definitionHead], .sequence List.nodup_nil⟩
  · obtain ⟨program, heq⟩ := (ofForms_holds_definitions (listing ++ listing)).1.2 h
    exact nomatch herror.symm.trans heq

end Program

end TurnScript
