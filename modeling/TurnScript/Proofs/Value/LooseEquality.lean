import Mathlib.Data.List.Forall2
import Mathlib.Data.List.TakeWhile
import TurnScript.Proofs.Integer
import TurnScript.Proofs.Value.Ordered
import TurnScript.Value.Access

/-!
# Loose equality

What is loosely equal to a value of each kind (`looselyEquals_iff`): a text and a number if the text
writes the number, lists and maps if their items are, one by one, and otherwise only the value
itself. So loose equality is reflexive and symmetric.

A number can be written in several ways, which are different texts, all loosely equal to it. Chains
of loose equality therefore hold together as long as they do not pass through a number
(`looselyEquals_trans`). Of the texts of numbers, each is loosely equal to its own number alone.
-/

namespace TurnScript

/-! ## Texts of numbers -/

theorem Text.isBlank_of_isDigit {c : Char} (hc : c.isDigit) : isBlank c = false := by
  obtain ⟨hlow, hhigh⟩ := Bool.and_eq_true_iff.1 hc
  have hfirst : 48 ≤ c.toNat := of_decide_eq_true hlow
  have hlast : c.toNat ≤ 57 := of_decide_eq_true hhigh
  have hbeyond : ∀ r ∈ blankRanges, 57 < r.1 := by decide
  rw [Bool.eq_false_iff]
  intro hblank
  simp only [isBlank, Bool.or_eq_true, Bool.and_eq_true, beq_iff_eq, decide_eq_true_eq,
    List.any_eq_true] at hblank
  rcases hblank with (rfl | hcontrol) | ⟨r, hr, hle, -⟩
  · exact absurd hfirst (by decide)
  · omega
  · have := hbeyond r hr
    omega

theorem Text.dropWhile_isBlank_eq_self {cs : List Char} (h : ∀ c ∈ cs, isBlank c = false) :
    cs.dropWhile isBlank = cs :=
  List.dropWhile_eq_self_iff.2 fun hne => by simp [h _ (List.getElem_mem hne)]

/-- There is nothing to trim where there are no blanks. -/
theorem Text.trim_eq_self {s : String} (h : ∀ c ∈ s.toList, isBlank c = false) : trim s = s := by
  have hend : s.toList.reverse.dropWhile isBlank = s.toList.reverse :=
    dropWhile_isBlank_eq_self fun c hc => h c (List.mem_reverse.1 hc)
  rw [trim, trimStart, dropWhile_isBlank_eq_self h, trimEnd, hend, List.reverse_reverse,
    String.ofList_toList]

theorem Integer.trim_toText (n : Int64) : Text.trim (toText n) = toText n := by
  refine Text.trim_eq_self fun c hc => ?_
  rcases isDigit_or_eq_minus_of_mem_toText hc with hdigit | rfl
  · exact Text.isBlank_of_isDigit hdigit
  · decide

namespace Value

/-! ## What is loosely equal to what -/

variable {a b c : Value}

theorem looselyEqualsAll_iff {as bs : List Value} :
    looselyEqualsAll as bs ↔ List.Forall₂ (fun a b => a.looselyEquals b) as bs := by
  induction as generalizing bs with
  | nil => cases bs <;> simp [looselyEqualsAll]
  | cons a as ih => cases bs <;> simp [looselyEqualsAll, ih]

theorem looselyEqualsEntries_iff {as bs : List (String × Value)} :
    looselyEqualsEntries as bs ↔
      List.Forall₂ (fun e f => e.1 = f.1 ∧ e.2.looselyEquals f.2) as bs := by
  induction as generalizing bs with
  | nil => cases bs <;> simp [looselyEqualsEntries]
  | cons e as ih => cases bs <;> simp [looselyEqualsEntries, ih]

/-- What is loosely equal to a value, by the kind of the value. -/
theorem looselyEquals_iff : a.looselyEquals b ↔
    match a with
    | .absent => b = .absent
    | .bool x => b = .bool x
    | .number n => b = .number n ∨ ∃ s, b = .text s ∧ Integer.ofText? (Text.trim s) = some n
    | .text s => b = .text s ∨ ∃ n, b = .number n ∧ Integer.ofText? (Text.trim s) = some n
    | .list items => ∃ others, b = .list others ∧
        List.Forall₂ (fun a b => a.looselyEquals b) items others
    | .map entries => ∃ others, b = .map others ∧
        List.Forall₂ (fun e f => e.1 = f.1 ∧ e.2.looselyEquals f.2) entries others := by
  cases a with
  | absent => cases b <;> simp [looselyEquals]
  | bool x =>
    cases b with
    | bool y => simpa [looselyEquals] using eq_comm
    | _ => simp [looselyEquals]
  | number n =>
    cases b with
    | number m => simpa [looselyEquals] using eq_comm
    | _ => simp [looselyEquals]
  | text s =>
    cases b with
    | text t => simpa [looselyEquals] using eq_comm
    | _ => simp [looselyEquals]
  | list items => cases b <;> simp [looselyEquals, looselyEqualsAll_iff]
  | map entries => cases b <;> simp [looselyEquals, looselyEqualsEntries_iff]

theorem looselyEquals_absent_iff : looselyEquals .absent b ↔ b = .absent :=
  looselyEquals_iff

theorem looselyEquals_bool_iff {x : Bool} : looselyEquals (.bool x) b ↔ b = .bool x :=
  looselyEquals_iff

theorem looselyEquals_number_iff {n : Int64} :
    looselyEquals (.number n) b ↔
      b = .number n ∨ ∃ s, b = .text s ∧ Integer.ofText? (Text.trim s) = some n :=
  looselyEquals_iff

theorem looselyEquals_text_iff {s : String} :
    looselyEquals (.text s) b ↔
      b = .text s ∨ ∃ n, b = .number n ∧ Integer.ofText? (Text.trim s) = some n :=
  looselyEquals_iff

theorem looselyEquals_list_iff {items : List Value} :
    looselyEquals (.list items) b ↔
      ∃ others, b = .list others ∧
        List.Forall₂ (fun a b => a.looselyEquals b) items others :=
  looselyEquals_iff

theorem looselyEquals_map_iff {entries : List (String × Value)} :
    looselyEquals (.map entries) b ↔
      ∃ others, b = .map others ∧
        List.Forall₂ (fun e f => e.1 = f.1 ∧ e.2.looselyEquals f.2) entries others :=
  looselyEquals_iff

/-! ## A tolerance relation -/

theorem looselyEquals_refl (a : Value) : a.looselyEquals a := by
  induction a with
  | absent => exact looselyEquals_absent_iff.2 rfl
  | bool x => exact looselyEquals_bool_iff.2 rfl
  | number n => exact looselyEquals_number_iff.2 (.inl rfl)
  | text s => exact looselyEquals_text_iff.2 (.inl rfl)
  | list items ih => exact looselyEquals_list_iff.2 ⟨items, rfl, List.forall₂_same.2 ih⟩
  | map entries ih =>
    exact looselyEquals_map_iff.2
      ⟨entries, rfl, List.forall₂_same.2 fun entry hentry => ⟨rfl, ih entry hentry⟩⟩

theorem looselyEquals_symm (h : a.looselyEquals b) : b.looselyEquals a := by
  induction a generalizing b with
  | absent =>
    rw [looselyEquals_absent_iff.1 h]
    exact looselyEquals_refl _
  | bool x =>
    rw [looselyEquals_bool_iff.1 h]
    exact looselyEquals_refl _
  | number n =>
    rcases looselyEquals_number_iff.1 h with rfl | ⟨s, rfl, hs⟩
    · exact looselyEquals_refl _
    · exact looselyEquals_text_iff.2 (.inr ⟨n, rfl, hs⟩)
  | text s =>
    rcases looselyEquals_text_iff.1 h with rfl | ⟨n, rfl, hs⟩
    · exact looselyEquals_refl _
    · exact looselyEquals_number_iff.2 (.inr ⟨s, rfl, hs⟩)
  | list items ih =>
    obtain ⟨others, rfl, hitems⟩ := looselyEquals_list_iff.1 h
    have hback := ((List.forall₂_and_left _ _).2 ⟨fun item hitem => @ih item hitem, hitems⟩).imp
      fun a b ⟨hsymm, hab⟩ => hsymm hab
    exact looselyEquals_list_iff.2 ⟨items, rfl, hback.flip⟩
  | map entries ih =>
    obtain ⟨others, rfl, hentries⟩ := looselyEquals_map_iff.1 h
    have hback := ((List.forall₂_and_left _ _).2
      ⟨fun entry hentry => @ih entry hentry, hentries⟩).imp
      fun e f ⟨hsymm, hkey, hef⟩ => And.intro hkey.symm (hsymm hef)
    exact looselyEquals_map_iff.2 ⟨entries, rfl, hback.flip⟩

/-- The value is a number or holds one, however deep. -/
inductive HasNumber : Value → Prop
  | number (n : Int64) : HasNumber (.number n)
  | item {items : List Value} {item : Value} : item ∈ items → HasNumber item →
    HasNumber (.list items)
  | entry {entries : List (String × Value)} {entry : String × Value} : entry ∈ entries →
    HasNumber entry.2 → HasNumber (.map entries)

/-- Chains of two hold together along a list if they do at each item in the middle. -/
theorem forall₂_trans {α : Type} {R : α → α → Prop} {as bs cs : List α}
    (trans : ∀ b ∈ bs, ∀ a c, R a b → R b c → R a c) (hab : List.Forall₂ R as bs)
    (hbc : List.Forall₂ R bs cs) : List.Forall₂ R as cs := by
  induction hab generalizing cs with
  | nil => exact hbc
  | cons hfirst _ ih =>
    rcases hbc with _ | ⟨hfirst', hbc⟩
    exact .cons (trans _ List.mem_cons_self _ _ hfirst hfirst')
      (ih (fun b hb => trans b (List.mem_cons_of_mem _ hb)) hbc)

/-- Loose equality is transitive, except through numbers. -/
theorem looselyEquals_trans (hb : ¬ b.HasNumber) (hab : a.looselyEquals b)
    (hbc : b.looselyEquals c) : a.looselyEquals c := by
  induction b generalizing a c with
  | absent => rwa [looselyEquals_absent_iff.1 hbc]
  | bool x => rwa [looselyEquals_bool_iff.1 hbc]
  | number n => exact absurd (.number n) hb
  | text s =>
    rcases looselyEquals_text_iff.1 (looselyEquals_symm hab) with rfl | ⟨n, rfl, hn⟩
    · exact hbc
    rcases looselyEquals_text_iff.1 hbc with rfl | ⟨m, rfl, hm⟩
    · exact hab
    -- a text writes one number at most
    obtain rfl : n = m := Option.some.inj (hn.symm.trans hm)
    exact looselyEquals_refl _
  | list items ih =>
    obtain ⟨front, rfl, hfront⟩ := looselyEquals_list_iff.1 (looselyEquals_symm hab)
    obtain ⟨back, rfl, hback⟩ := looselyEquals_list_iff.1 hbc
    have hab' := looselyEquals_list_iff.1 hab
    refine looselyEquals_list_iff.2 ⟨back, rfl, forall₂_trans (fun item hitem a c => ?_)
      (hfront.flip.imp fun a b => looselyEquals_symm) hback⟩
    exact ih item hitem fun hnumber => hb (.item hitem hnumber)
  | map entries ih =>
    obtain ⟨front, rfl, hfront⟩ := looselyEquals_map_iff.1 (looselyEquals_symm hab)
    obtain ⟨back, rfl, hback⟩ := looselyEquals_map_iff.1 hbc
    refine looselyEquals_map_iff.2 ⟨back, rfl, forall₂_trans (fun entry hentry e f => ?_)
      (hfront.flip.imp fun e f h => ⟨h.1.symm, looselyEquals_symm h.2⟩) hback⟩
    rintro ⟨hkey, hvalue⟩ ⟨hkey', hvalue'⟩
    exact ⟨hkey.trans hkey', ih entry hentry (fun hnumber => hb (.entry hentry hnumber))
      hvalue hvalue'⟩

-- a number joins texts that differ
example : looselyEquals (.text "1") (.number 1) ∧ looselyEquals (.number 1) (.text "+1") ∧
    ¬ looselyEquals (.text "1") (.text "+1") := by decide

/-- Of the texts of numbers, only that of the number itself is loosely equal to it. -/
theorem looselyEquals_toText_iff {n m : Int64} :
    looselyEquals (.number n) (.text (Integer.toText m)) ↔ n = m := by
  rw [looselyEquals, Integer.trim_toText, Integer.ofText?_toText, beq_iff_eq, Option.some.injEq]
  exact eq_comm

/-- Loose equality is reflexive and symmetric and holds of equal values. It is transitive over every
    value in which there is no number. A number is loosely equal to its own text and to that of no
    other number. -/
theorem looselyEquals_isTolerance (a b c : Value) :
    a.looselyEquals a ∧ (a.looselyEquals b → b.looselyEquals a) ∧ (a = b → a.looselyEquals b) ∧
      (¬ b.HasNumber → a.looselyEquals b → b.looselyEquals c → a.looselyEquals c) ∧
      ∀ n m : Int64, ∃ s, (number m).asText = .ok s ∧
        ((number n).looselyEquals (.text s) ↔ n = m) :=
  ⟨looselyEquals_refl a, looselyEquals_symm, fun h => h ▸ looselyEquals_refl a,
    looselyEquals_trans, fun _ m => ⟨Integer.toText m, rfl, looselyEquals_toText_iff⟩⟩

/-- A list in which one number is written in three ways, with a map in it and texts in the
    middle. -/
theorem looselyEquals_isTolerance_nested :
    ¬ (list [text " 7", map [("k", text "+7")]]).HasNumber ∧
      (list [number 7, map [("k", text "+7")]]).looselyEquals
        (list [text " 7", map [("k", text "+7")]]) ∧
      (list [text " 7", map [("k", text "+7")]]).looselyEquals
        (list [number 7, map [("k", number 7)]]) ∧
      (list [number 7, map [("k", text "+7")]]).looselyEquals
        (list [number 7, map [("k", number 7)]]) := by
  have hb : ¬ (list [text " 7", map [("k", text "+7")]]).HasNumber := by
    rintro (_ | ⟨hitem, hnumber⟩)
    rcases List.mem_pair.1 hitem with rfl | rfl
    · cases hnumber
    · rcases hnumber with _ | _ | ⟨hentry, hnumber⟩
      obtain rfl := List.mem_singleton.1 hentry
      cases hnumber
  have hab : (list [number 7, map [("k", text "+7")]]).looselyEquals
      (list [text " 7", map [("k", text "+7")]]) := by decide
  have hbc : (list [text " 7", map [("k", text "+7")]]).looselyEquals
      (list [number 7, map [("k", number 7)]]) := by decide
  obtain ⟨-, -, -, htrans, -⟩ := looselyEquals_isTolerance
    (list [number 7, map [("k", text "+7")]]) (list [text " 7", map [("k", text "+7")]])
    (list [number 7, map [("k", number 7)]])
  exact ⟨hb, hab, hbc, htrans hb hab hbc⟩

end Value

end TurnScript
