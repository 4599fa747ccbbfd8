import Mathlib.Data.List.Forall2
import TurnScript.Console.Typing
import TurnScript.Text.Lines

/-!
# Typed lines

A line without backspaces is typed as it is (`typed?_eq_self`). In any case nothing is typed that is
not in the line (`mem_of_typed?`), so what is typed on one line of a text stays on one line.
-/

namespace TurnScript.Text

variable {cs line : List Char}

theorem not_mem_of_mem_linesOf (h : line ∈ linesOf cs) : '\n' ∉ line := by
  induction cs generalizing line with
  | nil => simp [linesOf] at h
  | cons c cs ih =>
    rw [linesOf] at h
    split at h
    · obtain rfl | h := List.mem_cons.1 h
      · exact List.not_mem_nil
      · exact ih h
    · have hc : '\n' ≠ c := Ne.symm ‹_›
      cases hlines : linesOf cs with
      | nil =>
        obtain rfl : line = [c] := by simpa [hlines] using h
        simpa using hc
      | cons first rest =>
        rw [hlines] at h ih
        obtain rfl | h := List.mem_cons.1 h
        · exact List.not_mem_cons_of_ne_of_not_mem hc (ih List.mem_cons_self)
        · exact ih (List.mem_cons_of_mem _ h)

/-- No line of a text holds a line feed. -/
theorem not_mem_of_mem_lines {text line : String} (h : line ∈ lines text) : '\n' ∉ line.toList := by
  obtain ⟨cs, hcs, rfl⟩ := List.mem_map.1 h
  rw [String.toList_ofList]
  exact not_mem_of_mem_linesOf hcs

theorem linesOf_eq_singleton (hne : cs ≠ []) (hcs : '\n' ∉ cs) : linesOf cs = [cs] := by
  induction cs with
  | nil => exact absurd rfl hne
  | cons c cs ih =>
    simp only [List.mem_cons, not_or] at hcs
    rw [linesOf, if_neg (Ne.symm hcs.1)]
    by_cases hnil : cs = []
    · subst hnil
      rfl
    · rw [ih hnil hcs.2]

/-- A text without a line feed is a single line, if it is any. -/
theorem eq_of_mem_lines {text line : String} (htext : '\n' ∉ text.toList) (h : line ∈ lines text) :
    line = text := by
  obtain ⟨cs, hcs, rfl⟩ := List.mem_map.1 h
  have hne : text.toList ≠ [] := by
    intro hnil
    simp [hnil, linesOf] at hcs
  rw [linesOf_eq_singleton hne htext, List.mem_singleton] at hcs
  rw [hcs, String.ofList_toList]

end TurnScript.Text

namespace TurnScript.Console

/-- What is left when bytes are dropped was there before. -/
theorem mem_of_dropBytes? {bytes : Nat} {cs ds : List Char} (h : dropBytes? bytes cs = some ds)
    {c : Char} (hc : c ∈ ds) : c ∈ cs := by
  fun_induction dropBytes? bytes cs with
  | case1 cs =>
    obtain rfl : cs = ds := Option.some.inj h
    exact hc
  | case2 => cases h
  | case3 bytes d cs _ ih => exact List.mem_cons_of_mem _ (ih h)
  | case4 => cases h

namespace Typing

variable {t t' : Typing} {grapheme : List Char} {graphemes : List (List Char)} {c : Char}

theorem mem_of_enter? (h : t.enter? grapheme = some t') (hc : c ∈ t'.letters) :
    c ∈ grapheme ∨ c ∈ t.letters := by
  rw [enter?] at h
  split at h
  · rw [takeBack?] at h
    split at h
    · obtain rfl : t = t' := Option.some.inj h
      exact .inr hc
    · obtain ⟨letters, hletters, h⟩ := Option.bind_eq_some_iff.1 h
      obtain rfl := Option.some.inj h
      exact .inr (mem_of_dropBytes? hletters hc)
  · obtain rfl := Option.some.inj h
    simpa using hc

theorem mem_of_foldlM_enter? (h : graphemes.foldlM enter? t = some t') (hc : c ∈ t'.letters) :
    c ∈ graphemes.flatten ∨ c ∈ t.letters := by
  induction graphemes generalizing t with
  | nil =>
    obtain rfl : t = t' := Option.some.inj h
    exact .inr hc
  | cons grapheme graphemes ih =>
    rw [List.foldlM_cons] at h
    obtain ⟨t₁, ht₁, h⟩ := Option.bind_eq_some_iff.1 h
    rw [List.flatten_cons, List.mem_append]
    obtain hrest | hletters := ih h
    · exact .inl (.inr hrest)
    · obtain hgrapheme | hletters := mem_of_enter? ht₁ hletters
      · exact .inl (.inl hgrapheme)
      · exact .inr hletters

/-- Without a backspace, every grapheme is added. -/
theorem foldlM_enter?_of_not_mem (h : backspace ∉ graphemes.flatten) :
    ∃ t', graphemes.foldlM enter? t = some t' ∧
      t'.letters = graphemes.flatten.reverse ++ t.letters := by
  induction graphemes generalizing t with
  | nil => exact ⟨t, rfl, rfl⟩
  | cons grapheme graphemes ih =>
    rw [List.flatten_cons, List.mem_append, not_or] at h
    have hne : grapheme ≠ [backspace] := by
      rintro rfl
      exact h.1 List.mem_cons_self
    obtain ⟨t', hfold, hletters⟩ := @ih
      { letters := grapheme.reverse ++ t.letters
        sizes := .ofNat (Text.byteLength grapheme) :: t.sizes } h.2
    refine ⟨t', ?_, ?_⟩
    · rw [List.foldlM_cons, enter?, if_neg hne]
      exact hfold
    · rw [hletters]
      simp

end Typing

/-- A line without backspaces is typed as it is. -/
theorem typed?_eq_self {line : String} (h : backspace ∉ line.toList) : typed? line = some line := by
  rw [← Text.flatten_graphemes line.toList] at h
  obtain ⟨t, hfold, hletters⟩ := @Typing.foldlM_enter?_of_not_mem {} _ h
  rw [typed?, hfold]
  simp [hletters, Text.flatten_graphemes]

/-- Nothing is typed that is not in the line. -/
theorem mem_of_typed? {line typed : String} (h : typed? line = some typed) {c : Char}
    (hc : c ∈ typed.toList) : c ∈ line.toList := by
  obtain ⟨t, hfold, h⟩ := Option.bind_eq_some_iff.1 h
  obtain rfl := Option.some.inj h
  have hletters : c ∈ t.letters := by simpa using hc
  simpa [Text.flatten_graphemes] using Typing.mem_of_foldlM_enter? hfold hletters

/-- What is typed on lines are lines. -/
theorem not_mem_of_typed {lines typed : List String}
    (htyped : List.Forall₂ (typed? · = some ·) lines typed)
    (hlines : ∀ line ∈ lines, '\n' ∉ line.toList) : ∀ line ∈ typed, '\n' ∉ line.toList := by
  induction htyped with
  | nil => nofun
  | cons ht _ ih =>
    rw [List.forall_mem_cons] at hlines ⊢
    exact ⟨fun hc => hlines.1 (mem_of_typed? ht hc), ih hlines.2⟩

end TurnScript.Console
