import Mathlib.Tactic.SplitIfs
import TurnScript.Proofs.Token.Scan

/-!
# Scanning texts one below the other

Where a text stands matters to its scan in the offsets only (`run_shift`), and a line feed behind a
text that can be scanned ends its last token or comment (`run_append_newline`). So of two texts, one
below the other, the tokens of the first are scanned, and then those of the second, moved to their
place (`scan_append_newline`).
-/

namespace TurnScript

open Text

/-- The fault, as many bytes further on. -/
def LocatedFault.shift (bytes : Nat) (l : LocatedFault) : LocatedFault :=
  { l with offset := l.offset + bytes }

namespace Token

/-- The token, as many bytes further on. -/
def shift (bytes : Nat) (t : Token) : Token := { t with offset := t.offset + bytes }

/-- The outcome of a scan, as many bytes further on. -/
def shiftAll (bytes : Nat) (r : Except LocatedFault (List Token)) :
    Except LocatedFault (List Token) :=
  (r.map (List.map (shift bytes))).mapError (LocatedFault.shift bytes)

namespace Scanner

variable {comments : Bool} {bytes offset : Nat} {s s' : Scanner} {c : Char} {cs rest : List Char}
  {tokens ended : List Token}

/-- What is open, begun as many bytes further on. -/
def shift (bytes : Nat) : Scanner → Scanner
  | between => between
  | semicolon first => semicolon (first + bytes)
  | comment => comment
  | word first letters => word (first + bytes) letters
  | quoted first content => quoted (first + bytes) content
  | escape first content => escape (first + bytes) content

/-! ## Scanning further on -/

/-- What a character ends and leaves open, as many bytes further on. -/
def shiftStep (bytes : Nat) (r : Except LocatedFault (List Token × Scanner)) :
    Except LocatedFault (List Token × Scanner) :=
  (r.map fun (ts, s) => (ts.map (Token.shift bytes), s.shift bytes)).mapError
    (LocatedFault.shift bytes)

theorem start_shift :
    start comments (offset + bytes) c = shiftStep bytes (start comments offset c) := by
  simp only [start]
  split_ifs <;> rfl

theorem finish_shift : (s.shift bytes).finish = shiftAll bytes s.finish := by
  cases s <;> rfl

/-- The fault of an escape is at the backslash before it, so an escape is not at the very
    beginning. -/
theorem step_shift (h : ∀ first content, s = escape first content → 0 < offset) :
    (s.shift bytes).step comments (offset + bytes) c = shiftStep bytes (s.step comments offset c) := by
  cases s with
  | between => exact start_shift
  | semicolon first =>
    simp only [shift, step]
    split_ifs <;> rfl
  | comment =>
    simp only [shift, step]
    split_ifs <;> rfl
  | word first letters =>
    simp only [shift, step]
    split_ifs
    · rfl
    · rw [start_shift]
      cases start comments offset c <;> rfl
  | quoted first content =>
    simp only [shift, step]
    split_ifs <;> rfl
  | escape first content =>
    have hoffset : offset + bytes - 1 = offset - 1 + bytes := by
      have := h first content rfl
      omega
    simp only [shift, step, hoffset]
    cases unescape? c <;> rfl

/-- The same characters further on are scanned as the same tokens further on. -/
theorem run_shift (h : ∀ first content, s = escape first content → 0 < offset) :
    (s.shift bytes).run comments (offset + bytes) cs = shiftAll bytes (s.run comments offset cs) := by
  induction cs generalizing s offset with
  | nil => exact finish_shift
  | cons c cs ih =>
    rw [run, run, step_shift h]
    cases hstep : s.step comments offset c with
    | error l => rfl
    | ok next =>
      obtain ⟨ended, s'⟩ := next
      have hpos : 0 < offset + c.utf8Size := Nat.add_pos_right _ c.utf8Size_pos
      have hrest := @ih (offset + c.utf8Size) s' fun _ _ _ => hpos
      rw [Nat.add_right_comm] at hrest
      simp only [shiftStep, Except.map, Except.mapError, bind, Except.bind, hrest]
      cases s'.run comments (offset + c.utf8Size) cs with
      | error l => rfl
      | ok later => simp [shiftAll, Except.map, Except.mapError, pure, Except.pure]

/-! ## A line feed -/

/-- Where a text may end, a line feed ends what is open. -/
theorem step_newline (h : s.finish = .ok tokens) :
    s.step comments offset '\n' = .ok (tokens, between) := by
  have hstart : start comments offset '\n' = .ok ([], between) := start_of_isBlank (by decide)
  cases s with
  | between =>
    cases h
    exact hstart
  | comment =>
    cases h
    rfl
  | word first letters =>
    cases h
    have hword : isWordChar '\n' = false := by decide
    simp [step, hword, hstart, Except.map]
  | semicolon first => cases h
  | quoted first content => cases h
  | escape first content => cases h

/-- Behind a text that can be scanned and a line feed, the scan begins anew. -/
theorem run_append_newline (h : s.run comments offset cs = .ok tokens) :
    s.run comments offset (cs ++ '\n' :: rest) =
      prepend tokens (between.run comments (offset + byteLength cs + '\n'.utf8Size) rest) := by
  induction cs generalizing s offset tokens with
  | nil =>
    rw [List.nil_append, run_cons_of_step (step_newline h)]
    rfl
  | cons c cs ih =>
    rw [run] at h
    cases hstep : s.step comments offset c with
    | error l => simp [hstep, bind, Except.bind] at h
    | ok next =>
      obtain ⟨ended, s'⟩ := next
      cases hrun : s'.run comments (offset + c.utf8Size) cs with
      | error l => simp [hstep, hrun, bind, Except.bind] at h
      | ok later =>
        obtain rfl : ended ++ later = tokens := by
          simpa [hstep, hrun, bind, Except.bind, pure, Except.pure] using h
        rw [List.cons_append, run_cons_of_step hstep, ih hrun, prepend_prepend, byteLength,
          Nat.add_assoc offset]

end Scanner

/-- The tokens of two texts, one below the other. -/
theorem scan_append_newline {comments : Bool} {front back : String} {tokens : List Token}
    (h : scan comments front = .ok tokens) :
    scan comments (front ++ "\n" ++ back) =
      prepend tokens (shiftAll (byteLength front.toList + 1) (scan comments back)) := by
  have htext : (front ++ "\n" ++ back).toList = front.toList ++ '\n' :: back.toList := by
    simp [String.toList_append]
  have hback : Scanner.between.run comments (0 + (byteLength front.toList + 1)) back.toList =
      shiftAll (byteLength front.toList + 1) (scan comments back) :=
    Scanner.run_shift (s := .between) nofun
  rw [scan, htext, Scanner.run_append_newline h, ← hback, Nat.add_assoc]
  rfl

end Token

end TurnScript
