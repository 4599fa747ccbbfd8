import TurnScript.Proofs.Integer.Numeral
import TurnScript.Proofs.Json.RoundTrip

/-!
# Integer literals in JSON

An integer literal of any length is read as the number that it writes if this fits 64 bits, and is
refused otherwise (`parseJson_numeral`). The negative zero is refused as well: it is read as a
float. No literal is read as another number than its own, since digits that are not all collected
make a float (`yields_number`).
-/

namespace TurnScript

open Integer (Fits Numeral Sign)

/-- The literal is one of JSON: it has no plus sign, and it begins with a zero only if this is its
    only digit. -/
structure Integer.Numeral.IsJson (l : Numeral) : Prop where
  sign_ne_plus : l.sign ≠ .plus
  digits_eq_zero : l.digits.head? = some '0' → l.digits = ['0']

/-- No digit follows a zero in front. -/
theorem Integer.Numeral.IsJson.eq_nil {l : Numeral} {c : Char} {ds : List Char} (hl : l.IsJson)
    (h : l.digits = c :: ds) (hc : c = '0') : ds = [] := by
  subst hc
  have hdigits := hl.digits_eq_zero (by rw [h]; rfl)
  rw [h] at hdigits
  exact (List.cons.inj hdigits).2

/-- The literal is a zero with a minus sign. -/
def Integer.Numeral.IsNegativeZero (l : Numeral) : Prop := l.sign = .minus ∧ l.magnitude = 0

instance (l : Numeral) : Decidable l.IsNegativeZero := inferInstanceAs (Decidable (_ ∧ _))

namespace Json.Reader

variable {p : List Char → Prop} {Q : Json → Prop} {cs ds rest lead trail : List Char} {c : Char}
  {l : Numeral} {levels : Nat}

/-! ## What digits are read as -/

/-- If digits are left out the rest is no integer, and if none are it is the whole number. -/
theorem collect_spec (ds : List Char) (n : Nat) :
    (collect n ds).2 ≤ ds.length ∧
      ((collect n ds).2 = ds.length → (collect n ds).1 = Nat.ofDigitChars 10 ds n) := by
  induction ds generalizing n with
  | nil => exact ⟨Nat.le_refl 0, fun _ => rfl⟩
  | cons c ds ih =>
    rw [collect]
    dsimp only
    split
    · obtain ⟨hle, heq⟩ := ih (10 * n + digitValue c)
      rw [Nat.ofDigitChars_cons, List.length_cons]
      exact ⟨Nat.succ_le_succ hle, fun h => heq (Nat.succ.inj h)⟩
    · exact ⟨Nat.zero_le _, fun h => absurd h (Nat.succ_ne_zero _).symm⟩

/-- A number that is scaled is a float. -/
theorem yields_scaled (negative : Bool) (significand : Nat) (e : Int) (rest : List Char) :
    Yields (fun n => ∃ x, n = .real x) (scaled negative significand e rest) := by
  rw [scaled]
  split
  · exact .ok ⟨_, rfl⟩ _
  · exact .error _

/-- The number is the integer, and not the negative zero; or it is a float. -/
def IntegerOrReal (negative : Bool) (m : Nat) (n : Number) : Prop :=
  (n = .integer (if negative then -m else m) ∧ ¬ (negative ∧ m = 0)) ∨ ∃ x, n = .real x

/-- Digits of which some are left out make a float. -/
theorem yields_whole {negative : Bool} {significand dropped m : Nat}
    (h : dropped = 0 → significand = m) (rest : List Char) :
    Yields (IntegerOrReal negative m) (whole negative significand dropped rest) := by
  rw [whole]
  split
  · next hpositive =>
    obtain ⟨hdropped, hsign⟩ : dropped = 0 ∧ negative = false := by simpa using hpositive
    refine .ok (.inl ⟨?_, ?_⟩) _
    · simp [hsign, h hdropped]
    · simp [hsign]
  · next hpositive =>
    split
    · next hnegative =>
      obtain ⟨⟨hdropped, hpos⟩, -⟩ :
          (dropped = 0 ∧ 0 < significand) ∧ significand ≤ maxNegated := by simpa using hnegative
      have hsign : negative = true := by simpa [hdropped] using hpositive
      rw [h hdropped] at hpos ⊢
      exact .ok (.inl ⟨by simp [hsign], by omega⟩) _
    · exact fun n left hread => .inr (yields_scaled negative significand dropped rest n left hread)

/-- Digits are read as the integer that they write, or as a float. -/
theorem yields_number (negative : Bool) (hzero : c = '0' → ds = [])
    (hdigits : ∀ d ∈ ds, d.isDigit) (hrest : Ends rest) :
    Yields (IntegerOrReal negative (Nat.ofDigitChars 10 (c :: ds) 0))
      (number negative c (ds ++ rest)) := by
  obtain ⟨hle, heq⟩ := collect_spec (c :: ds) 0
  obtain ⟨⟨significand, kept⟩, hcollect⟩ : ∃ collected, collect 0 (c :: ds) = collected := ⟨_, rfl⟩
  rw [hcollect, List.length_cons] at hle heq
  rw [number_eq negative hzero hdigits hrest hcollect]
  refine (yields_whole (m := Nat.ofDigitChars 10 (c :: ds) 0) (fun hdropped => heq ?_) rest).bind
    fun n _ hn => .ok hn _
  omega

/-! ## What literals are read as -/

/-- A value is the number that the literal writes, or a float. -/
def Candidate (l : Numeral) (j : Json) : Prop :=
  (j = .number (.integer l.value) ∧ ¬ l.IsNegativeZero) ∨ ∃ x, j = .number (.real x)

/-- What is read is the number that the literal writes, if this fits 64 bits and is not the negative
    zero; and it is a candidate in any case. -/
structure ReadsNumeral (l : Numeral) (m : Except Fault (Json × Subtype p)) (rest : List Char) :
    Prop where
  reads : Fits l.value → ¬ l.IsNegativeZero → Reads m (.number (.integer l.value)) rest
  yields : Yields (Candidate l) m

theorem IntegerOrReal.candidate {negative : Bool} {n : Number}
    (hn : IntegerOrReal negative l.magnitude n)
    (hvalue : l.value = if negative then -(l.magnitude : Int) else l.magnitude)
    (hsign : l.sign = .minus → negative) : Candidate l (.number n) := by
  obtain ⟨rfl, hzero⟩ | ⟨x, rfl⟩ := hn
  · exact .inl ⟨by rw [hvalue], fun h => hzero ⟨hsign h.1, h.2⟩⟩
  · exact .inr ⟨x, rfl⟩

theorem readsNumeral_unsigned (hl : l.IsJson) (hsign : l.sign = .unsigned)
    (hds : l.digits = c :: ds) (hrest : Ends rest) :
    ReadsNumeral l (scalar c (ds ++ rest)) rest := by
  have hdigits : ∀ d ∈ c :: ds, d.isDigit := hds ▸ l.isDigit_of_mem
  have hmagnitude : Nat.ofDigitChars 10 (c :: ds) 0 = l.magnitude := by rw [Numeral.magnitude, hds]
  have hvalue : l.value = l.magnitude := by rw [Numeral.value, hsign]
  have hyields := yields_number false (hl.eq_nil hds) (List.forall_mem_cons.1 hdigits).2 hrest
  rw [hmagnitude] at hyields
  rw [scalar_of_isDigit (hdigits c List.mem_cons_self)]
  refine ⟨fun hfits _ => ?_, hyields.map fun n hn => hn.candidate hvalue ?_⟩
  · rw [hvalue] at hfits ⊢
    have hm : l.magnitude ≤ maxSignificand := by
      rw [Fits] at hfits
      rw [maxSignificand]
      omega
    exact (reads_number (hl.eq_nil hds) hdigits hmagnitude hm hrest rfl).map Json.number
  · rw [hsign]
    intro h
    cases h

theorem readsNumeral_minus (hl : l.IsJson) (hsign : l.sign = .minus) (hds : l.digits = c :: ds)
    (hrest : Ends rest) : ReadsNumeral l (scalar '-' (c :: (ds ++ rest))) rest := by
  have hdigits : ∀ d ∈ c :: ds, d.isDigit := hds ▸ l.isDigit_of_mem
  have hmagnitude : Nat.ofDigitChars 10 (c :: ds) 0 = l.magnitude := by rw [Numeral.magnitude, hds]
  have hvalue : l.value = -l.magnitude := by rw [Numeral.value, hsign]
  have hyields := yields_number true (hl.eq_nil hds) (List.forall_mem_cons.1 hdigits).2 hrest
  rw [hmagnitude] at hyields
  have hnumber : Yields (IntegerOrReal true l.magnitude) (negativeNumber (c :: (ds ++ rest))) := by
    rw [negativeNumber, if_pos (hdigits c List.mem_cons_self)]
    exact hyields.bind fun n _ hn => .ok hn _
  refine ⟨fun hfits hzero => ?_, hnumber.map fun n hn => hn.candidate hvalue fun _ => rfl⟩
  rw [hvalue] at hfits ⊢
  have hpos : 0 < l.magnitude := Nat.pos_of_ne_zero fun heq => hzero ⟨hsign, heq⟩
  have hle : l.magnitude ≤ maxNegated := by
    rw [Fits] at hfits
    rw [maxNegated]
    omega
  have hm : l.magnitude ≤ maxSignificand := Nat.le_trans hle (by decide)
  have hwhole : whole true l.magnitude 0 rest =
      .ok (.integer (-l.magnitude), ⟨rest, Nat.le_refl _⟩) := by
    simp [whole, hpos, hle]
  have hreads : Reads (negativeNumber (c :: (ds ++ rest))) (.integer (-l.magnitude)) rest := by
    rw [negativeNumber, if_pos (hdigits c List.mem_cons_self)]
    exact (reads_number (hl.eq_nil hds) hdigits hmagnitude hm hrest hwhole).bind fun _ => ⟨_, rfl⟩
  exact hreads.map Json.number

theorem yields_value_scalar {inner : List Char} (hcs : skipBlanks cs = c :: inner)
    (hc : c ≠ '[' ∧ c ≠ '\x7b') (h : Yields Q (scalar c inner)) : Yields Q (value levels cs) := by
  rw [value, next?_eq hcs]
  simp only [hc.1, hc.2]
  exact h.bind fun j _ hj => .ok hj _

/-- A literal is read behind any blanks, up to what does not continue it. -/
theorem readsNumeral_value (hl : l.IsJson) (hlead : ∀ c ∈ lead, Blank c) (hrest : Ends rest)
    (levels : Nat) :
    ReadsNumeral l (value levels (lead ++ (l.toList ++ rest))) rest := by
  obtain ⟨d, ds, hds, hd, -⟩ := l.exists_digits_eq_cons
  -- the first character tells that a number follows
  have hvalue {c : Char} {cs : List Char} (hl : l.toList = c :: cs) (hc : c.isDigit ∨ c = '-')
      (h : ReadsNumeral l (scalar c (cs ++ rest)) rest) :
      ReadsNumeral l (value levels (lead ++ (l.toList ++ rest))) rest := by
    obtain ⟨hblank, hbracket, hbrace, -⟩ := not_blank_of_isDigit_or_minus hc
    have hskip := skipBlanks_append_cons hlead hblank (cs ++ rest)
    rw [hl, List.cons_append]
    exact ⟨fun hfits hzero => reads_value_scalar hskip ⟨hbracket, hbrace⟩ (h.reads hfits hzero),
      yields_value_scalar hskip ⟨hbracket, hbrace⟩ h.yields⟩
  cases hsign : l.sign with
  | unsigned =>
    have hlist : l.toList = d :: ds := by rw [Numeral.toList, hsign, hds]; rfl
    exact hvalue hlist (.inl hd) (readsNumeral_unsigned hl hsign hds hrest)
  | plus => exact absurd hsign hl.sign_ne_plus
  | minus =>
    have hlist : l.toList = '-' :: d :: ds := by rw [Numeral.toList, hsign, hds]; rfl
    exact hvalue hlist (.inr rfl) (readsNumeral_minus hl hsign hds hrest)

theorem ends_of_blank (htrail : ∀ c ∈ trail, Blank c) : Ends trail := by
  have hends := ends_append htrail Ends.nil
  rwa [List.append_nil] at hends

/-- A text that holds only a literal is read as the number that this writes, if it fits 64 bits and
    is not the negative zero. -/
theorem document_numeral (hl : l.IsJson) (hfits : Fits l.value) (hzero : ¬ l.IsNegativeZero)
    (hlead : ∀ c ∈ lead, Blank c) (htrail : ∀ c ∈ trail, Blank c) :
    document (lead ++ (l.toList ++ trail)) = .ok (.number (.integer l.value)) := by
  have hread := (readsNumeral_value hl hlead (ends_of_blank htrail) maxLevels).reads hfits hzero
  have hblanks := skipBlanks_append htrail []
  rw [List.append_nil] at hblanks
  exact document_eq_ok_iff.2 ⟨trail, hread, hblanks⟩

/-- A text that holds only a literal is read as nothing but the number that this writes, or as a
    float. -/
theorem candidate_of_document {j : Json} (hl : l.IsJson) (hlead : ∀ c ∈ lead, Blank c)
    (htrail : ∀ c ∈ trail, Blank c) (h : document (lead ++ (l.toList ++ trail)) = .ok j) :
    Candidate l j := by
  obtain ⟨rest, ⟨hrest, hvalue⟩, -⟩ := document_eq_ok_iff.1 h
  exact (readsNumeral_value hl hlead (ends_of_blank htrail) maxLevels).yields _ _ hvalue

end Json.Reader

namespace Value

open Json (Blank)
open Json.Reader (candidate_of_document document document_numeral)

variable {l : Numeral} {lead trail : List Char} {source : String}

theorem ofJson_number (n : Json.Number) : ofJson (.number n) = ofJsonNumber n := by
  rw [ofJson, ofJsonAt, if_neg (by decide)]

/-- A literal that fits, other than the negative zero, is the number that it writes. -/
theorem parseJson_numeral_of_fits (hl : l.IsJson) (hfits : Fits l.value)
    (hzero : ¬ l.IsNegativeZero) (hlead : ∀ c ∈ lead, Blank c) (htrail : ∀ c ∈ trail, Blank c)
    (hsource : source.toList = lead ++ (l.toList ++ trail)) :
    ∃ n : Int64, n.toInt = l.value ∧ parseJson source = .ok (.number n) := by
  obtain ⟨n, hn, hread⟩ := Integer.ofInt?_of_fits hfits
  have hinteger : ofJson (.number (.integer l.value)) = .ok (.number n) := by
    rw [ofJson_number, ofJsonNumber, hread]
  refine ⟨n, hn, ?_⟩
  rw [parseJson, hsource, document_numeral hl hfits hzero hlead htrail]
  exact hinteger

/-- A literal that does not fit, and the negative zero, are no value. -/
theorem exists_parseJson_numeral_error (hl : l.IsJson)
    (h : ¬ (Fits l.value ∧ ¬ l.IsNegativeZero)) (hlead : ∀ c ∈ lead, Blank c)
    (htrail : ∀ c ∈ trail, Blank c) (hsource : source.toList = lead ++ (l.toList ++ trail)) :
    ∃ e, parseJson source = .error e ∧ (e.kind = .invalidSyntax ∨ e.kind = .unsupported) := by
  cases hparse : parseJson source with
  | error e => exact ⟨e, rfl, kind_of_parseJson_error hparse⟩
  | ok v =>
    rw [parseJson, hsource] at hparse
    cases hdocument : document (lead ++ (l.toList ++ trail)) with
    | error fault =>
      rw [hdocument] at hparse
      cases hparse
    | ok j =>
      rw [hdocument] at hparse
      replace hparse : ofJson j = .ok v := hparse
      obtain ⟨rfl, hzero⟩ | ⟨x, rfl⟩ := candidate_of_document hl hlead htrail hdocument
      · have hbeyond : ¬ Fits l.value := fun hfits => h ⟨hfits, hzero⟩
        rw [ofJson_number, ofJsonNumber, Integer.ofInt?_of_not_fits hbeyond] at hparse
        cases hparse
      · rw [ofJson_number] at hparse
        cases hparse

/-- A JSON text that holds only an integer literal, of any length and between any blanks, is read as
    the number that the literal writes if this fits 64 bits and the literal is not the negative
    zero. Otherwise the text is refused, as a syntax error or as a number that no value can be. -/
theorem parseJson_numeral (hl : l.IsJson) (hlead : ∀ c ∈ lead, Blank c)
    (htrail : ∀ c ∈ trail, Blank c) (hsource : source.toList = lead ++ (l.toList ++ trail)) :
    (Fits l.value ∧ ¬ l.IsNegativeZero →
      ∃ n : Int64, n.toInt = l.value ∧ parseJson source = .ok (.number n)) ∧
    (¬ (Fits l.value ∧ ¬ l.IsNegativeZero) →
      ∃ e, parseJson source = .error e ∧ (e.kind = .invalidSyntax ∨ e.kind = .unsupported)) :=
  ⟨fun h => parseJson_numeral_of_fits hl h.1 h.2 hlead htrail hsource,
    fun h => exists_parseJson_numeral_error hl h hlead htrail hsource⟩

/-- The least number of 64 bits, and the one behind the greatest. -/
theorem parseJson_numeral_limits :
    let least : Numeral := { sign := .minus, digits := "9223372036854775808".toList }
    let beyond : Numeral := { sign := .unsigned, digits := "9223372036854775808".toList }
    (least.IsJson ∧ Fits least.value ∧ ¬ least.IsNegativeZero ∧
      parseJson "\n -9223372036854775808\t" = .ok (.number (-9223372036854775808))) ∧
    (beyond.IsJson ∧ ¬ Fits beyond.value ∧ ∃ e, parseJson "\n 9223372036854775808\t" = .error e ∧
      (e.kind = .invalidSyntax ∨ e.kind = .unsupported)) := by
  intro least beyond
  have hleast : least.IsJson := ⟨by decide, by decide⟩
  have hbeyond : beyond.IsJson := ⟨by decide, by decide⟩
  have hlead : ∀ c ∈ ['\n', ' '], Json.Blank c :=
    List.forall_mem_cons.2 ⟨by decide, List.forall_mem_singleton.2 (by decide)⟩
  have htrail : ∀ c ∈ ['\t'], Json.Blank c := List.forall_mem_singleton.2 (by decide)
  have hfits : Fits least.value ∧ ¬ least.IsNegativeZero := by decide
  have hnot : ¬ Fits beyond.value := by decide
  have hsource : "\n -9223372036854775808\t".toList = ['\n', ' '] ++ (least.toList ++ ['\t']) := by
    decide
  have hsource' : "\n 9223372036854775808\t".toList = ['\n', ' '] ++ (beyond.toList ++ ['\t']) := by
    decide
  obtain ⟨n, hn, hread⟩ := (parseJson_numeral hleast hlead htrail hsource).1 hfits
  obtain rfl : n = -9223372036854775808 := Int64.toInt_inj.1 hn
  exact ⟨⟨hleast, hfits.1, hfits.2, hread⟩, hbeyond, hnot,
    (parseJson_numeral hbeyond hlead htrail hsource').2 fun h => hnot h.1⟩

/-- The negative zero fits 64 bits, but it is refused. -/
theorem parseJson_negative_zero :
    let l : Numeral := { sign := .minus, digits := ['0'] }
    l.IsJson ∧ Fits l.value ∧ ∀ n, parseJson l.text ≠ .ok (.number n) := by
  intro l
  have hl : l.IsJson := ⟨by decide, by decide⟩
  have hrefused : ¬ (Fits l.value ∧ ¬ l.IsNegativeZero) := by decide
  have hblanks : ∀ c ∈ ([] : List Char), Json.Blank c := List.forall_mem_nil Json.Blank
  have hsource : l.text.toList = [] ++ (l.toList ++ []) := by decide
  obtain ⟨e, he, -⟩ := exists_parseJson_numeral_error hl hrefused hblanks hblanks hsource
  exact ⟨hl, by decide, fun n hn => nomatch he.symm.trans hn⟩

end Value

end TurnScript
