import Mathlib.Data.Nat.Init
import TurnScript.Json.Reader
import TurnScript.Proofs.Text.Position

/-!
# Where the reader of JSON stops

The reader only stops behind characters of one byte (`Follows`): those that end a part of the text
all are. So it finds a fault there, at the character that it blames, at the end of the text inside
a string, or in the four bytes of an escape (`Fault.LiesIn`). What every part of the reader keeps
of this is `Stays`; `liesIn_of_document` says it for whole texts.
-/

namespace TurnScript

open Text

namespace Json

variable {text rest front : List Char} {c : Char} {cause : Cause}

/-! ## Places -/

/-- The rest stands at the beginning of the text, or behind a character of one byte. -/
def Follows (text rest : List Char) : Prop :=
  ∃ before, text = before ++ rest ∧ ∀ c ∈ before.getLast?, c.utf8Size = 1

theorem Follows.refl (text : List Char) : Follows text text := ⟨[], rfl, nofun⟩

theorem Follows.isSuffix (h : Follows text rest) : rest <:+ text := by
  obtain ⟨before, rfl, -⟩ := h
  exact List.suffix_append before rest

/-- Behind a character of one byte. -/
theorem follows_of_cons_isSuffix (h : c :: rest <:+ text) (hc : c.utf8Size = 1) :
    Follows text rest := by
  obtain ⟨before, rfl⟩ := h
  refine ⟨before ++ [c], by simp, ?_⟩
  rw [List.getLast?_concat]
  rintro _ ⟨⟩
  exact hc

/-- Behind further characters of one byte. -/
theorem Follows.of_append (h : Follows text (front ++ rest))
    (hfront : ∀ c ∈ front, c.utf8Size = 1) : Follows text rest := by
  induction front with
  | nil => exact h
  | cons c front ih =>
    obtain ⟨hc, hfront⟩ := List.forall_mem_cons.1 hfront
    exact ih (follows_of_cons_isSuffix h.isSuffix hc) hfront

theorem Follows.of_cons (h : Follows text (c :: rest)) (hc : c.utf8Size = 1) : Follows text rest :=
  follows_of_cons_isSuffix h.isSuffix hc

/-- Where in the text a fault can be. -/
inductive Fault.LiesIn (text : List Char) : Fault → Prop
  /-- At the character that is blamed. -/
  | here {cause : Cause} {c : Char} {after : List Char} :
    c :: after <:+ text → LiesIn text ⟨cause, c :: after, 1⟩
  /-- Behind what was read. -/
  | behind {cause : Cause} {rest : List Char} : Follows text rest → LiesIn text ⟨cause, rest, 0⟩
  /-- At the end, where another character was expected. -/
  | atEnd {cause : Cause} : Follows text [] → LiesIn text ⟨cause, [], 1⟩
  /-- At the end, inside a string. -/
  | endInString : LiesIn text ⟨.endInString, [], 0⟩
  /-- In the four bytes of an escape. -/
  | badEscape {after : List Char} : '\\' :: 'u' :: after <:+ text → 4 ≤ byteLength after →
    LiesIn text ⟨.badEscape, after, 4⟩

/-- At the next character, or at the end. -/
theorem Fault.LiesIn.next (h : Follows text rest) : Fault.LiesIn text ⟨cause, rest, 1⟩ := by
  cases rest with
  | nil => exact .atEnd h
  | cons c after => exact .here h.isSuffix

namespace Reader

variable {α β : Type} {p q : List Char → Prop} {cs ds : List Char} {negative : Bool}
  {levels : Nat}

/-- Whatever `m` reads, it stops behind a character of one byte, or at a fault in the text. -/
def Stays (text : List Char) (m : Except Fault (α × Subtype p)) : Prop :=
  (∀ a left, m = .ok (a, left) → Follows text left.1) ∧
    ∀ fault, m = .error fault → fault.LiesIn text

theorem Stays.ok {hrest : p rest} (h : Follows text rest) (a : α) :
    Stays text (.ok (a, ⟨rest, hrest⟩)) := by
  refine ⟨?_, nofun⟩
  rintro _ _ ⟨⟩
  exact h

theorem Stays.error {fault : Fault} (h : fault.LiesIn text) :
    Stays (α := α) (p := p) text (.error fault) := by
  refine ⟨nofun, ?_⟩
  rintro _ ⟨⟩
  exact h

theorem Stays.bind {m : Except Fault (α × Subtype p)}
    {f : α × Subtype p → Except Fault (β × Subtype q)} (hm : Stays text m)
    (hf : ∀ a left, Follows text left.1 → Stays text (f (a, left))) : Stays text (m >>= f) := by
  cases m with
  | error fault => exact .error (hm.2 fault rfl)
  | ok result => exact hf result.1 result.2 (hm.1 _ _ rfl)

/-- What is made of what was read does not matter. -/
theorem Stays.map {m : Except Fault (α × Subtype p)} (hm : Stays text m) (f : α → β) :
    Stays text (m.map fun (a, left) => (f a, left)) := by
  cases m with
  | error fault => exact .error (hm.2 fault rfl)
  | ok result => exact .ok (hm.1 _ _ rfl) (f result.1)

/-! ## Strings -/

theorem utf8Size_of_hexDigit? {n : Nat} (h : hexDigit? c = some n) : c.utf8Size = 1 := by
  have hle {d : Char} (hd : d.utf8Size = 1) (hc : c ≤ d) : c.utf8Size = 1 :=
    Char.utf8Size_eq_one_iff.2 (UInt32.le_trans (Char.le_def.1 hc) (Char.utf8Size_eq_one_iff.1 hd))
  unfold hexDigit? at h
  split at h
  · next hc => exact hle (by decide) hc.2
  · split at h
    · next hc => exact hle (by decide) hc.2
    · split at h
      · next hc => exact hle (by decide) hc.2
      · cases h

/-- Hexadecimal digits take one byte each. -/
theorem utf8Size_of_hexValue? {n : Nat} (h : hexValue? ds = some n) :
    ∀ c ∈ ds, c.utf8Size = 1 := by
  rw [hexValue?] at h
  generalize 0 = start at h
  induction ds generalizing start with
  | nil => exact List.forall_mem_nil _
  | cons c ds ih =>
    rw [List.foldlM_cons] at h
    cases hc : hexDigit? c with
    | none =>
      rw [hc] at h
      cases h
    | some d =>
      rw [hc] at h
      exact List.forall_mem_cons.2 ⟨utf8Size_of_hexDigit? hc, ih _ h⟩

/-- Behind the letter of an escape, four digits are read, or the four bytes are at fault. -/
theorem stays_hexUnit (h : '\\' :: 'u' :: cs <:+ text) : Stays text (hexUnit cs) := by
  unfold hexUnit
  split
  · next a b c d rest =>
    have hfollows : Follows text ([a, b, c, d] ++ rest) :=
      follows_of_cons_isSuffix ((List.suffix_cons '\\' _).trans h) rfl
    have hlength : 4 ≤ byteLength (a :: b :: c :: d :: rest) :=
      Nat.le_trans (Nat.le_add_left 4 rest.length) (length_le_byteLength (a :: b :: c :: d :: rest))
    split
    · next n hn => exact .ok (hfollows.of_append (utf8Size_of_hexValue? hn)) n
    · exact .error (.badEscape h hlength)
  · split
    · exact .error .endInString
    · next hlength => exact .error (.badEscape h (Nat.not_lt.1 hlength))

/-- The second half of a pair is read behind another backslash and letter. -/
theorem stays_unicodeEscape (h : '\\' :: 'u' :: cs <:+ text) : Stays text (unicodeEscape cs) := by
  rw [unicodeEscape]
  refine (stays_hexUnit h).bind ?_
  rintro unit ⟨behind, hlength⟩ hbehind
  dsimp only
  split
  · exact .error (.behind hbehind)
  · split
    · split
      · next more hmore =>
        refine (stays_hexUnit hbehind.isSuffix).bind fun low rest hrest => ?_
        dsimp only
        split
        · exact .ok hrest _
        · exact .error (.behind hrest)
      · exact .error .endInString
      · exact .error .endInString
      · exact .error (.next (hbehind.of_cons rfl))
      · exact .error (.next hbehind)
    · exact .ok hbehind _

/-- A letter that may follow a backslash takes one byte. -/
theorem utf8Size_of_escaped? {d : Char} (h : escaped? c = some d) : c.utf8Size = 1 := by
  unfold escaped? at h
  split at h
  case h_9 => cases h
  all_goals rfl

theorem stays_escape (h : '\\' :: cs <:+ text) : Stays text (escape cs) := by
  have hsuffix : cs <:+ text := (List.suffix_cons '\\' cs).trans h
  fun_cases escape cs with
  | case1 =>
    rw [escape]
    exact .error .endInString
  | case2 rest =>
    rw [escape]
    exact (stays_unicodeEscape h).bind fun c behind hbehind => .ok hbehind c
  | case3 c rest hc d hd =>
    rw [escape.eq_3 _ _ hc, hd]
    exact .ok (follows_of_cons_isSuffix hsuffix (utf8Size_of_escaped? hd)) d
  | case4 c rest hc hnone =>
    rw [escape.eq_3 _ _ hc, hnone]
    exact .error (.here hsuffix)

/-- A string may hold any characters, but it ends behind a quote. -/
theorem stays_stringChars (h : cs <:+ text) : Stays text (stringChars cs) := by
  induction cs using stringChars.induct with
  | case1 =>
    rw [stringChars]
    exact .error .endInString
  | case2 rest =>
    rw [stringChars]
    exact .ok (follows_of_cons_isSuffix h rfl) []
  | case3 rest ih =>
    rw [stringChars]
    refine (stays_escape h).bind fun c behind hbehind => ?_
    exact (ih behind.1 behind.2 hbehind.isSuffix).bind fun more left hleft => .ok hleft (c :: more)
  | case4 c rest hquote hbackslash hcontrol =>
    rw [stringChars.eq_4 _ _ hquote hbackslash, if_pos hcontrol]
    have hsize : c.utf8Size = 1 :=
      Char.utf8Size_eq_one_iff.2 (UInt32.le_iff_toNat_le.2 (Nat.le_trans (Nat.le_of_lt hcontrol)
        (by decide)))
    exact .error (.behind (follows_of_cons_isSuffix h hsize))
  | case5 c rest hquote hbackslash hcontrol ih =>
    rw [stringChars.eq_4 _ _ hquote hbackslash, if_neg hcontrol]
    exact (ih ((List.suffix_cons c rest).trans h)).bind fun more left hleft => .ok hleft (c :: more)

theorem stays_string (h : cs <:+ text) : Stays text (string cs) :=
  (stays_stringChars h).map String.ofList

/-! ## Numbers -/

theorem utf8Size_of_isDigit (hc : c.isDigit) : c.utf8Size = 1 := by
  rw [Char.isDigit, Bool.and_eq_true, decide_eq_true_eq, decide_eq_true_eq] at hc
  exact Char.utf8Size_eq_one_iff.2 (UInt32.le_trans hc.2 (by decide))

/-- A text begins with the digits in front of it, which take one byte each. -/
theorem eq_append_of_digits {hrest : rest.length ≤ cs.length}
    (h : digits cs = (ds, ⟨rest, hrest⟩)) : cs = ds ++ rest ∧ ∀ c ∈ ds, c.utf8Size = 1 := by
  rw [digits] at h
  cases h
  exact ⟨List.takeWhile_append_dropWhile.symm,
    fun c hc => utf8Size_of_isDigit (List.all_eq_true.1 List.all_takeWhile c hc)⟩

theorem stays_scaled (h : Follows text rest) (significand : Nat) (e : Int) :
    Stays text (scaled negative significand e rest) := by
  rw [scaled]
  split
  · exact .ok h _
  · exact .error (.behind h)

theorem stays_whole (h : Follows text rest) (significand dropped : Nat) :
    Stays text (whole negative significand dropped rest) := by
  rw [whole]
  split
  · exact .ok h _
  · split
    · exact .ok h _
    · exact stays_scaled h _ _

/-- What is left of the digits when an exponent gets too large is behind one of them. -/
theorem exists_of_exponentValue_error {e : Nat} {unread : List Char}
    (h : exponentValue e ds = .error unread) : ∃ front, ds = front ++ unread := by
  induction ds generalizing e with
  | nil => cases h
  | cons c ds ih =>
    rw [exponentValue] at h
    split at h
    · obtain ⟨front, rfl⟩ := ih h
      exact ⟨c :: front, rfl⟩
    · cases h
      exact ⟨[c], rfl⟩

theorem follows_exponentSign (h : Follows text cs) : Follows text (exponentSign cs).2.1 := by
  unfold exponentSign
  split
  · exact h.of_cons rfl
  · exact h.of_cons rfl
  · exact h

/-- An exponent that gets too large is at fault behind the digit at which it does. -/
theorem stays_exponent (h : Follows text cs) (significand : Nat) (start : Int) :
    Stays text (exponent negative significand start cs) := by
  have hunsigned := follows_exponentSign h
  rw [exponent]
  split
  next down unsigned hlength hsign =>
    rw [hsign] at hunsigned
    split
    next written rest hlength hdigits =>
      obtain ⟨hsplit, hwritten⟩ := eq_append_of_digits hdigits
      replace hunsigned : Follows text (written ++ rest) := hsplit ▸ hunsigned
      have hrest := hunsigned.of_append hwritten
      split
      · split
        · next hempty =>
          obtain rfl := List.isEmpty_iff.1 hempty
          exact .error (.behind hrest)
        · exact .error (.next hrest)
      · split
        · exact (stays_scaled hrest _ _).bind fun n left hleft => .ok hleft n
        · next unread herror =>
          split
          · exact .ok hrest _
          · obtain ⟨front, rfl⟩ := exists_of_exponentValue_error herror
            rw [List.append_assoc] at hunsigned
            exact .error (.behind (hunsigned.of_append fun c hc =>
              hwritten c (List.mem_append_left _ hc)))

theorem stays_fraction (h : Follows text cs) (significand dropped : Nat) :
    Stays text (fraction negative significand dropped cs) := by
  rw [fraction]
  split
  next written behind hlength hdigits =>
    obtain ⟨hsplit, hwritten⟩ := eq_append_of_digits hdigits
    have hbehind : Follows text behind := (hsplit ▸ h).of_append hwritten
    split
    · split
      · next hempty =>
        obtain rfl := List.isEmpty_iff.1 hempty
        exact .error (.next hbehind)
      · exact .error (.next hbehind)
    · split
      split
      · exact (stays_exponent (hbehind.of_cons rfl) _ _).bind fun n left hleft => .ok hleft n
      · exact (stays_exponent (hbehind.of_cons rfl) _ _).bind fun n left hleft => .ok hleft n
      · exact (stays_scaled hbehind _ _).bind fun n left hleft => .ok hleft n

/-- A number is read from behind its first digit. -/
theorem stays_number (h : Follows text cs) (first : Char) :
    Stays text (number negative first cs) := by
  rw [number]
  split
  next more behind hlength hdigits =>
    obtain ⟨hsplit, hmore⟩ := eq_append_of_digits hdigits
    have hbehind : Follows text behind := (hsplit ▸ h).of_append hmore
    split
    · exact .error (.next h)
    · split
      split
      · exact (stays_fraction (hbehind.of_cons rfl) _ _).bind fun n left hleft => .ok hleft n
      · exact (stays_exponent (hbehind.of_cons rfl) _ _).bind fun n left hleft => .ok hleft n
      · exact (stays_exponent (hbehind.of_cons rfl) _ _).bind fun n left hleft => .ok hleft n
      · exact (stays_whole hbehind _ _).bind fun n left hleft => .ok hleft n

theorem stays_negativeNumber (h : Follows text cs) : Stays text (negativeNumber cs) := by
  fun_cases negativeNumber cs with
  | case1 =>
    rw [negativeNumber]
    exact .error (.behind h)
  | case2 c rest hc =>
    rw [negativeNumber, if_pos hc]
    exact (stays_number (h.of_cons (utf8Size_of_isDigit hc)) c).bind fun n left hleft => .ok hleft n
  | case3 c rest hc =>
    rw [negativeNumber, if_neg hc]
    exact .error (.here h.isSuffix)

/-! ## Values -/

/-- The letters of a word take one byte each. -/
theorem stays_word {letters : List Char} (hletters : letters.all fun c => c.utf8Size == 1)
    (h : Follows text cs) (j : Json) : Stays text (word j letters cs) := by
  induction letters generalizing cs with
  | nil => exact .ok h j
  | cons letter letters ih =>
    rw [List.all_cons, Bool.and_eq_true, beq_iff_eq] at hletters
    obtain ⟨hletter, hmore⟩ := hletters
    cases cs with
    | nil => exact .error (.behind h)
    | cons c cs =>
      rw [word]
      split
      · next hc =>
        subst hc
        exact (ih hmore (h.of_cons hletter)).bind fun j left hleft => .ok hleft j
      · exact .error (.here h.isSuffix)

theorem stays_scalar (h : c :: cs <:+ text) : Stays text (scalar c cs) := by
  unfold scalar
  split
  · exact stays_word rfl (follows_of_cons_isSuffix h rfl) .null
  · exact stays_word rfl (follows_of_cons_isSuffix h rfl) (.bool true)
  · exact stays_word rfl (follows_of_cons_isSuffix h rfl) (.bool false)
  · exact (stays_string ((List.suffix_cons _ _).trans h)).map Json.string
  · exact (stays_negativeNumber (follows_of_cons_isSuffix h rfl)).map Json.number
  · split
    · next hc =>
      have hfollows := follows_of_cons_isSuffix h (utf8Size_of_isDigit hc)
      exact (stays_number hfollows c).map Json.number
    · exact .error (.here h)

/-- Blanks take one byte each. -/
theorem follows_skipBlanks (h : Follows text cs) : Follows text (skipBlanks cs) := by
  have hsplit : (cs.takeWhile fun c => c == ' ' || c == '\n' || c == '\t' || c == '\r') ++
      skipBlanks cs = cs := List.takeWhile_append_dropWhile
  rw [← hsplit] at h
  refine h.of_append fun c hc => ?_
  have hblank := List.all_eq_true.1 List.all_takeWhile c hc
  simp only [Bool.or_eq_true, beq_iff_eq] at hblank
  rcases hblank with ((rfl | rfl) | rfl) | rfl <;> rfl

theorem follows_of_next?_eq_none (h : Follows text cs) (hnext : next? cs = none) :
    Follows text [] := by
  have hskip := follows_skipBlanks h
  unfold next? at hnext
  split at hnext
  · next hnil => rwa [hnil] at hskip
  · cases hnext

theorem follows_of_next?_eq_some {left : { rest : List Char // rest.length < cs.length }}
    (h : Follows text cs) (hnext : next? cs = some (c, left)) : Follows text (c :: left.1) := by
  have hskip := follows_skipBlanks h
  unfold next? at hnext
  split at hnext
  · cases hnext
  · next hcons =>
    cases hnext
    rwa [hcons] at hskip

theorem stays_colon (h : Follows text cs) : Stays text (colon cs) := by
  rw [colon]
  split
  · next hnext => exact .error (.atEnd (follows_of_next?_eq_none h hnext))
  · next c rest hlength hnext =>
    have hc := follows_of_next?_eq_some h hnext
    split
    · next heq => exact .ok (hc.of_cons (heq ▸ rfl)) ()
    · exact .error (.next hc)

/-- Where there is more, another part begins. -/
theorem stays_separator {closing : Char} (hclosing : closing.utf8Size = 1) (h : Follows text cs)
    (atEnd missing : Cause) : Stays text (separator closing atEnd missing cs) := by
  rw [separator]
  split
  · next hnext => exact .error (.atEnd (follows_of_next?_eq_none h hnext))
  · next c rest hlength hnext =>
    have hc := follows_of_next?_eq_some h hnext
    split
    · next heq => exact .ok (hc.of_cons (heq ▸ hclosing)) false
    · split
      · next heq =>
        have hrest : Follows text rest := hc.of_cons (heq ▸ rfl)
        split
        · next hmore => exact .error (.atEnd (follows_of_next?_eq_none hrest hmore))
        · next first more hlength' hmore =>
          have hfirst := follows_of_next?_eq_some hrest hmore
          split
          · exact .error (.next hfirst)
          · exact .ok hfirst true
      · exact .error (.next hc)

/-- Wherever a value, or the items or entries in it, are read behind a character of one byte, the
    reader stops behind another one, or at a fault in the text. -/
theorem stays_value :
    (∀ levels cs, Follows text cs → Stays text (value levels cs)) ∧
      (∀ levels cs, Follows text cs → Stays text (object levels cs)) ∧
      (∀ levels cs, Follows text cs → Stays text (entries levels cs)) ∧
      (∀ levels cs, Follows text cs → Stays text (array levels cs)) ∧
      ∀ levels cs, Follows text cs → Stays text (items levels cs) := by
  apply value.mutual_induct
    (fun levels cs => Follows text cs → Stays text (value levels cs))
    (fun levels cs => Follows text cs → Stays text (object levels cs))
    (fun levels cs => Follows text cs → Stays text (entries levels cs))
    (fun levels cs => Follows text cs → Stays text (array levels cs))
    (fun levels cs => Follows text cs → Stays text (items levels cs))
  -- a value: the end of the text, a bracket too many, an array, an object or a scalar
  · intro levels cs hnext h
    rw [value, hnext]
    exact .error (.atEnd (follows_of_next?_eq_none h hnext))
  · intro levels cs c rest hlength hnext hbracket hlevels h
    rw [value, hnext]
    dsimp only
    rw [if_pos hbracket, if_pos hlevels]
    exact .error (.next (follows_of_next?_eq_some h hnext))
  · intro levels cs rest hlength hlevels hnext hbracket ih h
    rw [value, hnext]
    dsimp only
    rw [if_pos hbracket, if_neg hlevels]
    exact (ih ((follows_of_next?_eq_some h hnext).of_cons rfl)).bind fun js left hleft =>
      .ok hleft _
  · intro levels cs c rest hlength hnext hbracket hlevels hc ih h
    have hbrace : c = '\x7b' := by simpa [hc] using hbracket
    have hrest := (follows_of_next?_eq_some h hnext).of_cons (hbrace ▸ rfl)
    rw [value, hnext]
    dsimp only
    rw [if_pos hbracket, if_neg hlevels, if_neg hc]
    exact (ih hrest).bind fun es left hleft => .ok hleft _
  · intro levels cs c rest hlength hnext hbracket h
    rw [value, hnext]
    dsimp only
    rw [if_neg hbracket]
    exact (stays_scalar (follows_of_next?_eq_some h hnext).isSuffix).bind fun j left hleft =>
      .ok hleft j
  -- an object: the end of the text, its brace or entries
  · intro levels cs hnext h
    rw [object, hnext]
    exact .error (.atEnd (follows_of_next?_eq_none h hnext))
  · intro levels cs rest hlength hnext h
    rw [object, hnext]
    exact .ok ((follows_of_next?_eq_some h hnext).of_cons rfl) []
  · intro levels cs c rest hlength hnext hc ih h
    have hentries := ih (follows_of_next?_eq_some h hnext)
    rw [object, hnext]
    dsimp only
    rw [if_neg hc]
    cases hresult : entries levels (c :: rest) with
    | error fault => exact .error (hentries.2 fault hresult)
    | ok result => exact .ok (hentries.1 _ _ hresult) _
  -- entries: a key, or something else
  · intro levels rest hvalue hmore h
    rw [entries]
    refine (stays_string ((List.suffix_cons _ rest).trans h.isSuffix)).bind
      fun key behindKey hkey => ?_
    refine (stays_colon hkey).bind fun _ behindColon hcolon => ?_
    refine (hvalue _ behindKey.2 _ behindColon.2 hcolon).bind fun j behind hbehind => ?_
    refine (stays_separator rfl hbehind _ _).bind fun more left hleft => ?_
    cases more with
    | false => exact .ok hleft _
    | true =>
      exact (hmore _ behindKey.2 _ behindColon.2 _ behind.2 _ left.2 hleft).bind
        fun es end' hend => .ok hend _
  · intro levels other hother h
    rw [entries.eq_2 _ _ hother]
    exact .error (.next h)
  -- an array: the end of the text, its bracket or items
  · intro levels cs hnext h
    rw [array, hnext]
    exact .error (.atEnd (follows_of_next?_eq_none h hnext))
  · intro levels cs rest hlength hnext h
    rw [array, hnext]
    exact .ok ((follows_of_next?_eq_some h hnext).of_cons rfl) []
  · intro levels cs c rest hlength hnext hc ih h
    rw [array, hnext]
    dsimp only
    rw [if_neg hc]
    exact ih h
  -- one item or more
  · intro levels cs hvalue hmore h
    rw [items]
    refine (hvalue h).bind fun j behind hbehind => ?_
    refine (stays_separator rfl hbehind _ _).bind fun more left hleft => ?_
    cases more with
    | false => exact .ok hleft _
    | true => exact (hmore _ behind.2 _ left.2 hleft).bind fun js end' hend => .ok hend _

/-- The fault of a text lies in it. -/
theorem liesIn_of_document {fault : Fault} (h : document text = .error fault) :
    fault.LiesIn text := by
  obtain ⟨hread, hfault⟩ := stays_value.1 maxLevels text (.refl text)
  rw [document] at h
  cases hvalue : value maxLevels text with
  | error fault' =>
    rw [hvalue] at h
    cases h
    exact hfault _ hvalue
  | ok result =>
    obtain ⟨j, rest, hlength⟩ := result
    have hrest := follows_skipBlanks (hread _ _ hvalue)
    rw [hvalue] at h
    cases hskip : skipBlanks rest with
    | nil =>
      simp only [bind, Except.bind, hskip] at h
      cases h
    | cons c more =>
      simp only [bind, Except.bind, hskip] at h
      cases h
      rw [hskip] at hrest
      exact .next hrest

end Reader

end Json

end TurnScript
