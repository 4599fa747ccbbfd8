import TurnScript.Json.Reader.Basic

/-!
# JSON scalars

The values without brackets. A string is read from behind its opening quote, and its escapes are
resolved; a character beyond the first plane that is written by code units takes two of them, and
neither of the two may stand alone.

A number without fraction and exponent is an integer if it fits 64 bits, with a sign if it is
negative and without otherwise. Every other number becomes a float: its digits are collected as
long as they fit 64 bits, and the result is scaled by a power of ten.
-/

namespace TurnScript.Json.Reader

/-! ## Strings -/

/-- The value of a hexadecimal digit. -/
def hexDigit? (c : Char) : Option Nat :=
  if '0' ≤ c ∧ c ≤ '9' then some (c.toNat - '0'.toNat)
  else if 'a' ≤ c ∧ c ≤ 'f' then some (c.toNat - 'a'.toNat + 10)
  else if 'A' ≤ c ∧ c ≤ 'F' then some (c.toNat - 'A'.toNat + 10)
  else none

/-- The number that hexadecimal digits write. -/
def hexValue? (digits : List Char) : Option Nat :=
  digits.foldlM (fun n c => (hexDigit? c).map (16 * n + ·)) 0

/-- Four hexadecimal digits. Four bytes are taken at once, so that the end of the text counts
    before any other fault in them. -/
def hexUnit (cs : List Char) : Read Nat cs :=
  match cs with
  | a :: b :: c :: d :: rest =>
    match hexValue? [a, b, c, d] with
    | some n => .ok (n, ⟨rest, by simp; omega⟩)
    | none => .error ⟨.badEscape, a :: b :: c :: d :: rest, 4⟩
  | short =>
    if Text.byteLength short < 4 then .error ⟨.endInString, [], 0⟩
    else .error ⟨.badEscape, short, 4⟩

/-- The first half of a surrogate pair. -/
def isHighSurrogate (n : Nat) : Bool := 0xD800 ≤ n && n ≤ 0xDBFF

/-- The second half of a surrogate pair. -/
def isLowSurrogate (n : Nat) : Bool := 0xDC00 ≤ n && n ≤ 0xDFFF

/-- The character of a surrogate pair. -/
def pairChar (high low : Nat) : Char :=
  Char.ofNat (0x10000 + 0x400 * (high - 0xD800) + (low - 0xDC00))

/-- The character that a `\u` escape writes, read from behind the `u`. A character beyond the first
    plane is written by two such escapes. -/
def unicodeEscape (cs : List Char) : Read Char cs := do
  let (unit, ⟨behind, h⟩) ← hexUnit cs
  if isLowSurrogate unit then throw ⟨.loneSurrogate, behind, 0⟩
  else if isHighSurrogate unit then
    match behind, h with
    | '\\' :: 'u' :: more, h =>
      let (low, ⟨rest, h'⟩) ← hexUnit more
      if isLowSurrogate low then
        return (pairChar unit low, ⟨rest, by simp at h; omega⟩)
      else throw ⟨.loneSurrogate, rest, 0⟩
    | [], _ | ['\\'], _ => throw ⟨.endInString, [], 0⟩
    | '\\' :: other, _ | other, _ => throw ⟨.unfinishedPair, other, 1⟩
  else return (Char.ofNat unit, ⟨behind, h⟩)

/-- The character that a letter behind a backslash stands for. -/
def escaped? (c : Char) : Option Char :=
  match c with
  | '"' => some '"'
  | '\\' => some '\\'
  | '/' => some '/'
  | 'b' => some '\x08'
  | 'f' => some '\x0c'
  | 'n' => some '\n'
  | 'r' => some '\r'
  | 't' => some '\t'
  | _ => none

/-- The character that an escape writes, read from behind the backslash. -/
def escape (cs : List Char) : Read Char cs :=
  match cs with
  | [] => .error ⟨.endInString, [], 0⟩
  | 'u' :: rest => do
    let (c, ⟨behind, h⟩) ← unicodeEscape rest
    return (c, ⟨behind, Nat.le_succ_of_le h⟩)
  | c :: rest =>
    match escaped? c with
    | some d => .ok (d, ⟨rest, Nat.le_succ _⟩)
    | none => .error ⟨.badEscape, c :: rest, 1⟩

/-- The characters of a string, read from behind its opening quote. -/
def stringChars (cs : List Char) : Read (List Char) cs :=
  match cs with
  | [] => .error ⟨.endInString, [], 0⟩
  | '"' :: rest => .ok ([], ⟨rest, Nat.le_succ _⟩)
  | '\\' :: rest => do
    let (c, ⟨behind, h⟩) ← escape rest
    let (more, ⟨left, h'⟩) ← stringChars behind
    return (c :: more, ⟨left, by simp; omega⟩)
  | c :: rest =>
    if c.toNat < 0x20 then .error ⟨.controlCharacter, rest, 0⟩
    else do
      let (more, ⟨left, h⟩) ← stringChars rest
      return (c :: more, ⟨left, Nat.le_succ_of_le h⟩)
termination_by cs.length

/-- A string, read from behind its opening quote. -/
def string (cs : List Char) : Read String cs :=
  (stringChars cs).map fun (content, rest) => (String.ofList content, rest)

/-! ## Numbers -/

/-- The digits in front of a text, and the text behind them. -/
def digits (cs : List Char) : List Char × Behind cs :=
  (cs.takeWhile Char.isDigit,
    ⟨cs.dropWhile Char.isDigit, (List.dropWhile_suffix _).length_le⟩)

/-- The value of a digit. -/
def digitValue (c : Char) : Nat := c.toNat - '0'.toNat

/-- The largest number of 64 bits. -/
def maxSignificand : Nat := 18446744073709551615

/-- A number with further digits, as many as fit 64 bits, and how many those are. -/
def collect (significand : Nat) : List Char → Nat × Nat
  | [] => (significand, 0)
  | c :: rest =>
    let next := 10 * significand + digitValue c
    if next ≤ maxSignificand then
      let (n, kept) := collect next rest
      (n, kept + 1)
    else (significand, 0)

/-- The largest power of ten that is a float. -/
def maxPower : Nat := 308

/-- A power of ten as a float. -/
def powerOfTen (e : Nat) : Float := OfScientific.ofScientific 1 false e

/-- A float divided by `10 ^ e`, in steps of the largest power. -/
def scaleDown (x : Float) (e : Nat) : Float :=
  if e ≤ maxPower then x / powerOfTen e
  else if x == 0 then x
  else scaleDown (x / powerOfTen maxPower) (e - maxPower)
termination_by e
decreasing_by simp_all [maxPower]; omega

/-- The float `significand · 10 ^ e`; none if it is too large. -/
def scale? (significand : Nat) (e : Int) : Option Float :=
  let x : Float := OfScientific.ofScientific significand false 0
  if 0 ≤ e then
    if e ≤ maxPower then
      let y := x * powerOfTen e.toNat
      if y.isInf then none else some y
    else if x == 0 then some x
    else none
  else some (scaleDown x e.natAbs)

/-- A float with its sign. -/
def signed (negative : Bool) (x : Float) : Number := .real (if negative then -x else x)

/-- The number `significand · 10 ^ e`, in front of `rest`. -/
def scaled (negative : Bool) (significand : Nat) (e : Int) (rest : List Char) : Read Number rest :=
  match scale? significand e with
  | some x => .ok (signed negative x, ⟨rest, Nat.le_refl _⟩)
  | none => .error ⟨.numberOutOfRange, rest, 0⟩

/-- The largest exponent that is read. -/
def maxExponent : Nat := 2147483647

/-- An exponent with further digits. If it gets too large, the error is what follows the digit at
    which it does. -/
def exponentValue (e : Nat) : List Char → Except (List Char) Nat
  | [] => .ok e
  | c :: rest =>
    let next := 10 * e + digitValue c
    if next ≤ maxExponent then exponentValue next rest else .error rest

/-- The sign of an exponent: whether it is a minus, and the text behind it. -/
def exponentSign (cs : List Char) : Bool × Behind cs :=
  match cs with
  | '+' :: rest => (false, ⟨rest, Nat.le_succ _⟩)
  | '-' :: rest => (true, ⟨rest, Nat.le_succ _⟩)
  | rest => (false, ⟨rest, Nat.le_refl _⟩)

/-- The number with the exponent that is read from behind its letter. -/
def exponent (negative : Bool) (significand : Nat) (start : Int) (cs : List Char) :
    Read Number cs :=
  let (down, ⟨unsigned, h⟩) := exponentSign cs
  let (written, ⟨rest, h'⟩) := digits unsigned
  if written.isEmpty then
    .error (if rest.isEmpty then ⟨.endInValue, [], 0⟩ else ⟨.badNumber, rest, 1⟩)
  else
    match exponentValue 0 written with
    | .ok e => do
      let power := if down then start - e else start + e
      let (n, ⟨left, h''⟩) ← scaled negative significand power rest
      return (n, ⟨left, by omega⟩)
    | .error unread =>
      -- the number is zero, or beyond every float
      if significand = 0 || down then .ok (signed negative 0, ⟨rest, by omega⟩)
      else .error ⟨.numberOutOfRange, unread ++ rest, 0⟩

/-- The number with a fraction that is read from behind the point. -/
def fraction (negative : Bool) (significand dropped : Nat) (cs : List Char) : Read Number cs :=
  let (written, ⟨behind, h⟩) := digits cs
  if written.isEmpty then
    .error (if behind.isEmpty then ⟨.endInValue, [], 1⟩ else ⟨.badNumber, behind, 1⟩)
  else
    let (significand, kept) := collect significand written
    let start : Int := dropped - kept
    match behind, h with
    | 'e' :: more, h | 'E' :: more, h => do
      let (n, ⟨left, h'⟩) ← exponent negative significand start more
      return (n, ⟨left, by simp at h; omega⟩)
    | behind, h => do
      let (n, ⟨left, h'⟩) ← scaled negative significand start behind
      return (n, ⟨left, by omega⟩)

/-- The magnitude of the least integer of 64 bits. -/
def maxNegated : Nat := 9223372036854775808

/-- A number without fraction and exponent, in front of `rest`. An integer that fits no 64 bits is
    a float, and so is the negative zero. -/
def whole (negative : Bool) (significand dropped : Nat) (rest : List Char) : Read Number rest :=
  if dropped = 0 && !negative then .ok (.integer significand, ⟨rest, Nat.le_refl _⟩)
  else if dropped = 0 && 0 < significand && significand ≤ maxNegated then
    .ok (.integer (-significand), ⟨rest, Nat.le_refl _⟩)
  else scaled negative significand dropped rest

/-- A number, read from behind its first digit. -/
def number (negative : Bool) (first : Char) (cs : List Char) : Read Number cs :=
  let (more, ⟨behind, h⟩) := digits cs
  if first = '0' && !more.isEmpty then .error ⟨.badNumber, cs, 1⟩
  else
    let (significand, kept) := collect 0 (first :: more)
    let dropped := more.length + 1 - kept
    match behind, h with
    | '.' :: rest, h => do
      let (n, ⟨left, h'⟩) ← fraction negative significand dropped rest
      return (n, ⟨left, by simp at h; omega⟩)
    | 'e' :: rest, h | 'E' :: rest, h => do
      let (n, ⟨left, h'⟩) ← exponent negative significand dropped rest
      return (n, ⟨left, by simp at h; omega⟩)
    | behind, h => do
      let (n, ⟨left, h'⟩) ← whole negative significand dropped behind
      return (n, ⟨left, by omega⟩)

/-- A number, read from behind its minus sign. -/
def negativeNumber (cs : List Char) : Read Number cs :=
  match cs with
  | [] => .error ⟨.endInValue, [], 0⟩
  | c :: rest =>
    if c.isDigit then do
      let (n, ⟨left, h⟩) ← number true c rest
      return (n, ⟨left, Nat.le_succ_of_le h⟩)
    else .error ⟨.badNumber, c :: rest, 1⟩

/-! ## Words and the choice between the scalars -/

/-- The letters of a word that stands for `value`. -/
def word (value : Json) (letters cs : List Char) : Read Json cs :=
  match letters, cs with
  | [], rest => .ok (value, ⟨rest, Nat.le_refl _⟩)
  | _ :: _, [] => .error ⟨.endInValue, [], 0⟩
  | letter :: letters, c :: rest =>
    if c = letter then do
      let (v, ⟨left, h⟩) ← word value letters rest
      return (v, ⟨left, Nat.le_succ_of_le h⟩)
    else .error ⟨.badWord, c :: rest, 1⟩

/-- A value that is neither an array nor an object, read from behind its first character. -/
def scalar (first : Char) (cs : List Char) : Read Json cs :=
  match first with
  | 'n' => word .null ['u', 'l', 'l'] cs
  | 't' => word (.bool true) ['r', 'u', 'e'] cs
  | 'f' => word (.bool false) ['a', 'l', 's', 'e'] cs
  | '"' => (string cs).map fun (s, rest) => (.string s, rest)
  | '-' => (negativeNumber cs).map fun (n, rest) => (.number n, rest)
  | _ =>
    if first.isDigit then (number false first cs).map fun (n, rest) => (.number n, rest)
    else .error ⟨.noValue, first :: cs, 1⟩

end TurnScript.Json.Reader
