import TurnScript.Decimal.Shortest
import TurnScript.Json

/-!
# Writing JSON

`compact` writes a value without blanks. `pretty` puts every item and entry on a line of its own,
indented by two spaces for each level, and leaves empty arrays and objects closed. Only the quote,
the backslash and the characters below the space are escaped in strings.
-/

namespace TurnScript.Json

/-! ## Numbers -/

/-- How many places around the point are written out: a number below `10 ^ smallest` or from
    `10 ^ largest` on is written with an exponent. -/
structure RealLayout where
  smallest : Int := -5
  largest : Int := 16

/-- A number with the given digits, the first of which stands for `10 ^ e`. Without an exponent it
    has a digit behind the point; an exponent has a sign. -/
def layOut (layout : RealLayout) (digits : List Char) (e : Int) : List Char :=
  if e < layout.smallest || layout.largest ≤ e then
    let sign := if e < 0 then '-' else '+'
    let fraction := match digits.drop 1 with | [] => [] | more => '.' :: more
    digits.take 1 ++ fraction ++ ['e', sign] ++ Nat.toDigits 10 e.natAbs
  else if e < 0 then
    ['0', '.'] ++ List.replicate (-e - 1).toNat '0' ++ digits
  else
    let whole := e.toNat + 1
    let fraction := match digits.drop whole with | [] => ['0'] | more => more
    digits.take whole ++ List.replicate (whole - digits.length) '0' ++ '.' :: fraction

/-- The bit that tells the sign of a float. -/
def signBit : Nat := 1 <<< 63

/-- A finite float, with the fewest digits that tell it from other floats. -/
def realText (x : Float) : String :=
  let bits := x.toBits.toNat
  let sign := if bits < signBit then [] else ['-']
  if bits % signBit = 0 then String.ofList (sign ++ ['0', '.', '0'])
  else
    let (digits, e) := (FloatCell.ofBits bits).shortest.scientific
    String.ofList (sign ++ layOut {} digits e)

/-- A number as JSON writes it. -/
def Number.text : Number → String
  | integer n => toString n
  | real x => realText x

/-! ## Strings -/

/-- A character as it is written in a string. -/
def escapeChar (c : Char) : List Char :=
  match c with
  | '"' => ['\\', '"']
  | '\\' => ['\\', '\\']
  | '\x08' => ['\\', 'b']
  | '\x0c' => ['\\', 'f']
  | '\n' => ['\\', 'n']
  | '\r' => ['\\', 'r']
  | '\t' => ['\\', 't']
  | _ =>
    if c.toNat < 0x20 then
      ['\\', 'u', '0', '0', Nat.digitChar (c.toNat / 16), Nat.digitChar (c.toNat % 16)]
    else [c]

/-- A string between quotes. -/
def stringLiteral (s : String) : String :=
  String.ofList ('"' :: (s.toList.flatMap escapeChar ++ ['"']))

/-! ## Values -/

mutual

/-- A value in one line, without blanks. -/
def compact : Json → String
  | .null => "null"
  | .bool b => if b then "true" else "false"
  | .number n => n.text
  | .string s => stringLiteral s
  | .array items => "[" ++ ",".intercalate (compactItems items) ++ "]"
  | .object entries => "\x7b" ++ ",".intercalate (compactEntries entries) ++ "\x7d"

/-- The items of an array, each in one line. -/
def compactItems : List Json → List String
  | [] => []
  | j :: rest => compact j :: compactItems rest

/-- The entries of an object, each in one line. -/
def compactEntries : List (String × Json) → List String
  | [] => []
  | (k, j) :: rest => (stringLiteral k ++ ":" ++ compact j) :: compactEntries rest

end

/-- A new line at the given level. -/
def newLine (level : Nat) : String := "\n" ++ String.ofList (List.replicate (2 * level) ' ')

/-- Lines between brackets, on the level below `level`; nothing between them if there are none. -/
def block (level : Nat) (opening closing : String) (lines : List String) : String :=
  if lines.isEmpty then opening ++ closing
  else
    opening ++ newLine (level + 1) ++ ("," ++ newLine (level + 1)).intercalate lines ++
      newLine level ++ closing

mutual

/-- A value on the given level, over several lines. -/
def prettyAt (level : Nat) : Json → String
  | .array items => block level "[" "]" (prettyItems (level + 1) items)
  | .object entries => block level "\x7b" "\x7d" (prettyEntries (level + 1) entries)
  | .null => "null"
  | .bool b => if b then "true" else "false"
  | .number n => n.text
  | .string s => stringLiteral s

/-- The items of an array on the given level. -/
def prettyItems (level : Nat) : List Json → List String
  | [] => []
  | j :: rest => prettyAt level j :: prettyItems level rest

/-- The entries of an object on the given level. -/
def prettyEntries (level : Nat) : List (String × Json) → List String
  | [] => []
  | (k, j) :: rest => (stringLiteral k ++ ": " ++ prettyAt level j) :: prettyEntries level rest

end

/-- A value over several lines. -/
def pretty (j : Json) : String := prettyAt 0 j

end TurnScript.Json
