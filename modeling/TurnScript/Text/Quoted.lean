import TurnScript.Text.Printable

/-!
# Quoted text

The way a text value is shown: between double quotes, with what could not be read on a page
written as an escape. The quote, the backslash, NUL, tab, line feed and carriage return have short
escapes, every other character that is not printable is written by its code point, as in
`\u{200b}`, and the printable characters stand for themselves.
-/

namespace TurnScript.Text

/-- A number in lower-case hexadecimal, without leading zeros. -/
def hexadecimal (n : Nat) : List Char := Nat.toDigits 16 n

/-- One character as it is written between quotes. -/
def quoteChar (c : Char) : List Char :=
  match c with
  | '\x00' => ['\\', '0']
  | '\t' => ['\\', 't']
  | '\r' => ['\\', 'r']
  | '\n' => ['\\', 'n']
  | '"' => ['\\', '"']
  | '\\' => ['\\', '\\']
  | _ =>
    if isPrintable c then [c]
    else '\\' :: 'u' :: '\x7b' :: (hexadecimal c.toNat ++ ['\x7d'])

/-- A text between quotes, with its unprintable characters escaped. -/
def quote (s : String) : String :=
  String.ofList ('"' :: (s.toList.flatMap quoteChar ++ ['"']))

end TurnScript.Text
