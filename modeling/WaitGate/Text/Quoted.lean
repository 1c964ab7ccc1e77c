import WaitGate.Text.Printable
import WaitGate.Text.Extender
/-!
# Quoted text

The quoted form of a text, as diagnostics show labels and values: the text between double quotes,
each character written as itself unless it needs an escape.

* The quote, the backslash, line feed, carriage return, tab and the null character take a
  backslash escape: `\"`, `\\`, `\n`, `\r`, `\t`, `\0`.
* A grapheme extender, or a character that is not printable, is written by its code point in
  lower-case hexadecimal, `\u{301}`, so that no mark joins a quote and no invisible character
  hides in the text.
* Every other character, ASCII or not, stands as itself.
-/

namespace WaitGate.Text

/-- The lower-case hexadecimal digits of a code point, without leading zeros. -/
def hexDigits (n : Nat) : List Char := Nat.toDigits 16 n

/-- The escape of a character by its code point, `\u{…}`. -/
def codePointEscape (c : Char) : List Char :=
  ['\\', 'u', '{'] ++ hexDigits c.toNat ++ ['}']

/-- How one character is written between double quotes. -/
def quoteChar (c : Char) : List Char :=
  if c = '"' then ['\\', '"']
  else if c = '\\' then ['\\', '\\']
  else if c = '\n' then ['\\', 'n']
  else if c = '\r' then ['\\', 'r']
  else if c = '\t' then ['\\', 't']
  else if c = '\x00' then ['\\', '0']
  else if extender c || !printable c then codePointEscape c
  else [c]

/-- The quoted form of a text. -/
def quote (s : String) : String :=
  String.ofList ('"' :: s.toList.flatMap quoteChar ++ ['"'])

end WaitGate.Text
