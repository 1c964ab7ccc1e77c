import WaitGate.Json.Reader
/-!
# String literals

A string literal runs from its opening quote to the next unescaped quote. Inside it, a control
character (below `0x20`) is refused, and a backslash starts one of the escapes `\" \\ \/ \b \f
\n \r \t` or `\uXXXX`. A `\u` escape of a high surrogate must be followed at once by a `\u`
escape of a low surrogate; the pair stands for one character. A low surrogate alone, or a high
one not followed by its partner, is refused.

Reading a literal gives its text. Skipping a literal checks only that the escapes are well formed,
and refuses a control character before reading it, where reading refuses after.
-/

namespace WaitGate.Json

/-- The value of a hexadecimal digit. -/
def hexValue (b : UInt8) : Option Nat :=
  if 48 ≤ b ∧ b ≤ 57 then some (b.toNat - 48)
  else if 97 ≤ b ∧ b ≤ 102 then some (b.toNat - 87)
  else if 65 ≤ b ∧ b ≤ 70 then some (b.toNat - 55)
  else none

/-- The cursor at the end of the text. -/
def Cursor.toEnd (c : Cursor) : Cursor := c.rest.foldl (fun d _ => d.advance) c

/-- Read the four hexadecimal digits of a `\u` escape. Four bytes are read before a bad digit is
refused; with fewer than four left the text ends inside the string. -/
def hexQuad : Reader Nat := fun c =>
  match c.rest with
  | a :: b :: d :: e :: _ =>
    let c' := c.advance.advance.advance.advance
    match hexValue a, hexValue b, hexValue d, hexValue e with
    | some w, some x, some y, some z => .ok (((w * 16 + x) * 16 + y) * 16 + z) c'
    | _, _, _, _ => .error { problem := .invalidEscape, pos := some c'.pos } c'
  | _ =>
    let c' := c.toEnd
    .error { problem := .eofInString, pos := some c'.pos } c'

/-- The UTF-8 bytes of a code point, last byte first, in front of `acc`. -/
def pushCode (n : Nat) (acc : List UInt8) : List UInt8 :=
  (String.singleton (Char.ofNat n)).toUTF8.toList.reverse ++ acc

/-- The next byte of a string, which must be there. -/
def nextInString : Reader UInt8 := do
  match ← next with
  | some b => pure b
  | none => fail .eofInString

/-- The byte after a high surrogate's escape, which must be `want`; any other is read and
refused. -/
def expectInPair (want : UInt8) : Reader Unit := do
  match ← peek with
  | none => fail .eofInString
  | some b =>
    bump
    if b = want then pure () else fail .unexpectedEndOfHexEscape

/-- The rest of a `\u` escape, its `\u` read, the character pushed on `acc`. -/
def unicodeEscape (acc : List UInt8) : Reader (List UInt8) := do
  let n ← hexQuad
  if 0xDC00 ≤ n ∧ n ≤ 0xDFFF then fail .loneLeadingSurrogate
  else if n < 0xD800 ∨ 0xDBFF < n then pure (pushCode n acc)
  else
    expectInPair 92
    expectInPair 117
    let n2 ← hexQuad
    if n2 < 0xDC00 ∨ 0xDFFF < n2 then fail .loneLeadingSurrogate
    else pure (pushCode (((n - 0xD800) * 0x400 + (n2 - 0xDC00)) + 0x10000) acc)

/-- The rest of an escape, its backslash read, the character pushed on `acc`. -/
def escape (acc : List UInt8) : Reader (List UInt8) := do
  match ← nextInString with
  | 34 => pure (34 :: acc)
  | 92 => pure (92 :: acc)
  | 47 => pure (47 :: acc)
  | 98 => pure (8 :: acc)
  | 102 => pure (12 :: acc)
  | 110 => pure (10 :: acc)
  | 114 => pure (13 :: acc)
  | 116 => pure (9 :: acc)
  | 117 => unicodeEscape acc
  | _ => fail .invalidEscape

/-- The bytes of a string up to its closing quote, which is read; `acc` holds those before, last
first. At most `fuel` bytes are read. -/
def stringBytes : Nat → List UInt8 → Reader (List UInt8)
  | 0, _ => fail .eofInString
  | fuel + 1, acc => do
    match ← peek with
    | none => fail .eofInString
    | some b =>
      bump
      if b = 34 then pure acc.reverse
      else if b = 92 then stringBytes fuel (← escape acc)
      else if b < 0x20 then fail .controlCharacter
      else stringBytes fuel (b :: acc)

/-- Read a string, its opening quote read. -/
def readString : Reader String := do
  let bytes ← stringBytes (← bytesLeft) []
  pure ((String.fromUTF8? (ByteArray.mk bytes.toArray)).getD "")

/-- Skip an escape, its backslash read. -/
def skipEscape : Reader Unit := do
  match ← nextInString with
  | 34 | 92 | 47 | 98 | 102 | 110 | 114 | 116 => pure ()
  | 117 => discard hexQuad
  | _ => fail .invalidEscape

/-- Skip the rest of a string, at most `fuel` bytes. -/
def skipStringBytes : Nat → Reader Unit
  | 0 => fail .eofInString
  | fuel + 1 => do
    match ← peek with
    | none => fail .eofInString
    | some b =>
      if b = 34 then bump
      else if b = 92 then do bump; skipEscape; skipStringBytes fuel
      else if b < 0x20 then fail .controlCharacter
      else do bump; skipStringBytes fuel

/-- Skip a string, its opening quote read. -/
def skipString : Reader Unit := do skipStringBytes (← bytesLeft)

end WaitGate.Json
