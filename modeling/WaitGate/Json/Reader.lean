import WaitGate.Text.Quoted
/-!
# Reading JSON text

A reader walks the bytes of a JSON text and keeps the line and column it stands at, so that a
refusal can say where it happened. Lines count from one and columns from zero, both in bytes, and
the column is the number of bytes since the last line feed.

A refusal is a `Problem` and, usually, a position. A problem found at a byte that was already
read is placed where the reader stands (`fail`); one found by looking at the next byte without
reading it is placed one byte further (`failAhead`), where a reader that had read it would stand.
Problems raised by a decoder that does not know the text get their position later, from the
reader that called it (`placed`).

A reader also counts how deep it is inside arrays and objects: past 127 levels it refuses.
-/

namespace WaitGate.Json

/-- A place in a text: line from one, column from zero, in bytes. -/
structure Pos where
  line : Nat
  column : Nat
  deriving DecidableEq

/-- What a decoder found where it expected something else. -/
inductive Found where
  | null
  | bool (b : Bool)
  | unsigned (n : Nat)
  | signed (i : Int)
  | float (text : String)
  | string (s : String)
  | sequence
  | map

/-- Why a text was refused. -/
inductive Problem where
  | eofInList
  | eofInObject
  | eofInString
  | eofInValue
  | expectedColon
  | expectedListCommaOrEnd
  | expectedObjectCommaOrEnd
  | expectedIdent
  | expectedValue
  | invalidEscape
  | invalidNumber
  | numberOutOfRange
  | controlCharacter
  | keyMustBeString
  | loneLeadingSurrogate
  | trailingComma
  | trailingCharacters
  | unexpectedEndOfHexEscape
  | recursionLimit
  | invalidType (found : Found) (expected : String)
  | invalidValue (found : Found) (expected : String)
  | invalidLength (count : Nat) (expected : String)
  | unknownVariant (name : String) (variants : List String)
  | unknownField (name : String) (fields : List String)
  | missingField (name : String)
  | duplicateField (name : String)
  | custom (message : String)

/-- A name between backticks. -/
def ticked (s : String) : String := "`" ++ s ++ "`"

/-- A list of allowed names: `a`, `a` or `b`, or one of `a`, `b`, `c`. -/
def oneOf : List String → String
  | [] => ""
  | [a] => ticked a
  | [a, b] => ticked a ++ " or " ++ ticked b
  | names => "one of " ++ ", ".intercalate (names.map ticked)

namespace Found

/-- How a found value is named in a refusal. -/
def describe : Found → String
  | null => "null"
  | bool b => "boolean " ++ ticked (toString b)
  | unsigned n => "integer " ++ ticked (toString n)
  | signed i => "integer " ++ ticked (toString i)
  | float t => "floating point " ++ ticked t
  | string s => "string " ++ Text.quote s
  | sequence => "sequence"
  | map => "map"

end Found

namespace Problem

/-- The words of a problem. -/
def message : Problem → String
  | eofInList => "EOF while parsing a list"
  | eofInObject => "EOF while parsing an object"
  | eofInString => "EOF while parsing a string"
  | eofInValue => "EOF while parsing a value"
  | expectedColon => "expected " ++ ticked ":"
  | expectedListCommaOrEnd => "expected " ++ ticked "," ++ " or " ++ ticked "]"
  | expectedObjectCommaOrEnd => "expected " ++ ticked "," ++ " or " ++ ticked "\x7d"
  | expectedIdent => "expected ident"
  | expectedValue => "expected value"
  | invalidEscape => "invalid escape"
  | invalidNumber => "invalid number"
  | numberOutOfRange => "number out of range"
  | controlCharacter => "control character (\\u0000-\\u001F) found while parsing a string"
  | keyMustBeString => "key must be a string"
  | loneLeadingSurrogate => "lone leading surrogate in hex escape"
  | trailingComma => "trailing comma"
  | trailingCharacters => "trailing characters"
  | unexpectedEndOfHexEscape => "unexpected end of hex escape"
  | recursionLimit => "recursion limit exceeded"
  | invalidType f e => "invalid type: " ++ f.describe ++ ", expected " ++ e
  | invalidValue f e => "invalid value: " ++ f.describe ++ ", expected " ++ e
  | invalidLength n e => "invalid length " ++ toString n ++ ", expected " ++ e
  | unknownVariant n [] => "unknown variant " ++ ticked n ++ ", there are no variants"
  | unknownVariant n vs => "unknown variant " ++ ticked n ++ ", expected " ++ oneOf vs
  | unknownField n [] => "unknown field " ++ ticked n ++ ", there are no fields"
  | unknownField n fs => "unknown field " ++ ticked n ++ ", expected " ++ oneOf fs
  | missingField n => "missing field " ++ ticked n
  | duplicateField n => "duplicate field " ++ ticked n
  | custom m => m

end Problem

/-- A refusal: the problem and, once known, where it arose. -/
structure DecodeError where
  problem : Problem
  pos : Option Pos := none

namespace DecodeError

/-- The text of a refusal: the problem, then its place when known. -/
def message (e : DecodeError) : String :=
  match e.pos with
  | some p => e.problem.message ++ " at line " ++ toString p.line ++ " column " ++ toString p.column
  | none => e.problem.message

end DecodeError

/-- Where a reader stands in a text. -/
structure Cursor where
  /-- The bytes not yet read. -/
  rest : List UInt8
  line : Nat := 1
  column : Nat := 0
  /-- How many more arrays and objects may open before the reader refuses. -/
  depth : Nat := 128

namespace Cursor

/-- The cursor at the start of a text. -/
def start (text : String) : Cursor := { rest := text.toUTF8.toList }

/-- The position of the cursor. -/
def pos (c : Cursor) : Pos := ⟨c.line, c.column⟩

/-- The position one byte further, or the same at the end of the text. -/
def posAhead (c : Cursor) : Pos :=
  match c.rest with
  | [] => c.pos
  | b :: _ => if b = 10 then ⟨c.line + 1, 0⟩ else ⟨c.line, c.column + 1⟩

/-- The cursor past one byte. -/
def advance (c : Cursor) : Cursor :=
  match c.rest with
  | [] => c
  | b :: r =>
    if b = 10 then { c with rest := r, line := c.line + 1, column := 0 }
    else { c with rest := r, column := c.column + 1 }

/-- Whether a byte is JSON white space: space, tab, line feed or carriage return. -/
def isBlank (b : UInt8) : Bool := b = 32 || b = 9 || b = 10 || b = 13

/-- The cursor past the white space in front of it. -/
def skipBlanks (c : Cursor) : Cursor :=
  match h : c.rest with
  | [] => c
  | b :: r =>
    if isBlank b then
      have : r.length < c.rest.length := by simp [h]
      skipBlanks (c.advance)
    else c
termination_by c.rest.length
decreasing_by simp [advance, h]; split <;> simp

end Cursor

/-- A reader: a step over the text that yields a value or a refusal, and keeps the cursor where it
stopped in either case. -/
abbrev Reader := EStateM DecodeError Cursor

/-- The next byte, not read. -/
def peek : Reader (Option UInt8) := fun c => .ok c.rest.head? c

/-- Read one byte. -/
def bump : Reader Unit := fun c => .ok () c.advance

/-- Read the next byte. -/
def next : Reader (Option UInt8) := do
  let b ← peek
  bump
  pure b

/-- Skip white space and look at the byte after it. -/
def peekPastBlanks : Reader (Option UInt8) := fun c =>
  let c := c.skipBlanks
  .ok c.rest.head? c

/-- One more than the bytes the cursor has left: a bound on any loop that reads a byte per turn. -/
def bytesLeft : Reader Nat := fun c => .ok (c.rest.length + 1) c

/-- Refuse at the position of the cursor. -/
def fail (p : Problem) : Reader α := fun c => .error { problem := p, pos := some c.pos } c

/-- Refuse at the position one byte ahead. -/
def failAhead (p : Problem) : Reader α := fun c => .error { problem := p, pos := some c.posAhead } c

/-- Refuse without a position; the caller places it. -/
def refuse (p : Problem) : Reader α := fun c => .error { problem := p } c

/-- Give a refusal without a position the position of the cursor once `r` has stopped. -/
def placed (r : Reader α) : Reader α := fun c =>
  match r c with
  | .ok a c' => .ok a c'
  | .error e c' => .error { e with pos := e.pos.getD c'.pos } c'

/-- Run `body`, then `close` whatever `body` gave: the first refusal of the two wins, and the
cursor is where `close` left it. -/
def thenClose (body : Reader α) (close : Reader Unit) : Reader α := fun c =>
  match body c with
  | .ok a c' =>
    match close c' with
    | .ok _ c'' => .ok a c''
    | .error e c'' => .error e c''
  | .error e c' =>
    match close c' with
    | .ok _ c'' => .error e c''
    | .error _ c'' => .error e c''

/-- Enter an array or object: one level deeper, refused past the limit, the opening byte read. -/
def nested (body : Reader α) : Reader α := fun c =>
  if c.depth ≤ 1 then .error { problem := .recursionLimit, pos := some c.posAhead } c
  else
    match body { c.advance with depth := c.depth - 1 } with
    | .ok a c' => .ok a { c' with depth := c.depth }
    | .error e c' => .error e { c' with depth := c.depth }

/-- Read the rest of a keyword whose first byte was read. -/
def keyword : List UInt8 → Reader Unit
  | [] => pure ()
  | b :: bs => do
    match ← next with
    | none => fail .eofInValue
    | some x => if x = b then keyword bs else fail .expectedIdent

/-- The rest of `null`, `true` and `false`. -/
def ull : List UInt8 := [117, 108, 108]
def rue : List UInt8 := [114, 117, 101]
def alse : List UInt8 := [97, 108, 115, 101]

end WaitGate.Json
