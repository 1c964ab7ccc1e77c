import WaitGate.Json.StringLiteral
import WaitGate.Json.NumberLiteral
import WaitGate.Decimal.Shortest
/-!
# Decoding typed values from JSON text

A decoder reads one value of a known shape: a string, a number of a given width, `null`, a
structure with named fields (an object, or an array of the fields in order), a choice among named
cases, or any value at all, which is checked and dropped.

When the text holds a value of another kind, the decoder reads that value through and refuses
with an *invalid type* naming what it found and what it expected, placed right after the value;
an array or object found there is not read, and the refusal stands at its opening bracket.

Inside arrays and objects the rules of separators are checked one element at a time: a missing
comma, a trailing comma, a key that is not a string, a missing colon. After the elements of a
structure the closing bracket is looked for even when an element was refused, and that look may
read the bracket; a refusal without a position takes the place where that look stopped.
-/

namespace WaitGate.Json

/-- How a number is named in a refusal. -/
def Number.found : Number → Found
  | .unsigned n => .unsigned n
  | .signed i => .signed i
  | .float x => .float (Decimal.Notation.shortest.render x)

/-- Refuse, placed where the cursor stands, with an invalid type: read the value in front of the
cursor to name it. The cursor is past white space. -/
def invalidTypeHere (expected : String) : Reader α := do
  match ← peek with
  | some 110 => bump; keyword ull; fail (.invalidType .null expected)
  | some 116 => bump; keyword rue; fail (.invalidType (.bool true) expected)
  | some 102 => bump; keyword alse; fail (.invalidType (.bool false) expected)
  | some 45 => bump; let n ← readNumber false; fail (.invalidType n.found expected)
  | some 34 => bump; let s ← readString; fail (.invalidType (.string s) expected)
  | some 91 => fail (.invalidType .sequence expected)
  | some 123 => fail (.invalidType .map expected)
  | some b =>
    if isDigit b then do let n ← readNumber true; fail (.invalidType n.found expected)
    else failAhead .expectedValue
  | none => failAhead .expectedValue

/-- Lift a decision on a read value: refuse without a position when it refuses. -/
def accepting (r : Except Problem α) : Reader α :=
  match r with
  | .ok a => pure a
  | .error p => refuse p

/-- Read a string and turn it into the target by `accept`; `expected` names the target. -/
def readStr (expected : String) (accept : String → Except Problem α) : Reader α :=
  placed do
    match ← peekPastBlanks with
    | none => failAhead .eofInValue
    | some 34 => bump; accepting (accept (← readString))
    | some _ => invalidTypeHere expected

/-- Read a number and turn it into the target by `accept`; `expected` names the target. -/
def readNumberAs (expected : String) (accept : Number → Except Problem α) : Reader α :=
  placed do
    match ← peekPastBlanks with
    | none => failAhead .eofInValue
    | some 45 => bump; accepting (accept (← readNumber false))
    | some b =>
      if isDigit b then do accepting (accept (← readNumber true))
      else invalidTypeHere expected

/-- A natural number below `2 ^ bits`, named `name` in refusals. -/
def unsignedOf (name : String) (bits : Nat) : Number → Except Problem Nat
  | .unsigned n => if n < Nat.pow 2 bits then .ok n else .error (.invalidValue (.unsigned n) name)
  | .signed i => if 0 ≤ i ∧ i.toNat < Nat.pow 2 bits then .ok i.toNat else .error (.invalidValue (.signed i) name)
  | n@(.float _) => .error (.invalidType n.found name)

/-- Read a 64-bit natural number. -/
def readNat64 : Reader Nat := readNumberAs "u64" (unsignedOf "u64" 64)

/-- Read a 32-bit natural number. -/
def readNat32 : Reader Nat := readNumberAs "u32" (unsignedOf "u32" 32)

/-- Read `null`. -/
def readNull : Reader Unit :=
  placed do
    match ← peekPastBlanks with
    | none => failAhead .eofInValue
    | some 110 => bump; keyword ull
    | some _ => invalidTypeHere "unit"

/-! ## Arrays and objects, one element at a time -/

/-- Whether an array has another element; `first` before its first. A later element needs a
comma in front, and a comma needs an element after it. -/
def hasNextElement (first : Bool) : Reader Bool := do
  match ← peekPastBlanks with
  | none => failAhead .eofInList
  | some 93 => pure false
  | some b =>
    if first then pure true
    else if b = 44 then
      bump
      match ← peekPastBlanks with
      | some 93 => failAhead .trailingComma
      | some _ => pure true
      | none => failAhead .eofInValue
    else failAhead .expectedListCommaOrEnd

/-- Whether an object has another entry; `first` before its first. The cursor is then at the
quote of the key. -/
def hasNextKey (first : Bool) : Reader Bool := do
  match ← peekPastBlanks with
  | none => failAhead .eofInObject
  | some 125 => pure false
  | some b =>
    if first then (if b = 34 then pure true else failAhead .keyMustBeString)
    else if b = 44 then
      bump
      match ← peekPastBlanks with
      | some 34 => pure true
      | some 125 => failAhead .trailingComma
      | some _ => failAhead .keyMustBeString
      | none => failAhead .eofInValue
    else failAhead .expectedObjectCommaOrEnd

/-- Read a key, the cursor at its quote. -/
def readKey : Reader String := do bump; readString

/-- Read the colon after a key. -/
def objectColon : Reader Unit := do
  match ← peekPastBlanks with
  | some 58 => bump
  | some _ => failAhead .expectedColon
  | none => failAhead .eofInObject

/-- Read the end of an array whose elements are done. -/
def endArray : Reader Unit := do
  match ← peekPastBlanks with
  | some 93 => bump
  | some 44 =>
    bump
    match ← peekPastBlanks with
    | some 93 => failAhead .trailingComma
    | _ => failAhead .trailingCharacters
  | some _ => failAhead .trailingCharacters
  | none => failAhead .eofInList

/-- Read the end of an object whose entries are done. -/
def endObject : Reader Unit := do
  match ← peekPastBlanks with
  | some 125 => bump
  | some 44 => failAhead .trailingComma
  | some _ => failAhead .trailingCharacters
  | none => failAhead .eofInObject

/-- Read a structure from an array of its fields (`ofArray`) or an object (`ofObject`); each is
run past the opening bracket, and the closing bracket is read after it. -/
def readStruct (expected : String) (ofArray ofObject : Reader α) : Reader α :=
  placed do
    match ← peekPastBlanks with
    | none => failAhead .eofInValue
    | some 91 => thenClose (nested ofArray) endArray
    | some 123 => thenClose (nested ofObject) endObject
    | some _ => invalidTypeHere expected

/-- Read a choice among named cases without data: a string naming the case, or an object with the
name as its only key and `null` as its value. `ofName` decides the name. -/
def readChoice (ofName : String → Except Problem α) : Reader α := do
  match ← peekPastBlanks with
  | some 123 =>
    let a ← nested do
      let a ← readStr "variant identifier" ofName
      objectColon
      readNull
      pure a
    match ← peekPastBlanks with
    | some 125 => bump; pure a
    | some _ => fail .expectedValue
    | none => fail .eofInObject
  | some 34 => readStr "variant identifier" ofName
  | some _ => failAhead .expectedValue
  | none => failAhead .eofInValue

/-! ## Values that are only checked -/

mutual

/-- Check any value and keep nothing, with the depth limit of a decoder that keeps it; at most
`fuel` levels and elements. -/
def readAny : Nat → Reader Unit
  | 0 => failAhead .eofInValue
  | fuel + 1 => do
    match ← peekPastBlanks with
    | none => failAhead .eofInValue
    | some 110 => bump; keyword ull
    | some 116 => bump; keyword rue
    | some 102 => bump; keyword alse
    | some 45 => bump; discard (readNumber false)
    | some 34 => bump; discard readString
    | some 91 => thenClose (nested (anyElements fuel true)) endArray
    | some 123 => thenClose (nested (anyEntries fuel true)) endObject
    | some b => if isDigit b then discard (readNumber true) else failAhead .expectedValue

/-- The elements of an array, each checked. -/
def anyElements : Nat → Bool → Reader Unit
  | 0, _ => failAhead .eofInList
  | fuel + 1, first => do
    if ← hasNextElement first then
      readAny fuel
      anyElements fuel false

/-- The entries of an object, each checked. -/
def anyEntries : Nat → Bool → Reader Unit
  | 0, _ => failAhead .eofInObject
  | fuel + 1, first => do
    if ← hasNextKey first then
      discard readKey
      objectColon
      readAny fuel
      anyEntries fuel false

end

mutual

/-- Skip any value, with no depth limit and looser separator rules: at most `fuel` levels and
elements. -/
def skipValue : Nat → Reader Unit
  | 0 => failAhead .eofInValue
  | fuel + 1 => do
    match ← peekPastBlanks with
    | none => failAhead .eofInValue
    | some 110 => bump; keyword ull
    | some 116 => bump; keyword rue
    | some 102 => bump; keyword alse
    | some 45 => bump; skipNumber
    | some 34 => bump; skipString
    | some 91 => bump; skipElements fuel true
    | some 123 => bump; skipEntries fuel true
    | some b => if isDigit b then skipNumber else failAhead .expectedValue

/-- The rest of an array being skipped. -/
def skipElements : Nat → Bool → Reader Unit
  | 0, _ => failAhead .eofInList
  | fuel + 1, first => do
    match ← peekPastBlanks with
    | none => failAhead .eofInList
    | some 93 => bump
    | some b =>
      if first then
        skipValue fuel
        skipElements fuel false
      else if b = 44 then
        bump
        skipValue fuel
        skipElements fuel false
      else failAhead .expectedListCommaOrEnd

/-- The rest of an object being skipped. -/
def skipEntries : Nat → Bool → Reader Unit
  | 0, _ => failAhead .eofInObject
  | fuel + 1, first => do
    match ← peekPastBlanks with
    | none => failAhead .eofInObject
    | some 125 => bump
    | some b =>
      if first then skipEntry fuel
      else if b = 44 then do bump; skipEntry fuel
      else failAhead .expectedObjectCommaOrEnd
where
  skipEntry (fuel : Nat) : Reader Unit := do
    match ← peekPastBlanks with
    | some 34 => bump; skipString
    | some _ => failAhead .keyMustBeString
    | none => failAhead .eofInObject
    match ← peekPastBlanks with
    | some 58 => bump
    | some _ => failAhead .expectedColon
    | none => failAhead .eofInObject
    skipValue fuel
    skipEntries fuel false

end

/-- Decode a whole text: the value, then nothing but white space. -/
def decodeText (r : Reader α) (text : String) : Except DecodeError α :=
  let whole : Reader α := do
    let a ← r
    match ← peekPastBlanks with
    | some _ => failAhead .trailingCharacters
    | none => pure a
  match whole (Cursor.start text) with
  | .ok a _ => .ok a
  | .error e _ => .error e

/-- Check that a text is one JSON value, read as a decoder that keeps any value reads it: strings
hold no lone surrogate, numbers are in range, and nesting stays within the depth limit. -/
def check (text : String) : Except DecodeError Unit :=
  decodeText (do readAny (← bytesLeft)) text

end WaitGate.Json
