import WaitGate.Outcome
import WaitGate.Json.Decode
/-!
# Outcomes and wait errors from JSON text

An outcome is written as its name (`"timeout"`), or as an object with the name as its only key
and `null` as its value. A wait error is written as an object whose field `error_type` names it,
other fields being ignored, or as an array holding only its name.
-/

namespace WaitGate

open Json

/-- The outcome of a name. -/
def Outcome.ofName : String → Except Problem Outcome
  | "condition_met" => .ok .conditionMet
  | "timeout" => .ok .timeout
  | "disabled" => .ok .disabled
  | other => .error (.unknownVariant other ["condition_met", "timeout", "disabled"])

/-- The outcome written in a JSON text. -/
def Outcome.decode (text : String) : Except DecodeError Outcome :=
  decodeText (readChoice Outcome.ofName) text

/-- The wait error of a name. -/
def WaitError.ofName : String → Except Problem WaitError
  | "timeout" => .ok .timeout
  | "disabled" => .ok .disabled
  | other => .error (.unknownVariant other ["timeout", "disabled"])

/-- The field that names the case of a wait error. -/
def WaitError.tagField : String := "error_type"

/-- What a reader expects where a wait error should be. -/
def WaitError.expected : String := "internally tagged enum WaitError"

/-- The elements after the tag in an array, counted as they are checked. -/
def countElements : Nat → Nat → Reader Nat
  | 0, n => pure n
  | fuel + 1, n => do
    if ← hasNextElement false then
      readAny (← bytesLeft)
      countElements fuel (n + 1)
    else pure n

/-- The entries of an object holding a tag: the tag read by `ofName`, every other value checked. -/
def taggedEntries (tagName : String) (ofName : String → Except Problem α) :
    Nat → Bool → Option α → Reader α
  | 0, _, _ => failAhead .eofInObject
  | fuel + 1, first, tag => do
    if ← hasNextKey first then
      let key ← readKey
      if key = tagName then
        if tag.isSome then refuse (.duplicateField tagName)
        else
          objectColon
          let a ← readStr "variant identifier" ofName
          taggedEntries tagName ofName fuel false (some a)
      else
        objectColon
        readAny (← bytesLeft)
        taggedEntries tagName ofName fuel false tag
    else
      match tag with
      | some a => pure a
      | none => refuse (.missingField tagName)

/-- A case named by a tag: an object with the tag field, or an array that starts with the tag.
Gives the case and how many array elements followed the tag. -/
def readTagged (expected tagName : String) (ofName : String → Except Problem α) :
    Reader (α × Nat) :=
  placed do
    match ← peekPastBlanks with
    | none => failAhead .eofInValue
    | some 91 =>
      thenClose (nested do
        if ← hasNextElement true then
          let a ← readStr "variant identifier" ofName
          let n ← countElements (← bytesLeft) 0
          pure (a, n)
        else refuse (.missingField tagName)) endArray
    | some 123 =>
      thenClose (nested do
        let a ← taggedEntries tagName ofName (← bytesLeft) true none
        pure (a, 0)) endObject
    | some _ => invalidTypeHere expected

/-- The wait error written in a JSON text. A case carries no data, so an array may hold nothing
after the name. -/
def WaitError.decode (text : String) : Except DecodeError WaitError :=
  match readTagged WaitError.expected WaitError.tagField WaitError.ofName (Cursor.start text) with
  | .error e _ => .error e
  | .ok (a, extra) c =>
    if extra > 0 then .error { problem := .invalidLength extra "0 elements in sequence" }
    else
      match peekPastBlanks c with
      | .ok (some _) c' => .error { problem := .trailingCharacters, pos := some c'.posAhead }
      | _ => .ok a

end WaitGate
