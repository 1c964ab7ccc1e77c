import WaitGate.Config
import WaitGate.Json.Decode
/-!
# Configurations from JSON text

A configuration is written as an object with the fields `label` (a string) and
`drain_check_interval` (a span), other fields being ignored, or as an array of the two in that
order. A span is an object with the fields `secs` (64 bits) and `nanos` (32 bits) and no others,
or an array of the two. Nanoseconds of a second or more carry into the seconds; a carry past 64
bits is refused.
-/

namespace WaitGate

open Json

/-- How a refusal names a span. -/
def Span.expected : String := "struct Duration"

/-- The names of a span's fields. -/
def Span.fieldNames : List String := ["secs", "nanos"]

/-- The span of seconds and nanoseconds, refused when the carry overflows. -/
def Span.ofFields (secs nanos : Nat) : Reader Span :=
  match Span.carry? secs nanos with
  | some d => pure d
  | none => refuse (.custom "overflow deserializing Duration")

/-- The fields of a span in an object. -/
def spanEntries : Nat → Bool → Option Nat → Option Nat → Reader Span
  | 0, _, _, _ => failAhead .eofInObject
  | fuel + 1, first, secs, nanos => do
    if ← hasNextKey first then
      let key ← readKey
      if key = "secs" then
        if secs.isSome then refuse (.duplicateField "secs")
        else
          objectColon
          spanEntries fuel false (some (← readNat64)) nanos
      else if key = "nanos" then
        if nanos.isSome then refuse (.duplicateField "nanos")
        else
          objectColon
          spanEntries fuel false secs (some (← readNat32))
      else refuse (.unknownField key Span.fieldNames)
    else
      match secs, nanos with
      | none, _ => refuse (.missingField "secs")
      | _, none => refuse (.missingField "nanos")
      | some s, some n => Span.ofFields s n

/-- Read a span. -/
def readSpan : Reader Span :=
  readStruct Span.expected
    (do
      if !(← hasNextElement true) then refuse (.invalidLength 0 Span.expected)
      else
        let secs ← readNat64
        if !(← hasNextElement false) then refuse (.invalidLength 1 Span.expected)
        else Span.ofFields secs (← readNat32))
    (do spanEntries (← bytesLeft) true none none)

/-- How a refusal names a configuration. -/
def Config.expected : String := "struct GateConfig"

/-- Read a label. -/
def readLabel : Reader String := readStr "a string" .ok

/-- The fields of a configuration in an object. -/
def configEntries : Nat → Bool → Option String → Option Span → Reader Config
  | 0, _, _, _ => failAhead .eofInObject
  | fuel + 1, first, label, interval => do
    if ← hasNextKey first then
      let key ← readKey
      if key = "label" then
        if label.isSome then refuse (.duplicateField "label")
        else
          objectColon
          configEntries fuel false (some (← readLabel)) interval
      else if key = "drain_check_interval" then
        if interval.isSome then refuse (.duplicateField "drain_check_interval")
        else
          objectColon
          configEntries fuel false label (some (← readSpan))
      else
        objectColon
        skipValue (← bytesLeft)
        configEntries fuel false label interval
    else
      match label, interval with
      | none, _ => refuse (.missingField "label")
      | _, none => refuse (.missingField "drain_check_interval")
      | some l, some d => pure ⟨l, d⟩

/-- Read a configuration. -/
def readConfig : Reader Config :=
  readStruct Config.expected
    (do
      let arity := Config.expected ++ " with 2 elements"
      if !(← hasNextElement true) then refuse (.invalidLength 0 arity)
      else
        let label ← readLabel
        if !(← hasNextElement false) then refuse (.invalidLength 1 arity)
        else pure ⟨label, ← readSpan⟩)
    (do configEntries (← bytesLeft) true none none)

/-- The configuration written in a JSON text. -/
def Config.decode (text : String) : Except DecodeError Config := decodeText readConfig text

end WaitGate
