import WaitGate.Trace.Filter
/-!
# Console lines

The console subscriber writes one line per event it lets through, in one of two styles.

* Compact: the time, the level padded to five characters, the thread's name and number, the
  target and a colon, then the message and the other fields as `name=value`. With colour, the
  time is dimmed, the level coloured (error red, warn yellow, info green, debug blue, trace
  purple), the target dimmed, and field names in italics with a dimmed `=`.
* JSON: an object with the time, the level, the fields (the message first), the target, and the
  thread's name and number.

Events come only from the main thread. The time is not part of the model: lines carry the mark
`<timestamp>`, as they do once a time is normalised away.

What the console shows is its text cut into lines, with three normalisations: a line that reports
a drain still pending is dropped, the first date on a line becomes `<timestamp>`, and the duration
after `] drained in ` becomes `<elapsed>`. A date here is read loosely: four digits and a dash,
then everything up to the next `T`, then at least one character up to the next `Z`. The line that
begins an event starts with its time, so that time is the date marked and a date in its message
stays; a line that a line feed in a message begins has its own first date marked.
-/

namespace WaitGate.Trace

/-- The value of a field of an event. -/
inductive FieldValue where
  | text (s : String)
  | flag (b : Bool)

/-- An event for the console: target, level and fields, the message first. -/
structure Event where
  target : String
  level : Level
  fields : List (String × FieldValue)

/-- What a filter sees of an event. -/
def Event.callsite (e : Event) : Callsite := ⟨e.target, e.level, .line (e.fields.map (·.1))⟩

/-- How the console writes events. -/
inductive Style where
  | compact (colour : Bool)
  | json

/-- The mark that stands for a time. -/
def timeMark : String := "<timestamp>"

/-- The name of the thread that writes events. -/
def threadName : String := "main"

/-- The escape character that starts a colour code. -/
def esc : String := "\x1b"

/-- Text between a colour code and a reset. -/
def painted (code text : String) : String := esc ++ "[" ++ code ++ "m" ++ text ++ esc ++ "[0m"

/-- A level padded to five characters. -/
def padded : Level → String
  | .error => "ERROR"
  | .warn => " WARN"
  | .info => " INFO"
  | .debug => "DEBUG"
  | .trace => "TRACE"

/-- The colour code of a level. -/
def colour : Level → String
  | .error => "31"
  | .warn => "33"
  | .info => "32"
  | .debug => "34"
  | .trace => "35"

/-- Hexadecimal digits of a byte, lower case, two of them. -/
def hexByte (n : Nat) : String :=
  let d := fun (k : Nat) => if k < 10 then Char.ofNat (48 + k) else Char.ofNat (87 + k)
  String.ofList [d (n / 16), d (n % 16)]

/-- Hexadecimal digits of a number, lower case, without leading zeros. -/
def hexDigits (n : Nat) : String := String.ofList (Nat.toDigits 16 n)

/-- A text with the characters that could steer a terminal written as escapes: escape, bell,
backspace, form feed and delete as `\xNN`, the C1 controls as `\u{NN}`. Line feeds stay, so
a text with one spans two console lines. -/
def guard (s : String) : String :=
  String.join (s.toList.map fun c =>
    if c = '\x1b' || c = '\x07' || c = '\x08' || c = '\x0c' || c = '\x7f' then "\\x" ++ hexByte c.toNat
    else if 0x80 ≤ c.toNat && c.toNat ≤ 0x9f then "\\u\x7b" ++ hexDigits c.toNat ++ "\x7d"
    else c.toString)

/-- A field value as a compact line writes it. -/
def FieldValue.plain : FieldValue → String
  | .text s => guard s
  | .flag b => toString b

/-- The fields of a compact line: the message as it is, then `name=value` for the others. -/
def compactFields (colour : Bool) (fields : List (String × FieldValue)) : String :=
  " ".intercalate (fields.map fun (name, v) =>
    if name = "message" then v.plain
    else if colour then painted "3" name ++ painted "2" "=" ++ v.plain
    else name ++ "=" ++ v.plain)

/-- A text as a JSON string: quote and backslash escaped, control characters as `\b \f \n \r \t`
or `\u00xx`, everything else as it is. -/
def jsonString (s : String) : String :=
  let body := s.toList.flatMap fun c =>
    if c = '"' then ['\\', '"']
    else if c = '\\' then ['\\', '\\']
    else if c = '\n' then ['\\', 'n']
    else if c = '\r' then ['\\', 'r']
    else if c = '\t' then ['\\', 't']
    else if c = '\x08' then ['\\', 'b']
    else if c = '\x0c' then ['\\', 'f']
    else if c.toNat < 0x20 then ("\\u00" ++ hexByte c.toNat).toList
    else [c]
  "\"" ++ String.ofList body ++ "\""

/-- A field value in JSON. -/
def FieldValue.json : FieldValue → String
  | .text s => jsonString s
  | .flag b => toString b

/-- An object of named JSON texts, in order. -/
def jsonObject (entries : List (String × String)) : String :=
  "\x7b" ++ ",".intercalate (entries.map fun (k, v) => jsonString k ++ ":" ++ v) ++ "\x7d"

/-- The text an event is written as, without its line end. -/
def Style.render (st : Style) (e : Event) : String :=
  match st with
  | .compact true =>
    painted "2" timeMark ++ " " ++ painted (colour e.level) (padded e.level) ++ " " ++ threadName ++
      " ThreadId(01) " ++ painted "2" e.target ++ painted "2" ":" ++ " " ++ compactFields true e.fields
  | .compact false =>
    timeMark ++ " " ++ padded e.level ++ " " ++ threadName ++ " ThreadId(01) " ++ e.target ++ ": " ++
      compactFields false e.fields
  | .json =>
    jsonObject [("timestamp", jsonString timeMark), ("level", jsonString e.level.name),
      ("fields", jsonObject (e.fields.map fun (k, v) => (k, v.json))),
      ("target", jsonString e.target), ("threadName", jsonString threadName),
      ("threadId", jsonString "ThreadId(1)")]

/-- Cut a text into lines at line feeds; a carriage return before a line feed goes with it, and a
final line feed ends the last line. -/
def linesOf (text : String) : List String :=
  let pieces := text.splitOn "\n"
  let pieces := if pieces.getLast? = some "" then pieces.dropLast else pieces
  pieces.map fun p => if p.toList.getLast? = some '\r' then String.ofList p.toList.dropLast else p

/-- Whether `pat` occurs in `cs`, and the text after its first occurrence. -/
def afterFirst (pat : List Char) : List Char → Option (List Char × List Char)
  | [] => if pat.isEmpty then some ([], []) else none
  | c :: cs =>
    if pat.isPrefixOf (c :: cs) then some ([], (c :: cs).drop pat.length)
    else (afterFirst pat cs).map fun (before, after) => (c :: before, after)

/-- The mark that a duration after `] drained in ` becomes. -/
def elapsedMark : String := "<elapsed>"

/-- The length of a date at the start of a text, if one stands there: four ASCII digits and a
dash, then everything up to the next `T`, then at least one character up to the next `Z`. -/
def dateLength (cs : List Char) : Option Nat :=
  match cs with
  | a :: b :: c :: d :: '-' :: rest =>
    if [a, b, c, d].all Char.isDigit then
      let beforeT := rest.takeWhile (· ≠ 'T')
      match rest.dropWhile (· ≠ 'T') with
      | 'T' :: afterT =>
        let beforeZ := afterT.takeWhile (· ≠ 'Z')
        match afterT.dropWhile (· ≠ 'Z') with
        | 'Z' :: _ =>
          if beforeZ.isEmpty then none else some (5 + beforeT.length + 1 + beforeZ.length + 1)
        | _ => none
      | _ => none
    else none
  | _ => none

/-- A text with its first date replaced by the mark `<timestamp>`. -/
def markFirstDate : List Char → List Char
  | [] => []
  | c :: cs =>
    match dateLength (c :: cs) with
    | some n => timeMark.toList ++ (c :: cs).drop n
    | none => c :: markFirstDate cs

/-- A console line made independent of timing: `none` for a line that reports a drain still
pending; otherwise its first date marked, unless the line begins an event (its first date is then
the event's time, already a mark), and the duration after `] drained in ` replaced, up to the
next quote or escape. -/
def normalize (beginsEvent : Bool) (line : String) : Option String :=
  if (afterFirst "] drain still pending after ".toList line.toList).isSome then none
  else
    let cs := if beginsEvent then line.toList else markFirstDate line.toList
    let marker := "] drained in ".toList
    match afterFirst marker cs with
    | some (before, after) =>
      let rest := after.dropWhile fun c => c ≠ '"' && c ≠ '\x1b'
      some (String.ofList (before ++ marker) ++ elapsedMark ++ String.ofList rest)
    | none => some (String.ofList cs)

/-- What the console shows of events written in a style. -/
def Style.lines (st : Style) (events : List Event) : List String :=
  events.flatMap fun e =>
    match linesOf (st.render e ++ "\n") with
    | [] => []
    | first :: more => (normalize true first).toList ++ more.filterMap (normalize false)

end WaitGate.Trace
