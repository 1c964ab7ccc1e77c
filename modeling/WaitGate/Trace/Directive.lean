import WaitGate.Level
import WaitGate.Text.Blank
import WaitGate.Text.Numeric
import WaitGate.Trace.Pattern
/-!
# Filter directives

A console filter is a list of directives separated by commas; the filter splits its text at every
comma first, so a directive holds none. A directive names, each optionally and in this order, a
target, a span part in brackets, and a level after `=`: `sync_gate=debug`, `[request]`,
`[{message}]=warn`, `app[span{field=value}]`. A span part holds a span name, then optionally
fields in braces: names, each perhaps with a required value. A directive that is a level word
alone (`info`, `WARN`, `3`) names no target and applies to every one; any other word alone is a
target, which then lets every level through, and so is the word before `=` or `[`, level word or
not. A missing level, or an empty one after `=`, lets every level through.

The reader walks the directive's characters after removing the blanks at both ends, and keeps
the byte offset of each within that shortened text; the pieces it keeps, though, are cut at those
offsets from the text *as given*. Blanks at the ends of a directive therefore stay in its pieces
(` info` names the target ` info`), and shift them when they lead: a cut that falls inside a
character, as after a leading blank of several bytes, stops the process.

A directive starts with a letter or number of any script, `-`, `:`, `_` or `[`; after a span part
only `=` may follow, and after the fields only `]`. Anything else, an empty field entry, a level
word that is not one, or a required value that can be neither a boolean, a number nor a pattern,
makes the directive malformed.
-/

namespace WaitGate.Trace

/-- The level filter that a word names: a number from 0 (off) to 5 (trace), written in ASCII
digits after an optional `+`, or a level name in any case; the empty word names errors only. -/
def levelFilterOf? (s : String) : Option LevelFilter :=
  let cs := s.toList
  let digits := match cs with
    | '+' :: rest => rest
    | _ => cs
  let byNumber : Option LevelFilter :=
    if !digits.isEmpty && digits.all Char.isDigit then
      match digits.foldl (fun n c => 10 * n + (c.toNat - '0'.toNat)) 0 with
      | 0 => some .off
      | 1 => some (.upTo .error)
      | 2 => some (.upTo .warn)
      | 3 => some (.upTo .info)
      | 4 => some (.upTo .debug)
      | 5 => some (.upTo .trace)
      | _ => none
    else none
  byNumber.orElse fun _ =>
    match String.ofList (cs.map Char.toLower) with
    | "" => some (.upTo .error)
    | "error" => some (.upTo .error)
    | "warn" => some (.upTo .warn)
    | "info" => some (.upTo .info)
    | "debug" => some (.upTo .debug)
    | "trace" => some (.upTo .trace)
    | "off" => some .off
    | _ => none

/-- A field that a directive names, and the value it requires, if any. -/
structure FieldMatch where
  name : String
  value : Option String
  deriving DecidableEq, Repr

/-- A directive as written. -/
structure Directive where
  target : Option String := none
  span : Option String := none
  fields : List FieldMatch := []
  level : LevelFilter := .upTo .trace

/-- Why a directive was not read. -/
inductive Fault where
  /-- The text does not follow the grammar; the filter then falls back to `info`. -/
  | malformed
  /-- A piece was to be cut inside a character; reading stops the process. -/
  | splitsCharacter
  deriving DecidableEq, Repr

/-- A field entry, `name` or `name=value`: a value ends at a further `=`, and must be one that a
field can be required to have. -/
def FieldMatch.read (entry : String) : Except Fault FieldMatch :=
  match entry.splitOn "=" with
  | name :: value :: _ =>
    if Pattern.acceptable value then .ok ⟨name, some value⟩ else .error .malformed
  | _ => .ok ⟨entry, none⟩

/-- The characters of a text, each with the byte offset at which it begins, counted from `base`. -/
def withOffsets (base : Nat) : List Char → List (Nat × Char)
  | [] => []
  | c :: cs => (base, c) :: withOffsets (base + c.utf8Size) cs

/-- The piece of a text from one byte offset up to another (up to its end for `none`); cutting
at an offset inside a character stops the process. -/
def cut (src : List Char) (lo : Nat) (hi : Option Nat) : Except Fault String :=
  let cells := withOffsets 0 src
  let total := src.foldl (fun n c => n + c.utf8Size) 0
  let stop := hi.getD total
  let between := fun (k : Nat) => k = total || cells.any (·.1 = k)
  if between lo && between stop then
    .ok (String.ofList ((cells.filter fun p => lo ≤ p.1 && p.1 < stop).map (·.2)))
  else .error .splitsCharacter

/-- Where the reader of a directive stands; an offset is where the current piece begins. -/
inductive Mode where
  | start
  | levelOrTarget (begin : Nat)
  | span (begin : Nat)
  | field (begin : Nat)
  | fields
  | target
  | level (begin : Nat)

/-- Whether a character may begin a directive that is not a span part. -/
def opensWord (c : Char) : Bool := c = '-' || c = ':' || c = '_' || Text.alphanumeric c

/-- Take one character, at byte offset `i` of the shortened text, into the directive so far; the
pieces are cut from the text as given, `src`. -/
def step (src : List Char) (d : Directive) (m : Mode) (i : Nat) (c : Char) :
    Except Fault (Directive × Mode) :=
  match m with
  | .start =>
    if c = '[' then .ok (d, .span (i + 1))
    else if opensWord c then .ok (d, .levelOrTarget i)
    else .error .malformed
  | .levelOrTarget b =>
    if c = '=' then (cut src b (some i)).map fun t => ({ d with target := some t }, .level (i + 1))
    else if c = '[' then (cut src b (some i)).map fun t => ({ d with target := some t }, .span (i + 1))
    else .ok (d, m)
  | .target => if c = '=' then .ok (d, .level (i + 1)) else .error .malformed
  | .span b =>
    if c = ']' then (cut src b (some i)).map fun s => ({ d with span := some s }, .target)
    else if c = '{' then
      (cut src b (some i)).map fun s => ({ d with span := if s.isEmpty then none else some s }, .field (i + 1))
    else .ok (d, m)
  | .field b =>
    if c = '}' then do
      let entry ← cut src b (some i)
      if entry.isEmpty then throw .malformed
      let f ← FieldMatch.read entry
      pure ({ d with fields := d.fields ++ [f] }, .fields)
    else .ok (d, m)
  | .fields => if c = ']' then .ok (d, .target) else .error .malformed
  | .level _ => .ok (d, m)

/-- Complete the directive when its characters are used up. -/
def finish (src : List Char) (d : Directive) : Mode → Except Fault Directive
  | .levelOrTarget b => do
    let word ← cut src b none
    if word.isEmpty then return { d with level := .upTo .trace, target := none }
    match levelFilterOf? word with
    | some l => return { d with level := l, target := none }
    | none => return { d with level := .upTo .trace, target := some word }
  | .level b => do
    let word ← cut src b none
    if word.isEmpty then return { d with level := .upTo .trace }
    match levelFilterOf? word with
    | some l => return { d with level := l }
    | none => throw .malformed
  | .target => .ok d
  | _ => .error .malformed

/-- Take the characters in order, then complete the directive. -/
def walk (src : List Char) : List (Nat × Char) → Directive → Mode → Except Fault Directive
  | [], d, m => finish src d m
  | (i, c) :: rest, d, m => do
    let (d, m) ← step src d m i c
    walk src rest d m

namespace Directive

/-- Read a directive (a text without commas). -/
def read (s : String) : Except Fault Directive :=
  walk s.toList (withOffsets 0 (Text.trimBlanks s.toList)) {} .start

/-- Whether a directive applies outside spans: it names no span and requires no field value. -/
def isStatic (d : Directive) : Bool := d.span.isNone && d.fields.all (·.value.isNone)

end Directive

end WaitGate.Trace
