import WaitGate.Trace.Directive
/-!
# Console filters

A filter is read from text: directives separated by commas, empty ones skipped (see
`WaitGate.Trace.Directive`). Empty text gives a filter that lets nothing through; a malformed
directive makes the whole text give way to `info`, and so does a missing text; a directive whose
reading stops the process stops it.

Lines of this library are never inside a span, so only the directives that name no span and
require no field value, the *rules*, can let them through. A filter is asked two kinds of
question: whether a line about to be written, with the names of its fields, may pass, and, before
any line is made, whether lines of a target and level may pass at all, a *hint* that carries no
fields. A rule applies to a question when the target starts with the rule's target (if it has
one) and, for a line, when the line has every field the rule names; a hint is not held to the
fields.

Of the rules that apply, the most specific decides: the longest target in bytes first (none is
shorter than any), then the most fields, then the greater target and field names; of two rules
equal in all of these, the later one replaces the earlier. A question no rule applies to is
answered no.
-/

namespace WaitGate.Trace

/-- Who asks a filter: a line about to be written, with the names of its fields, or a hint asked
before any line exists. -/
inductive Asker where
  | line (fieldNames : List String)
  | hint

/-- A question to a filter: where lines come from, their level, and who asks. -/
structure Callsite where
  target : String
  level : Level
  asker : Asker

/-- A directive that applies outside spans. -/
structure Rule where
  target : Option String
  fieldNames : List String
  level : LevelFilter

/-- The rule of a directive that applies outside spans. -/
def Directive.rule? (d : Directive) : Option Rule :=
  if d.isStatic then some ⟨d.target, d.fields.map (·.name), d.level⟩ else none

namespace Rule

/-- How specific a rule is, compared with another: the longer target in bytes, then the more
fields, then the greater target and field names. -/
def compareSpecific (a b : Rule) : Ordering :=
  (compare (a.target.map String.utf8ByteSize) (b.target.map String.utf8ByteSize)).then
    ((compare a.fieldNames.length b.fieldNames.length).then
      ((compare a.target b.target).then (compare a.fieldNames b.fieldNames)))

/-- Whether a rule applies to a question. -/
def appliesTo (r : Rule) (c : Callsite) : Bool :=
  (match r.target with
    | some t => t.toList.isPrefixOf c.target.toList
    | none => true) &&
  (match c.asker with
    | .line names => r.fieldNames.all (names.contains ·)
    | .hint => true)

end Rule

/-- Add a rule in its place among rules ordered most specific first; an equally specific one is
replaced. -/
def insertRule (r : Rule) : List Rule → List Rule
  | [] => [r]
  | e :: es =>
    match r.compareSpecific e with
    | .gt => r :: e :: es
    | .eq => r :: es
    | .lt => e :: insertRule r es

/-- A filter: its rules, most specific first. -/
structure Filter where
  rules : List Rule

namespace Filter

/-- The filter of directives in order; those that apply only inside spans are left out. -/
def ofDirectives (ds : List Directive) : Filter :=
  ⟨ds.foldl (fun acc d => match d.rule? with
    | some r => insertRule r acc
    | none => acc) []⟩

/-- Read a filter: comma-separated directives, empty ones skipped, read in order up to the first
that fails. -/
def parse (s : String) : Except Fault Filter :=
  ((s.splitOn ",").filter (· ≠ "")).mapM Directive.read |>.map ofDirectives

/-- The filter used when none is given or the given one is malformed: `info`. -/
def fallback : Filter := ofDirectives [{ level := .upTo .info }]

/-- The filter of an environment value, `none` when unset; the error is a reading that stopped
the process. -/
def ofEnv (v : Option String) : Except Fault Filter :=
  match v with
  | none => .ok fallback
  | some s =>
    match parse s with
    | .ok f => .ok f
    | .error .malformed => .ok fallback
    | .error .splitsCharacter => .error .splitsCharacter

/-- Whether a filter lets a question through. -/
def allows (f : Filter) (c : Callsite) : Bool :=
  match f.rules.find? (·.appliesTo c) with
  | some r => r.level.keeps c.level
  | none => false

end Filter

end WaitGate.Trace
