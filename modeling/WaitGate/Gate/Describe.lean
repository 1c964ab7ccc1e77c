import WaitGate.Gate.Basic
import WaitGate.Text.Quoted
/-!
# The text of a gate in diagnostics

A gate is described as a record of its label, value, enabled flag and waiter count, inside the
record of the gate type that wraps it, if any: `CounterGate { gate: GatedValue { label: "gate",
value: 0, enabled: true, waiting: 0 } }`. A description made while the lock is held elsewhere
cannot read the state, and shows `state: <locked>` in its place.

The pretty form puts each field on a line of its own, indented by four spaces per level, each
followed by a comma.
-/

namespace WaitGate

/-- A described thing: a bare text, or a record of named fields. -/
inductive Described where
  | atom (text : String)
  | record (name : String) (fields : List (String × Described))

namespace Described

mutual

/-- The one-line form. -/
def flat : Described → String
  | atom t => t
  | record name [] => name
  | record name fields => name ++ " \x7b " ++ flatFields fields ++ " \x7d"

/-- The fields of a record in one line, separated by commas. -/
def flatFields : List (String × Described) → String
  | [] => ""
  | [(k, v)] => k ++ ": " ++ flat v
  | (k, v) :: rest => k ++ ": " ++ flat v ++ ", " ++ flatFields rest

end

/-- Four spaces per level. -/
def indent (depth : Nat) : String := String.ofList (List.replicate (4 * depth) ' ')

mutual

/-- The pretty form at a nesting depth: fields on lines of their own. -/
def pretty (depth : Nat) : Described → String
  | atom t => t
  | record name [] => name
  | record name fields => name ++ " \x7b\n" ++ prettyFields (depth + 1) fields ++ indent depth ++ "\x7d"

/-- The fields of a record, one per line with a trailing comma. -/
def prettyFields (depth : Nat) : List (String × Described) → String
  | [] => ""
  | (k, v) :: rest => indent depth ++ k ++ ": " ++ pretty depth v ++ ",\n" ++ prettyFields depth rest

end

/-- The text of a description in the chosen form. -/
def render (d : Described) (isPretty : Bool) : String := if isPretty then pretty 0 d else flat d

end Described

/-- How a gate's values look in diagnostics, and the type wrapping such gates, if any. -/
structure Appearance (α : Type) where
  showValue : α → String
  wrapper : Option String

/-- The description of a gate with a label; `none` for the state when the lock is held
elsewhere. -/
def describeGate {α : Type} (look : Appearance α) (label : String) (state : Option (Gate α)) :
    Described :=
  let fields := match state with
    | some g =>
      [("label", .atom (Text.quote label)), ("value", .atom (look.showValue g.value)),
        ("enabled", .atom (toString g.enabled)), ("waiting", .atom (toString g.waiting))]
    | none => [("label", .atom (Text.quote label)), ("state", .atom "<locked>")]
  let inner := Described.record "GatedValue" fields
  match look.wrapper with
  | some w => .record w [("gate", inner)]
  | none => inner

end WaitGate
