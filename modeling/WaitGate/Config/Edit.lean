import WaitGate.Config.Decode
/-!
# Editing a configuration

A configuration is built by a sequence of edits from the default one: a constructor that replaces
it, a builder that changes one field, an environment string, or a JSON text. Only the JSON text
can be refused.
-/

namespace WaitGate

/-- One change to a configuration. -/
inductive Config.Edit where
  /-- Replace by the default configuration. -/
  | reset
  /-- Replace by the responsive configuration. -/
  | responsive
  /-- Replace by a configuration with this label. -/
  | named (label : String)
  /-- Change the label. -/
  | relabel (label : String)
  /-- Change the interval, raised to one millisecond. -/
  | interval (d : Span)
  /-- Store the interval as given. -/
  | storeInterval (d : Span)
  /-- Replace by the configuration of an environment string, `none` when unset. -/
  | fromEnv (value : Option String)
  /-- Replace by the configuration written in a JSON text. -/
  | decode (text : String)

namespace Config

/-- Apply one edit. -/
def edit (c : Config) : Edit → Except Json.DecodeError Config
  | .reset => .ok default
  | .responsive => .ok responsive
  | .named label => .ok (named label)
  | .relabel label => .ok (c.withLabel label)
  | .interval d => .ok (c.withInterval d)
  | .storeInterval d => .ok { c with interval := d }
  | .fromEnv value => .ok (ofEnv value)
  | .decode text => Config.decode text

/-- Apply edits in order, from the default configuration. -/
def build (edits : List Edit) : Except Json.DecodeError Config := edits.foldlM edit default

end Config

end WaitGate
