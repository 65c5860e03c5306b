import RequestPipeline.Request.Action
import RequestPipeline.Settings.Basic

/-!
# Settings from data

A section is given as an object of its fields, or as an array of the first of them in order; fields
that are left out have their defaults. A name that no field has, a name given twice and a value of
the wrong kind are refused.
-/

namespace RequestPipeline

/-- What two ways to write data down do differently. -/
structure Dialect where
  /-- An array may hold more items than there are fields. -/
  surplus : Bool
  /-- What may stand beside the name of an alternative that holds nothing. -/
  nothing : Json → Bool

namespace Dialect

/-- Data as JSON. -/
def json : Dialect where
  surplus := false
  nothing := fun j => match j with
    | .null => true
    | _ => false

/-- Data as tables. -/
def tables : Dialect where
  surplus := true
  nothing := fun j => match j with
    | .arr [] => true
    | .obj [] => true
    | _ => false

end Dialect

namespace Json

/-- A truth value. -/
def bool? : Json → Option Bool
  | .bool b => some b
  | _ => none

/-- A text. -/
def str? : Json → Option String
  | .str s => some s
  | _ => none

/-- A natural number of 64 bits. -/
def word64? : Json → Option UInt64
  | .num (.int n) => if 0 ≤ n ∧ n.toNat < Number.limit then some (UInt64.ofNat n.toNat) else none
  | _ => none

/-- An array of texts. -/
def strings? : Json → Option (List String)
  | .arr items => items.mapM str?
  | _ => none

end Json

/-- A field of a section: its name, and how a value changes the section. -/
structure FieldReader (α : Type) where
  name : String
  read : Json → α → Option α

namespace FieldReader

/-- The field that a value of some kind goes to. -/
def of {α β : Type} (name : String) (value? : Json → Option β) (set : β → α → α) : FieldReader α :=
  ⟨name, fun j a => (value? j).map fun b => set b a⟩

/-- Reads members of an object by the names of fields; `seen` are the names read before. -/
def members {α : Type} (fields : List (FieldReader α)) :
    List String → List (String × Json) → α → Option α
  | _, [], a => some a
  | seen, (name, value) :: rest, a =>
    if seen.contains name then none
    else
      match fields.find? fun f => f.name == name with
      | none => none
      | some f => (f.read value a).bind (members fields (name :: seen) rest)

/-- Reads items of an array by the order of fields. -/
def items {α : Type} (surplus : Bool) : List (FieldReader α) → List Json → α → Option α
  | _, [], a => some a
  | [], _ :: _, a => if surplus then some a else none
  | f :: fs, value :: rest, a => (f.read value a).bind (items surplus fs rest)

/-- Reads a section whose fields have defaults. -/
def decode {α : Type} (d : Dialect) (fields : List (FieldReader α)) (default : α) :
    Json → Option α
  | .obj ms => members fields [] ms default
  | .arr xs => items d.surplus fields xs default
  | _ => none

end FieldReader

/-- Reads one of several names; an object with the name and nothing beside it is the name too. -/
def Dialect.name? (d : Dialect) : Json → Option String
  | .str s => some s
  | .obj [(s, payload)] => if d.nothing payload then some s else none
  | _ => none

/-- Reads a format. -/
def LogFormat.decode (d : Dialect) (j : Json) : Option LogFormat := (d.name? j).bind ofWord?

/-- The fields of the section, in order. -/
def PipelineSettings.fields : List (FieldReader PipelineSettings) :=
  [.of "trace_filters" Json.bool? fun b s => { s with traceFilters := b },
    .of "record_metrics" Json.bool? fun b s => { s with recordMetrics := b },
    .of "required_policies" Json.strings? fun ps s => { s with requiredPolicies := ps },
    .of "plan_cache_capacity" Json.word64? fun n s => { s with planCapacity := n }]

/-- Reads a section. -/
def PipelineSettings.decode (d : Dialect) : Json → Option PipelineSettings :=
  FieldReader.decode d fields {}

/-- The fields of the section, in order. -/
def LoggingSettings.fields (d : Dialect) : List (FieldReader LoggingSettings) :=
  [.of "enabled" Json.bool? fun b s => { s with enabled := b },
    .of "level" Json.str? fun l s => { s with level := l },
    .of "format" (LogFormat.decode d) fun f s => { s with format := f },
    .of "ansi" Json.bool? fun b s => { s with ansi := b }]

/-- Reads a section. -/
def LoggingSettings.decode (d : Dialect) : Json → Option LoggingSettings :=
  FieldReader.decode d (fields d) {}

/-- The fields of the section, in order. -/
def MetricsSettings.fields : List (FieldReader MetricsSettings) :=
  [.of "enabled" Json.bool? fun b s => { s with enabled := b },
    .of "service_name" Json.str? fun n s => { s with serviceName := n }]

/-- Reads a section. -/
def MetricsSettings.decode (d : Dialect) : Json → Option MetricsSettings :=
  FieldReader.decode d fields {}

/-- The sections, in order. -/
def Settings.fields (d : Dialect) : List (FieldReader Settings) :=
  [.of "pipeline" (PipelineSettings.decode d) fun p s => { s with pipeline := p },
    .of "logging" (LoggingSettings.decode d) fun l s => { s with logging := l },
    .of "metrics" (MetricsSettings.decode d) fun m s => { s with metrics := m }]

/-- Reads settings. -/
def Settings.decode (d : Dialect) : Json → Option Settings :=
  FieldReader.decode d (fields d) {}

/-- Reads a kind of output. -/
def ReturnKind.decode (d : Dialect) (j : Json) : Option ReturnKind := (d.name? j).bind ofWord?

/-- An action as data. -/
def Action.toJson (a : Action) : Json :=
  .obj [("action", .str a.name), ("controller", .str a.controller),
    ("return_kind", .str a.returns.word)]

/-- The members of an action, in order. -/
def Action.members (a : Action) : List (String × Json) :=
  [("controller", .str a.controller), ("action", .str a.name), ("return_kind", .str a.returns.word)]

/-- The value of a name that one member has. -/
def Json.once? (name : String) (ms : List (String × Json)) : Option Json :=
  match ms.filter fun m => m.1 == name with
  | [m] => some m.2
  | _ => none

/-- Reads an action: every field has to be there once, and what else an object holds is passed over.
-/
def Action.decode (d : Dialect) : Json → Option Action
  | .obj ms => do
    let controller ← (Json.once? "controller" ms).bind Json.str?
    let name ← (Json.once? "action" ms).bind Json.str?
    let returns ← (Json.once? "return_kind" ms).bind (ReturnKind.decode d)
    return { controller, name, returns }
  | .arr [controller, name, returns] => do
    let controller ← controller.str?
    let name ← name.str?
    let returns ← ReturnKind.decode d returns
    return { controller, name, returns }
  | _ => none

end RequestPipeline
