import RequestPipeline.Proofs.Json.Compact
import RequestPipeline.Proofs.Settings.Spellings

/-!
# Settings and actions as data and back

Settings, their sections and actions are kept as objects with a member for each field (`Form`). What
is written for a value is read as that value, as data and as a text, so what has been written down
anew once stays as it is (`Form.RoundTrips`). Settings and sections may leave out what has its
default, hold no names of their own, and may be arrays of their first fields (`Form.FollowsRules`).
Both together are `forms_round_trip`.
-/

set_option autoImplicit false

namespace RequestPipeline

/-! ## Forms -/

/-- How values of a type are kept as data. -/
structure Form (α : Type) where
  /-- The names of the fields, in order. -/
  names : List String
  /-- The members of a value, in the order of the fields. -/
  members : α → List (String × Json)
  /-- The data of a value. -/
  toJson : α → Json
  decode : Json → Option α

namespace Form

variable {α β : Type}

/-- The object of a value, its members in the order of the fields. -/
def object (f : Form α) (a : α) : Json := .obj (f.members a)

/-- The text of a value. -/
def text (f : Form α) (a : α) : String := (f.object a).compact

/-- Reads a text. -/
def parse? (f : Form α) (s : String) : Option α := (Json.parse? s).bind f.decode

/-- Writes data down anew. -/
def normalize? (f : Form α) (j : Json) : Option Json := (f.decode j).map f.toJson

/-- Writes a text down anew. -/
def rewrite? (f : Form α) (s : String) : Option String := (f.parse? s).map f.text

/-- What is written is read back. -/
structure RoundTrips (f : Form α) : Prop where
  /-- Each field has its member. -/
  names_members : ∀ a, (f.members a).map Prod.fst = f.names
  /-- The data are the object with its members sorted by name. -/
  canonical_object : ∀ a, (f.object a).canonical = f.toJson a
  decode_toJson : ∀ a, f.decode (f.toJson a) = some a
  decode_object : ∀ a, f.decode (f.object a) = some a
  parse?_compact : ∀ a, f.parse? (f.toJson a).compact = some a
  parse?_text : ∀ a, f.parse? (f.text a) = some a
  normalize?_idem : ∀ j k, f.normalize? j = some k → f.normalize? k = some k
  rewrite?_idem : ∀ s t, f.rewrite? s = some t → f.rewrite? t = some t

/-- How sections may be written down: in an object the members stand in any order, what is left out
has its default and a name that no field has is refused; an array has the first fields in order. -/
structure FollowsRules (f : Form α) (default : α) : Prop where
  empty : f.decode (.obj []) = some default
  order : ∀ ms ms', ms.Perm ms' → f.decode (.obj ms) = f.decode (.obj ms')
  missing : ∀ ms name j, (name, j) ∈ f.members default → name ∉ ms.map Prod.fst →
    f.decode (.obj ms) = f.decode (.obj ((name, j) :: ms))
  missing_shown : ∀ ms a, f.decode (.obj ms) = some a →
    ∀ m ∈ f.members a, m.1 ∉ ms.map Prod.fst → m ∈ f.members default
  unknown : ∀ ms name, name ∈ ms.map Prod.fst → name ∉ f.names → f.decode (.obj ms) = none
  front : ∀ xs, xs.length ≤ f.names.length → f.decode (.arr xs) = f.decode (.obj (f.names.zip xs))

/-- The member of a name is read in another form: it matters by what it is read as only, and if it
cannot be read, nothing can. -/
structure Nests (f : Form α) (name : String) (inner : Form β) : Prop where
  congr : ∀ ms ms' j k, inner.decode j = inner.decode k →
    f.decode (.obj (ms ++ (name, j) :: ms')) = f.decode (.obj (ms ++ (name, k) :: ms'))
  refused : ∀ ms j, (name, j) ∈ ms → inner.decode j = none → f.decode (.obj ms) = none

theorem RoundTrips.of_decode {f : Form α} (hnames : ∀ a, (f.members a).map Prod.fst = f.names)
    (hcanonical : ∀ a, (f.object a).canonical = f.toJson a)
    (hjson : ∀ a, f.decode (f.toJson a) = some a) (hobject : ∀ a, f.decode (f.object a) = some a)
    (hexact : ∀ a, (f.object a).Exact 127) : f.RoundTrips := by
  have hjsonExact : ∀ a, (f.toJson a).Exact 127 := fun a => hcanonical a ▸ (hexact a).canonical
  have htext : ∀ a, f.parse? (f.text a) = some a := by
    intro a
    rw [parse?, text, Json.parse?_compact (hexact a)]
    exact hobject a
  refine ⟨hnames, hcanonical, hjson, hobject, fun a => ?_, htext, fun j k hk => ?_,
    fun s t ht => ?_⟩
  · rw [parse?, Json.parse?_compact (hjsonExact a)]
    exact hjson a
  · obtain ⟨a, -, rfl⟩ := Option.map_eq_some_iff.mp hk
    rw [normalize?, hjson, Option.map_some]
  · obtain ⟨a, -, rfl⟩ := Option.map_eq_some_iff.mp ht
    rw [rewrite?, htext, Option.map_some]

/-- A form that is read field by field follows the rules, if its fields are separate, the members of
the default are read as nothing new, and a field changes its own member only. -/
theorem FollowsRules.of_fields {f : Form α} {d : Dialect} {fields : List (FieldReader α)}
    {default : α} (hnames : f.names = fields.map FieldReader.name)
    (hdecode : f.decode = FieldReader.decode d fields default)
    (hseparate : FieldReader.Separate fields)
    (hunchanged : ∀ a, ∀ m ∈ f.members a, FieldReader.readNamed fields m.1 m.2 a = some a)
    (hconfined : ∀ g ∈ fields, g.Confined f.members) :
    f.FollowsRules default := by
  have hobj : ∀ ms, f.decode (.obj ms) = FieldReader.members fields [] ms default := by
    intro ms
    rw [hdecode]
    rfl
  have harr : ∀ xs, f.decode (.arr xs) = FieldReader.items d.surplus fields xs default := by
    intro xs
    rw [hdecode]
    rfl
  constructor
  · rw [hobj]
    rfl
  · intro ms ms' hp
    rw [hobj, hobj]
    exact FieldReader.members_perm hseparate hp
  · intro ms name j hj hname
    have hread := hunchanged default (name, j) hj
    rw [hobj, hobj, FieldReader.members_cons_of_unchanged hname List.not_mem_nil hread]
  · intro ms a ha m hm habsent
    rw [hobj] at ha
    exact FieldReader.shown_of_absent hconfined ha hm habsent
  · intro ms name hname hunknown
    rw [hobj]
    exact FieldReader.members_of_unknown hname (hnames ▸ hunknown)
  · intro xs hxs
    rw [hnames, List.length_map] at hxs
    rw [harr, hobj, hnames]
    exact FieldReader.items_eq_members hseparate.nodup hxs

/-- The value of a field lies within another, if the field is read as the other form says. -/
theorem Nests.of_field {f : Form α} {inner : Form β} {d : Dialect} {fields : List (FieldReader α)}
    {default : α} {name : String} {set : β → α → α}
    (hdecode : f.decode = FieldReader.decode d fields default)
    (hnodup : (fields.map FieldReader.name).Nodup)
    (hmem : FieldReader.of name inner.decode set ∈ fields) : f.Nests name inner := by
  have hobj : ∀ ms, f.decode (.obj ms) = FieldReader.members fields [] ms default := by
    intro ms
    rw [hdecode]
    rfl
  have hown : ∀ g ∈ fields, g.name = name → g = .of name inner.decode set := by
    intro g hg hname
    exact List.inj_on_of_nodup_map hnodup hg hmem hname
  constructor
  · intro ms ms' j k hjk
    rw [hobj, hobj]
    refine FieldReader.members_congr_value fun g hg hname => ?_
    funext a
    rw [hown g hg hname]
    simp only [FieldReader.of, hjk]
  · intro ms j hj hrefused
    rw [hobj]
    refine FieldReader.members_of_refused hj fun g hg hname a => ?_
    rw [hown g hg hname]
    simp only [FieldReader.of, hrefused, Option.map_none]

end Form

/-! ## Values of fields -/

namespace Json

@[simp]
theorem bool?_bool (b : Bool) : (Json.bool b).bool? = some b := rfl

@[simp]
theorem str?_str (s : String) : (Json.str s).str? = some s := rfl

@[simp]
theorem word64?_ofNat (n : UInt64) : (Json.ofNat n.toNat).word64? = some n := by
  have hn : n.toNat < Number.limit := n.toNat_lt
  simp [ofNat, ofInt, word64?, hn]

@[simp]
theorem strings?_ofStrings (xs : List String) : (Json.ofStrings xs).strings? = some xs := by
  rw [ofStrings, strings?]
  induction xs with
  | nil => rfl
  | cons x xs ih => rw [List.map_cons, List.mapM_cons, ih]; rfl

@[simp]
theorem canonical_ofNat (n : Nat) : (Json.ofNat n).canonical = .ofNat n := rfl

@[simp]
theorem canonical_ofStrings (xs : List String) : (Json.ofStrings xs).canonical = .ofStrings xs := by
  have hitems : canonicalItems (xs.map .str) = xs.map .str := by
    induction xs with
    | nil => rfl
    | cons x xs ih => rw [List.map_cons, canonicalItems, ih]; rfl
  rw [ofStrings, canonical, hitems]

theorem exact_ofNat {depth : Nat} (n : UInt64) : (Json.ofNat n.toNat).Exact depth := by
  have hn : n.toNat < Number.limit := n.toNat_lt
  exact .int (by omega) (Int.ofNat_lt.mpr hn)

theorem exact_ofStrings {depth : Nat} (xs : List String) :
    (Json.ofStrings xs).Exact (depth + 1) := by
  refine .arr fun item hitem => ?_
  obtain ⟨x, -, rfl⟩ := List.mem_map.mp hitem
  exact .str

end Json

@[simp]
theorem LogFormat.decode_word (d : Dialect) (f : LogFormat) : decode d (.str f.word) = some f :=
  ofWord?_word f

@[simp]
theorem ReturnKind.decode_word (d : Dialect) (k : ReturnKind) : decode d (.str k.word) = some k :=
  ofWord?_word k

/-! ## Sections -/

section Sections

variable (d : Dialect)

open FieldReader

namespace PipelineSettings

/-- The section as data. -/
def form : Form PipelineSettings where
  names := fields.map FieldReader.name
  members := members
  toJson := toJson
  decode := decode d

theorem decode_members (s : PipelineSettings) : decode d (.obj s.members) = some s := by
  simp [decode, FieldReader.decode, FieldReader.members, members, fields, of]

theorem decode_toJson (s : PipelineSettings) : decode d s.toJson = some s := by
  simp [decode, FieldReader.decode, FieldReader.members, toJson, fields, of]

theorem canonical_members (s : PipelineSettings) : (Json.obj s.members).canonical = s.toJson := by
  simp only [toJson, members, Json.canonical, Json.canonicalMembers, Json.insertMember,
    Json.canonical_ofNat, Json.canonical_ofStrings, String.reduceLT, String.reduceEq, if_true,
    if_false]

theorem exact_members {depth : Nat} (s : PipelineSettings) :
    ∀ m ∈ s.members, m.2.Exact (depth + 1) := by
  simp [members, Json.Exact.bool, Json.exact_ofNat, Json.exact_ofStrings]

theorem roundTrips : (form d).RoundTrips :=
  .of_decode (fun _ => rfl) canonical_members (decode_toJson d) (decode_members d)
    fun s => .obj s.exact_members

theorem followsRules : (form d).FollowsRules {} := by
  refine .of_fields rfl rfl ⟨?nodup, ?commutes⟩ ?unchanged ?confined
  case nodup => simp [fields]
  case commutes => simp [fields, commutes_of]
  case unchanged => simp [form, fields, members, readNamed, of]
  case confined => simp [form, fields, members, confined_of]

end PipelineSettings

namespace LoggingSettings

/-- The section as data. -/
def form : Form LoggingSettings where
  names := (fields d).map FieldReader.name
  members := members
  toJson := toJson
  decode := decode d

theorem decode_members (s : LoggingSettings) : decode d (.obj s.members) = some s := by
  simp [decode, FieldReader.decode, FieldReader.members, members, fields, of]

theorem decode_toJson (s : LoggingSettings) : decode d s.toJson = some s := by
  simp [decode, FieldReader.decode, FieldReader.members, toJson, fields, of]

theorem canonical_members (s : LoggingSettings) : (Json.obj s.members).canonical = s.toJson := by
  simp only [toJson, members, Json.canonical, Json.canonicalMembers, Json.insertMember,
    String.reduceLT, String.reduceEq, if_true, if_false]

theorem exact_members {depth : Nat} (s : LoggingSettings) : ∀ m ∈ s.members, m.2.Exact depth := by
  simp [members, Json.Exact.bool, Json.Exact.str]

theorem roundTrips : (form d).RoundTrips :=
  .of_decode (fun _ => rfl) canonical_members (decode_toJson d) (decode_members d)
    fun s => .obj s.exact_members

theorem followsRules : (form d).FollowsRules {} := by
  refine .of_fields rfl rfl ⟨?nodup, ?commutes⟩ ?unchanged ?confined
  case nodup => simp [fields]
  case commutes => simp [fields, commutes_of]
  case unchanged => simp [form, fields, members, readNamed, of]
  case confined => simp [form, fields, members, confined_of]

end LoggingSettings

namespace MetricsSettings

/-- The section as data. -/
def form : Form MetricsSettings where
  names := fields.map FieldReader.name
  members := members
  toJson := toJson
  decode := decode d

theorem decode_members (s : MetricsSettings) : decode d (.obj s.members) = some s := by
  simp [decode, FieldReader.decode, FieldReader.members, members, fields, of]

theorem decode_toJson (s : MetricsSettings) : decode d s.toJson = some s := by
  simp [decode, FieldReader.decode, FieldReader.members, toJson, fields, of]

theorem canonical_members (s : MetricsSettings) : (Json.obj s.members).canonical = s.toJson := by
  simp only [toJson, members, Json.canonical, Json.canonicalMembers, Json.insertMember,
    String.reduceLT, String.reduceEq, if_false]

theorem exact_members {depth : Nat} (s : MetricsSettings) : ∀ m ∈ s.members, m.2.Exact depth := by
  simp [members, Json.Exact.bool, Json.Exact.str]

theorem roundTrips : (form d).RoundTrips :=
  .of_decode (fun _ => rfl) canonical_members (decode_toJson d) (decode_members d)
    fun s => .obj s.exact_members

theorem followsRules : (form d).FollowsRules {} := by
  refine .of_fields rfl rfl ⟨?nodup, ?commutes⟩ ?unchanged ?confined
  case nodup => simp [fields]
  case commutes => simp [fields, commutes_of]
  case unchanged => simp [form, fields, members, readNamed, of]
  case confined => simp [form, fields, members, confined_of]

end MetricsSettings

namespace Settings

/-- The settings as data. -/
def form : Form Settings where
  names := (fields d).map FieldReader.name
  members := members
  toJson := toJson
  decode := decode d

theorem decode_members (s : Settings) : decode d (.obj s.members) = some s := by
  simp [decode, FieldReader.decode, FieldReader.members, members, fields, of,
    PipelineSettings.decode_members, LoggingSettings.decode_members, MetricsSettings.decode_members]

theorem decode_toJson (s : Settings) : decode d s.toJson = some s := by
  simp [decode, FieldReader.decode, FieldReader.members, toJson, fields, of,
    PipelineSettings.decode_toJson, LoggingSettings.decode_toJson, MetricsSettings.decode_toJson]

theorem canonical_members (s : Settings) : (Json.obj s.members).canonical = s.toJson := by
  rw [toJson, ← s.pipeline.canonical_members, ← s.logging.canonical_members,
    ← s.metrics.canonical_members]
  simp only [members, Json.canonical, Json.canonicalMembers, Json.insertMember,
    String.reduceLT, String.reduceEq, if_true, if_false]

theorem exact_members {depth : Nat} (s : Settings) : ∀ m ∈ s.members, m.2.Exact (depth + 2) := by
  simp only [members, List.forall_mem_cons]
  refine ⟨?_, ?_, ?_, by simp⟩
  · exact .obj s.pipeline.exact_members
  · exact .obj s.logging.exact_members
  · exact .obj s.metrics.exact_members

theorem roundTrips : (form d).RoundTrips :=
  .of_decode (fun _ => rfl) canonical_members (decode_toJson d) (decode_members d)
    fun s => .obj s.exact_members

theorem separate : Separate (fields d) := by
  constructor
  · simp [fields]
  · simp [fields, commutes_of]

theorem followsRules : (form d).FollowsRules {} := by
  refine .of_fields rfl rfl (separate d) ?unchanged ?confined
  case unchanged =>
    simp [form, fields, members, readNamed, of, PipelineSettings.decode_members,
      LoggingSettings.decode_members, MetricsSettings.decode_members]
  case confined => simp [form, fields, members, confined_of]

theorem nests_pipeline : (form d).Nests "pipeline" (PipelineSettings.form d) :=
  .of_field rfl (separate d).nodup List.mem_cons_self

theorem nests_logging : (form d).Nests "logging" (LoggingSettings.form d) :=
  .of_field rfl (separate d).nodup (List.mem_cons_of_mem _ List.mem_cons_self)

theorem nests_metrics : (form d).Nests "metrics" (MetricsSettings.form d) :=
  .of_field rfl (separate d).nodup
    (List.mem_cons_of_mem _ (List.mem_cons_of_mem _ List.mem_cons_self))

end Settings

/-! ## Actions -/

namespace Action

/-- An action as data. -/
def form : Form Action where
  names := ["controller", "action", "return_kind"]
  members := members
  toJson := toJson
  decode := decode d

theorem decode_members (a : Action) : decode d (.obj a.members) = some a := by
  simp [decode, members, Json.once?]

theorem decode_toJson (a : Action) : decode d a.toJson = some a := by
  simp [decode, toJson, Json.once?]

theorem canonical_members (a : Action) : (Json.obj a.members).canonical = a.toJson := by
  simp only [toJson, members, Json.canonical, Json.canonicalMembers, Json.insertMember,
    String.reduceLT, String.reduceEq, if_true, if_false]

theorem exact_members {depth : Nat} (a : Action) : ∀ m ∈ a.members, m.2.Exact depth := by
  simp [members, Json.Exact.str]

theorem roundTrips : (form d).RoundTrips :=
  .of_decode (fun _ => rfl) canonical_members (decode_toJson d) (decode_members d)
    fun a => .obj a.exact_members

end Action

end Sections

/-- Settings, their sections and actions are read back from what is written for them, and settings
and their sections may be written down as sections may. What is read within settings is what is read
of their sections. -/
theorem forms_round_trip (d : Dialect) :
    ((PipelineSettings.form d).RoundTrips ∧ (LoggingSettings.form d).RoundTrips ∧
      (MetricsSettings.form d).RoundTrips ∧ (Settings.form d).RoundTrips ∧
      (Action.form d).RoundTrips) ∧
    ((PipelineSettings.form d).FollowsRules {} ∧ (LoggingSettings.form d).FollowsRules {} ∧
      (MetricsSettings.form d).FollowsRules {} ∧ (Settings.form d).FollowsRules {}) ∧
    (Settings.form d).Nests "pipeline" (PipelineSettings.form d) ∧
    (Settings.form d).Nests "logging" (LoggingSettings.form d) ∧
    (Settings.form d).Nests "metrics" (MetricsSettings.form d) := by
  refine ⟨⟨?_, ?_, ?_, ?_, ?_⟩, ⟨?_, ?_, ?_, ?_⟩, ?_, ?_, ?_⟩
  · exact PipelineSettings.roundTrips d
  · exact LoggingSettings.roundTrips d
  · exact MetricsSettings.roundTrips d
  · exact Settings.roundTrips d
  · exact Action.roundTrips d
  · exact PipelineSettings.followsRules d
  · exact LoggingSettings.followsRules d
  · exact MetricsSettings.followsRules d
  · exact Settings.followsRules d
  · exact Settings.nests_pipeline d
  · exact Settings.nests_logging d
  · exact Settings.nests_metrics d

/-- An array within an object, most of it left out. -/
example :
    Settings.decode .json (.obj [("metrics", .arr [.bool true]),
      ("logging", .obj [("ansi", .bool true), ("format", .str "pretty")])]) =
        some { logging := { format := .pretty, ansi := true }, metrics := { enabled := true } } :=
  rfl

end RequestPipeline
