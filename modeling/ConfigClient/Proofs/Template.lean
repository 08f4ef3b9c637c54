import ConfigClient.Proofs.Fetch
import ConfigClient.Proofs.Json.RoundTrip
import Mathlib.Tactic.FinCases

/-!
# Templates and their bodies

A template is read back from the body that holds its parts, in whatever order they stand there. This
holds for all parts that can be printed without loss, and so for every template whose parts have the
shapes that templates of the service have: a shape describes texts, flags, lists, dictionaries with
any keys, and records with named fields of which some may be missing.

* `Json.Shape`, `Json.HasShape`: shapes and their values.
* `Template.IsTyped`: the shapes of the parts of a template.
* `Template.members`: the members of a body for a template.
* `Template.parse_render`: a template is read back from its body.
* `TemplateClient.fetch_printed`, `TemplateClient.fetch_typed`: a fetch gives the template whose
  body was sent.
-/

namespace ConfigClient

/-! ## Shapes of values -/

namespace Json

mutual

/-- The shape of a type of data. No number occurs in one. -/
inductive Shape where
  | text
  | flag
  /-- One of some texts. -/
  | oneOf (texts : List Text)
  | list (item : Shape)
  /-- An object whose keys are free. -/
  | dictionary (entry : Shape)
  /-- An object whose members are those of some fields. -/
  | record (fields : List Field)
  | either (left right : Shape)

/-- A named field of a record. -/
structure Field where
  name : Text
  shape : Shape
  /-- Whether it has to be there. -/
  required : Bool

end

/-- Whether a value has a shape. The members of an object may be in any order that objects have. -/
inductive HasShape : Shape → Json → Prop
  | text (t : Text) : HasShape .text (.string t)
  | flag (b : Bool) : HasShape .flag (.bool b)
  | oneOf {texts : List Text} {t : Text} (h : t ∈ texts) : HasShape (.oneOf texts) (.string t)
  | list {item : Shape} {items : List Json} (h : ∀ j ∈ items, HasShape item j) :
    HasShape (.list item) (.array items)
  | dictionary {entry : Shape} {members : List (Text × Json)}
    (ordered : Members.Ordered members) (h : ∀ m ∈ members, HasShape entry m.2) :
    HasShape (.dictionary entry) (.object members)
  | record {fields : List Field} {members : List (Text × Json)}
    (ordered : Members.Ordered members) (known : ∀ m ∈ members, m.1 ∈ fields.map Field.name)
    (complete : ∀ f ∈ fields, f.required = true → Members.has members f.name = true)
    (h : ∀ m ∈ members, ∀ f ∈ fields, f.name = m.1 → HasShape f.shape m.2) :
    HasShape (.record fields) (.object members)
  | left {left right : Shape} {j : Json} (h : HasShape left j) : HasShape (.either left right) j
  | right {left right : Shape} {j : Json} (h : HasShape right j) : HasShape (.either left right) j

/-- A value of a shape can be printed without loss. -/
theorem HasShape.legible {shape : Shape} {j : Json} (h : HasShape shape j) : Legible j := by
  induction h with
  | text t => exact .string t
  | flag b => exact .bool b
  | oneOf h => exact .string _
  | list h ih => exact .array ih
  | dictionary ordered h ih => exact .object ordered ih
  | record ordered known complete h ih =>
    refine .object ordered fun m hm => ?_
    obtain ⟨f, hf, hkey⟩ := List.mem_map.1 (known m hm)
    exact ih m hm f hf hkey
  | left h ih => exact ih
  | right h ih => exact ih

end Json

namespace Template

open Json

/-! ## The shapes of the parts -/

/-- A field that has to be there. -/
def required (name : Text) (shape : Shape) : Field := ⟨name, shape, true⟩

/-- A field that may be missing. -/
def optional (name : Text) (shape : Shape) : Field := ⟨name, shape, false⟩

/-- A value of a parameter: a text, or the default in the application. It may say both. -/
def valueShape : Shape :=
  .either (.record [required "value" .text, optional "useInAppDefault" .flag])
    (.record [optional "value" .text, required "useInAppDefault" .flag])

/-- The types that a value of a parameter may be said to have. -/
def valueTypes : List Text :=
  ["PARAMETER_VALUE_TYPE_UNSPECIFIED", "STRING", "BOOLEAN", "NUMBER", "JSON"]

/-- A parameter (`RemoteConfigParameter`). -/
def parameterShape : Shape :=
  .record [optional "defaultValue" valueShape,
    optional "conditionalValues" (.dictionary valueShape), optional "description" .text,
    optional "valueType" (.oneOf valueTypes)]

/-- A group of parameters (`RemoteConfigParameterGroup`). -/
def groupShape : Shape :=
  .record [optional "description" .text, required "parameters" (.dictionary parameterShape)]

/-- A condition (`RemoteConfigCondition`). -/
def conditionShape : Shape :=
  .record [required "name" .text, required "expression" .text,
    optional "tagColor" (.oneOf (ConditionColor.all.map ConditionColor.text))]

/-- A user who has made a version (`RemoteConfigUser`). -/
def userShape : Shape :=
  .record [required "email" .text, optional "name" .text, optional "imageUrl" .text]

/-- Where a version may come from. -/
def updateOrigins : List Text :=
  ["REMOTE_CONFIG_UPDATE_ORIGIN_UNSPECIFIED", "CONSOLE", "REST_API", "ADMIN_SDK_NODE"]

/-- What a version may have done. -/
def updateTypes : List Text :=
  ["REMOTE_CONFIG_UPDATE_TYPE_UNSPECIFIED", "INCREMENTAL_UPDATE", "FORCED_UPDATE", "ROLLBACK"]

/-- A version (`Version`). -/
def versionShape : Shape :=
  .record [optional "versionNumber" .text, optional "updateTime" .text,
    optional "updateOrigin" (.oneOf updateOrigins), optional "updateType" (.oneOf updateTypes),
    optional "updateUser" userShape, optional "description" .text, optional "rollbackSource" .text,
    optional "isLegacy" .flag]

/-- Whether the parts of a template have the shapes that they have in the service. -/
structure IsTyped (t : Template) : Prop where
  conditions : HasShape (.list conditionShape) t.conditions
  parameters : HasShape (.dictionary parameterShape) t.parameters
  parameterGroups : HasShape (.dictionary groupShape) t.parameterGroups
  version : ∀ v ∈ t.version, HasShape versionShape v

/-- Whether the parts of a template are of the kinds that are asked for and can be printed without
loss. -/
structure Printable (t : Template) : Prop where
  conditions : isList t.conditions = true ∧ t.conditions.Legible
  parameters : isRecord t.parameters = true ∧ t.parameters.Legible
  parameterGroups : isRecord t.parameterGroups = true ∧ t.parameterGroups.Legible
  version : ∀ v ∈ t.version, isRecord v = true ∧ v.Legible

theorem isList_of_hasShape {item : Shape} {j : Json} (h : HasShape (.list item) j) :
    isList j = true := by
  cases h
  rfl

theorem isRecord_of_hasShape_dictionary {entry : Shape} {j : Json}
    (h : HasShape (.dictionary entry) j) : isRecord j = true := by
  cases h
  rfl

theorem isRecord_of_hasShape_record {fields : List Field} {j : Json}
    (h : HasShape (.record fields) j) : isRecord j = true := by
  cases h
  rfl

theorem IsTyped.printable {t : Template} (h : t.IsTyped) : t.Printable where
  conditions := ⟨isList_of_hasShape h.conditions, h.conditions.legible⟩
  parameters := ⟨isRecord_of_hasShape_dictionary h.parameters, h.parameters.legible⟩
  parameterGroups :=
    ⟨isRecord_of_hasShape_dictionary h.parameterGroups, h.parameterGroups.legible⟩
  version v hv := ⟨isRecord_of_hasShape_record (h.version v hv), (h.version v hv).legible⟩

/-! ## Bodies -/

/-- The members of a body for a template: all its parts, without the ETag. -/
def members (t : Template) : Members Json :=
  let shared : Members Json :=
    [("conditions", t.conditions), ("parameters", t.parameters),
      ("parameterGroups", t.parameterGroups)]
  match t.version with
  | none => shared
  | some v => shared ++ [(("version" : Text), v)]

/-- The parts of a body that count. -/
def memberNames : List Text := ["conditions", "parameters", "parameterGroups", "version"]

theorem names_sublist (t : Template) : (t.members.map Prod.fst).Sublist memberNames := by
  unfold members
  cases t.version with
  | none => exact List.sublist_append_left _ [_]
  | some v => exact List.Sublist.refl _

theorem nodup_members (t : Template) : (t.members.map Prod.fst).Nodup :=
  t.names_sublist.nodup (by decide)

/-- None of the names is an array index, so the members may stand in any order. -/
theorem arrayIndex?_of_mem_members {t : Template} {m : Text × Json} (h : m ∈ t.members) :
    arrayIndex? m.1 = none := by
  have hnames : ∀ name ∈ memberNames, arrayIndex? name = none := by decide +kernel
  exact hnames _ (t.names_sublist.subset (List.mem_map_of_mem h))

theorem get?_members (t : Template) :
    Members.get? t.members "conditions" = some t.conditions ∧
      Members.get? t.members "parameters" = some t.parameters ∧
      Members.get? t.members "parameterGroups" = some t.parameterGroups ∧
      Members.get? t.members "version" = t.version := by
  unfold members
  cases t.version <;> exact ⟨rfl, rfl, rfl, rfl⟩

theorem Printable.legible_members {t : Template} (ht : t.Printable) {m : Text × Json}
    (h : m ∈ t.members) : m.2.Legible := by
  have shared (hm : m ∈ ([("conditions", t.conditions), ("parameters", t.parameters),
      ("parameterGroups", t.parameterGroups)] : Members Json)) : m.2.Legible := by
    simp only [List.mem_cons, List.not_mem_nil, or_false] at hm
    rcases hm with rfl | rfl | rfl
    · exact ht.conditions.2
    · exact ht.parameters.2
    · exact ht.parameterGroups.2
  unfold members at h
  cases hv : t.version with
  | none =>
    rw [hv] at h
    exact shared h
  | some v =>
    rw [hv] at h
    rcases List.mem_append.1 h with h | h
    · exact shared h
    · rw [List.mem_singleton.1 h]
      exact (ht.version v hv).2

/-- The text of a body, whatever the order of its members, is read as that body. -/
theorem parse?_body {t : Template} (ht : t.Printable) {ms : Members Json}
    (hp : ms.Perm t.members) : Json.parse? (Json.object ms).render = some (.object ms) := by
  have hd : (ms.map Prod.fst).Nodup := (hp.map Prod.fst).nodup_iff.2 t.nodup_members
  have ordered := Members.ordered_of_names hd fun m hm =>
    arrayIndex?_of_mem_members (hp.subset hm)
  exact parse?_render (.object ordered fun m hm => ht.legible_members (hp.subset hm))

theorem part?_of_get? {ms : Members Json} {key : Text} {kind : Json → Bool} {v : Option Json}
    (h : Members.get? ms key = v) (hv : ∀ j ∈ v, kind j = true) : part? ms key kind = some v := by
  rw [part?, h]
  cases v with
  | none => rfl
  | some j => simp [hv j rfl]

/-- A template is read back from its body, whatever the order of the parts. -/
theorem parse_render {t : Template} (ht : t.Printable) {ms : Members Json}
    (hp : ms.Perm t.members) (etag : Text) :
    parse (Json.object ms).render etag = .ok { t with etag } := by
  have hget := Members.get?_of_perm hp t.nodup_members
  obtain ⟨h1, h2, h3, h4⟩ := t.get?_members
  have hconditions : part? ms "conditions" isList = some (some t.conditions) :=
    part?_of_get? ((hget _).trans h1) (by simp [ht.conditions.1])
  have hparameters : part? ms "parameters" isRecord = some (some t.parameters) :=
    part?_of_get? ((hget _).trans h2) (by simp [ht.parameters.1])
  have hgroups : part? ms "parameterGroups" isRecord = some (some t.parameterGroups) :=
    part?_of_get? ((hget _).trans h3) (by simp [ht.parameterGroups.1])
  have hversion : part? ms "version" isRecord = some t.version :=
    part?_of_get? ((hget _).trans h4) fun v hv => (ht.version v hv).1
  simp only [parse, parse?_body ht hp, ofJson?, hconditions, hparameters, hgroups, hversion]
  rfl

end Template

namespace TemplateClient

/-- A fetch that has read a response in 2xx with an ETag and the body of a template gives that
template. -/
theorem fetch_printed {c : TemplateClient} {env : Environment} {s : Surroundings} {p : Progress}
    {t : Template} (ht : t.Printable) {ms : Members Json} (hp : ms.Perm t.members) {n : Nat}
    (hn : 200 ≤ n ∧ n ≤ 299) {headers : Headers} {etag : Text}
    (he : headers.get? "etag" = some etag)
    (hmem : ⟨⟨.ofNat n, headers⟩, (Json.object ms).render⟩ ∈ (c.fetch env).replies s p) :
    (c.fetch env).result s p = some (.ok { t with etag }) := by
  have hread : c.read ⟨⟨.ofNat n, headers⟩, (Json.object ms).render⟩ =
      .ok { t with etag } := by
    simp only [read, he, Template.parse_render ht hp]
    rfl
  rw [result_of_mem_replies hmem]
  rcases Client.judge_cases ⟨⟨.ofNat n, headers⟩, (Json.object ms).render⟩ with
    ⟨hv, -⟩ | ⟨hs, -⟩
  · rw [hv]
    simp only [Client.surfaced, reported, hread]
  · exact absurd ((Value.isSuccessStatus_ofNat n).2 hn) hs

/-- A template whose parts have the shapes of the service is fetched as it was sent. -/
theorem fetch_typed {c : TemplateClient} {env : Environment} {s : Surroundings} {p : Progress}
    {t : Template} (ht : t.IsTyped) {ms : Members Json} (hp : ms.Perm t.members) {n : Nat}
    (hn : 200 ≤ n ∧ n ≤ 299) {headers : Headers} {etag : Text}
    (he : headers.get? "etag" = some etag)
    (hmem : ⟨⟨.ofNat n, headers⟩, (Json.object ms).render⟩ ∈ (c.fetch env).replies s p) :
    (c.fetch env).result s p = some (.ok { t with etag }) :=
  fetch_printed ht.printable hp hn he hmem

open Json

/-- A parameter value with a quote, a line feed and a lone surrogate in its text. -/
def oddValue : Json := .object [("value", .string [0x22, 0x0A, 0xD800])]

/-- A template with keys of parameters that are indices, empty or special to objects. -/
def oddTemplate : Template where
  conditions := .array []
  parameters := .object [("2", .object []), ("10", .object [("defaultValue", oddValue)]),
    ("__proto__", .object []), ([], .object [])]
  parameterGroups := .object []
  etag := "none yet"
  version := none

theorem hasShape_oddValue : HasShape Template.valueShape oddValue := by
  refine .left (.record (by decide) (by decide) (by decide) ?_)
  intro m hm f hf hname
  rw [List.mem_singleton.1 hm] at hname ⊢
  fin_cases hf
  · exact .text _
  · exact absurd hname (by decide)

theorem isTyped_oddTemplate : oddTemplate.IsTyped where
  conditions := .list nofun
  parameters := by
    have empty : HasShape Template.parameterShape (.object []) :=
      .record .nil nofun (by decide) nofun
    refine .dictionary (by decide +kernel) ?_
    intro m hm
    fin_cases hm
    · exact empty
    · refine .record (by decide) (by decide) (by decide) ?_
      intro m hm f hf hname
      rw [List.mem_singleton.1 hm] at hname ⊢
      fin_cases hf
      · exact hasShape_oddValue
      · exact absurd hname (by decide)
      · exact absurd hname (by decide)
      · exact absurd hname (by decide)
    · exact empty
    · exact empty
  parameterGroups := .dictionary .nil nofun
  version := nofun

theorem fetch_typed_odd :
    (sample.fetch .empty).result
        (answering 200 [("etag", ["e"])] (Json.object oddTemplate.members).render) {} =
      some (.ok { oddTemplate with etag := "e" }) := by
  have he : Headers.get? [("etag", ["e"])] "etag" = some ("e" : Text) := by decide
  apply fetch_typed isTyped_oddTemplate (List.Perm.refl _) (n := 200) (by omega) he
  rw [replies_sample]
  exact List.mem_singleton_self _

end TemplateClient

end ConfigClient
