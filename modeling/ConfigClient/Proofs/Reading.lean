import ConfigClient.Proofs.Failure
import ConfigClient.Proofs.Headers.Given
import ConfigClient.Proofs.Template

/-!
# From responses to templates

Which responses in 2xx give a template, and which one. The template is made of four members of the
body and the ETag of the response, and of nothing else.

* `Template.Fits`: the kinds that the parts of a body have to be of, as far as they are there.
* `Template.ofJson?_eq_some_iff`: a body is a template just if its parts fit.
* `fetch_accepts_iff`: which bodies are accepted. Where a dictionary is asked for, a list passes.
* `fetch_eq_of_parts`: responses with the same four members and the same ETag give the same result.
-/

namespace ConfigClient

namespace Template

/-! ## Kinds of parts -/

/-- Whether a value is an object and no list. -/
def isDictionary : Json → Bool
  | .object _ => true
  | _ => false

theorem isRecord_iff (j : Json) : isRecord j = true ↔ isDictionary j = true ∨ isList j = true := by
  cases j <;> simp [isRecord, isDictionary, isList]

theorem isList_eq_false_of_isDictionary {j : Json} (h : isDictionary j = true) :
    isList j = false := by
  cases j with
  | object members => rfl
  | _ => cases h

/-- The parts that are dictionaries. -/
def recordNames : List Text := ["parameters", "parameterGroups", "version"]

theorem forall_recordNames {P : Text → Prop} :
    (∀ name ∈ recordNames, P name) ↔ P "parameters" ∧ P "parameterGroups" ∧ P "version" := by
  simp [recordNames]

/-- Whether the conditions in a body are a list and its other parts are records of some kind, as far
as they are there. -/
structure Fits (record : Json → Bool) (ms : Members Json) : Prop where
  conditions : ∀ j ∈ Members.get? ms "conditions", isList j = true
  records : ∀ name ∈ recordNames, ∀ j ∈ Members.get? ms name, record j = true

/-- Whether the parts of a template are of these kinds. -/
structure Holds (record : Json → Bool) (t : Template) : Prop where
  conditions : isList t.conditions = true
  parameters : record t.parameters = true
  parameterGroups : record t.parameterGroups = true
  version : ∀ j ∈ t.version, record j = true

theorem fits_isDictionary_iff (ms : Members Json) :
    Fits isDictionary ms ↔
      Fits isRecord ms ∧ ∀ name ∈ recordNames, ∀ j ∈ Members.get? ms name, isList j = false := by
  constructor
  · rintro ⟨hconditions, hrecords⟩
    refine ⟨⟨hconditions, fun name hname j hj => ?_⟩, fun name hname j hj => ?_⟩
    · exact (isRecord_iff j).2 (.inl (hrecords name hname j hj))
    · exact isList_eq_false_of_isDictionary (hrecords name hname j hj)
  · rintro ⟨⟨hconditions, hrecords⟩, hlists⟩
    refine ⟨hconditions, fun name hname j hj => ?_⟩
    rcases (isRecord_iff j).1 (hrecords name hname j hj) with h | h
    · exact h
    · rw [hlists name hname j hj] at h
      cases h

/-! ## The template in a body -/

/-- The template that the members of a body and an ETag make: each part as it stands in the body, or
the empty one if it is absent. -/
def ofParts (ms : Members Json) (etag : Text) : Template where
  conditions := (Members.get? ms "conditions").getD (.array [])
  parameters := (Members.get? ms "parameters").getD (.object [])
  parameterGroups := (Members.get? ms "parameterGroups").getD (.object [])
  etag
  version := Members.get? ms "version"

theorem part?_eq_some_iff {ms : Members Json} {key : Text} {kind : Json → Bool}
    {v : Option Json} :
    part? ms key kind = some v ↔ Members.get? ms key = v ∧ ∀ j ∈ v, kind j = true := by
  constructor
  · intro h
    unfold part? at h
    cases hget : Members.get? ms key with
    | none =>
      rw [hget] at h
      cases h
      exact ⟨rfl, nofun⟩
    | some j =>
      simp only [hget] at h
      split_ifs at h with hkind
      cases h
      refine ⟨rfl, ?_⟩
      rintro _ ⟨⟩
      exact hkind
  · rintro ⟨hget, hkind⟩
    exact part?_of_get? hget hkind

/-- A body is a template just if its parts fit. -/
theorem ofJson?_eq_some_iff (ms : Members Json) (etag : Text) (t : Template) :
    ofJson? (.object ms) etag = some t ↔ Fits isRecord ms ∧ t = ofParts ms etag := by
  simp only [ofJson?, bind, Option.bind_eq_some_iff, pure, Option.some.injEq, part?_eq_some_iff]
  constructor
  · rintro ⟨_, ⟨rfl, h1⟩, _, ⟨rfl, h2⟩, _, ⟨rfl, h3⟩, _, ⟨rfl, h4⟩, rfl⟩
    exact ⟨⟨h1, forall_recordNames.2 ⟨h2, h3, h4⟩⟩, rfl⟩
  · rintro ⟨⟨h1, hrecords⟩, rfl⟩
    obtain ⟨h2, h3, h4⟩ := forall_recordNames.1 hrecords
    exact ⟨_, ⟨rfl, h1⟩, _, ⟨rfl, h2⟩, _, ⟨rfl, h3⟩, _, ⟨rfl, h4⟩, rfl⟩

theorem forall_memberNames {P : Text → Prop} :
    (∀ name ∈ memberNames, P name) ↔
      P "conditions" ∧ P "parameters" ∧ P "parameterGroups" ∧ P "version" := by
  simp [memberNames]

/-- Only four members of a body count. -/
theorem ofJson?_eq_of_agree {ms ms' : Members Json}
    (h : ∀ name ∈ memberNames, Members.get? ms name = Members.get? ms' name) (etag : Text) :
    ofJson? (.object ms) etag = ofJson? (.object ms') etag := by
  obtain ⟨h1, h2, h3, h4⟩ := forall_memberNames.1 h
  simp only [ofJson?, part?, h1, h2, h3, h4]

theorem getD_of_forall {kind : Json → Bool} {v : Option Json} {default : Json}
    (hv : ∀ j ∈ v, kind j = true) (hdefault : kind default = true) :
    kind (v.getD default) = true := by
  cases v with
  | none => exact hdefault
  | some j => exact hv j rfl

/-- The parts of a template are of the kinds that the parts of its body are of. -/
theorem Fits.holds {record : Json → Bool} {ms : Members Json} (h : Fits record ms)
    (hempty : record (.object []) = true) (etag : Text) : (ofParts ms etag).Holds record where
  conditions := getD_of_forall h.conditions rfl
  parameters := getD_of_forall (h.records "parameters" (by decide)) hempty
  parameterGroups := getD_of_forall (h.records "parameterGroups" (by decide)) hempty
  version := h.records "version" (by decide)

/-- The keys that a template shows, of which the version may be missing. -/
def shownNames (versioned : Bool) : List Text :=
  let shared : List Text := ["conditions", "parameters", "parameterGroups", "etag"]
  if versioned then shared ++ [("version" : Text)] else shared

theorem names_of_json (ms : Members Json) (etag : Text) :
    ∃ shown : Members Json, (ofParts ms etag).json = .object shown ∧
      shown.map Prod.fst = shownNames (Members.has ms "version") := by
  rw [← Members.isSome_get?, json, ofParts]
  cases Members.get? ms "version" <;> exact ⟨_, rfl, rfl⟩

end Template

namespace TemplateClient

/-! ## A response in 2xx -/

theorem read_eq_ok_iff (c : TemplateClient) (reply : FullResponse) (t : Template) :
    c.read reply = .ok t ↔
      ∃ etag ms, reply.response.headers.get? "etag" = some etag ∧
        Json.parse? reply.body = some (.object ms) ∧ Template.Fits Template.isRecord ms ∧
        t = Template.ofParts ms etag := by
  unfold read
  cases he : reply.response.headers.get? "etag" with
  | none => cases c.projectId.text <;> simp
  | some etag =>
    simp only [Template.parse, Option.some.injEq, exists_and_left, exists_eq_left']
    cases hb : Json.parse? reply.body with
    | none => simp [Except.mapError]
    | some body =>
      cases body with
      | object ms =>
        simp only [Option.some.injEq, Json.object.injEq, exists_eq_left',
          ← Template.ofJson?_eq_some_iff]
        cases Template.ofJson? (.object ms) etag <;> simp [Except.mapError]
      | _ => simp [Template.ofJson?, Except.mapError]

/-- A response in 2xx decides the result by what is read in it. -/
theorem result_of_success {c : TemplateClient} {env : Environment} {s : Surroundings}
    {p : Progress} {reply : FullResponse} (hs : reply.IsSuccess)
    (hmem : reply ∈ (c.fetch env).replies s p) :
    (c.fetch env).result s p = some (c.reported (.ok reply)) := by
  rw [result_of_mem_replies hmem]
  rcases Client.judge_cases reply with ⟨hv, -⟩ | ⟨hnot, -⟩
  · rw [hv, Client.surfaced]
  · exact absurd hs hnot

/-! ## Accepted bodies -/

/-- Whether a text is the body of a template with records of some kind. -/
def IsBody (record : Json → Bool) (text : Text) : Prop :=
  ∃ ms, Json.parse? text = some (.object ms) ∧ Template.Fits record ms

/-- Whether a body has a list where a dictionary is asked for. -/
def MistakesList (text : Text) : Prop :=
  ∃ ms, Json.parse? text = some (.object ms) ∧
    ∃ name ∈ Template.recordNames, ∃ j ∈ Members.get? ms name, Template.isList j = true

theorem isBody_isDictionary_iff (text : Text) :
    IsBody Template.isDictionary text ↔ IsBody Template.isRecord text ∧ ¬MistakesList text := by
  constructor
  · rintro ⟨ms, hms, hfits⟩
    obtain ⟨hrecord, hlists⟩ := (Template.fits_isDictionary_iff ms).1 hfits
    refine ⟨⟨ms, hms, hrecord⟩, ?_⟩
    rintro ⟨ms', hms', name, hname, j, hj, hlist⟩
    obtain rfl : ms' = ms := by simpa [hms, eq_comm] using hms'
    rw [hlists name hname j hj] at hlist
    cases hlist
  · rintro ⟨⟨ms, hms, hfits⟩, hlists⟩
    refine ⟨ms, hms, (Template.fits_isDictionary_iff ms).2 ⟨hfits, fun name hname j hj => ?_⟩⟩
    rw [Bool.eq_false_iff]
    exact fun hlist => hlists ⟨ms, hms, name, hname, j, hj, hlist⟩

/-- The bodies that a fetch accepts, once it has read a response in 2xx with an ETag: those of the
shape of a template, where a list passes for a dictionary. Without such lists they are the bodies
with dictionaries, and so are the templates. -/
theorem fetch_accepts_iff {c : TemplateClient} {env : Environment} {s : Surroundings}
    {p : Progress} {reply : FullResponse} {etag : Text}
    (hs : reply.IsSuccess)
    (he : reply.response.headers.get? "etag" = some etag)
    (hmem : reply ∈ (c.fetch env).replies s p) :
    let accepted := ∃ t, (c.fetch env).result s p = some (.ok t)
    (accepted ↔ IsBody Template.isRecord reply.body) ∧
      (IsBody Template.isDictionary reply.body ↔ accepted ∧ ¬MistakesList reply.body) ∧
      ∀ t, (c.fetch env).result s p = some (.ok t) →
        t.Holds Template.isRecord ∧ (¬MistakesList reply.body → t.Holds Template.isDictionary) := by
  have hread (t : Template) : (c.fetch env).result s p = some (.ok t) ↔
      ∃ ms, Json.parse? reply.body = some (.object ms) ∧ Template.Fits Template.isRecord ms ∧
        t = Template.ofParts ms etag := by
    rw [result_of_success hs hmem, Option.some.injEq, reported_ok, read_eq_ok_iff]
    simp only [he, Option.some.injEq, exists_and_left, exists_eq_left']
  have haccepted : (∃ t, (c.fetch env).result s p = some (.ok t)) ↔
      IsBody Template.isRecord reply.body := by
    constructor
    · rintro ⟨t, ht⟩
      obtain ⟨ms, hms, hfits, -⟩ := (hread t).1 ht
      exact ⟨ms, hms, hfits⟩
    · rintro ⟨ms, hms, hfits⟩
      exact ⟨_, (hread _).2 ⟨ms, hms, hfits, rfl⟩⟩
  refine ⟨haccepted, by rw [isBody_isDictionary_iff, haccepted], fun t ht => ?_⟩
  obtain ⟨ms, hms, hfits, rfl⟩ := (hread t).1 ht
  refine ⟨hfits.holds rfl etag, fun hlists => ?_⟩
  obtain ⟨ms', hms', hdictionary⟩ :=
    (isBody_isDictionary_iff reply.body).2 ⟨⟨ms, hms, hfits⟩, hlists⟩
  obtain rfl : ms' = ms := by simpa [hms, eq_comm] using hms'
  exact hdictionary.holds rfl etag

/-- A response to the sample in 200 with an ETag. -/
def tagged (body : Text) : FullResponse := ⟨⟨.ofNat 200, [("etag", ["e"])]⟩, body⟩

theorem mem_replies_tagged (body : Text) :
    tagged body ∈ (sample.fetch .empty).replies (answering 200 [("etag", ["e"])] body) {} := by
  rw [replies_sample]
  exact List.mem_singleton_self _

theorem get?_tagged (body : Text) : (tagged body).response.headers.get? "etag" = some "e" := rfl

theorem isSuccess_tagged (body : Text) : (tagged body).IsSuccess :=
  (FullResponse.isSuccess_ofNat 200 _ _).2 (by omega)

/-- A body with parameters and an empty version, but without conditions and groups. -/
def partialBody : Text := "\x7b\"parameters\":\x7b\x7d,\"version\":\x7b\x7d\x7d"

theorem fetch_accepts_iff_partial :
    IsBody Template.isDictionary partialBody ∧
      ∃ t, (sample.fetch .empty).result (answering 200 [("etag", ["e"])] partialBody) {} =
        some (.ok t) ∧ t.Holds Template.isDictionary := by
  have hparse : Json.parse? partialBody =
      some (.object [("parameters", .object []), ("version", .object [])]) := by cbv
  have hbody : IsBody Template.isDictionary partialBody := by
    refine ⟨_, hparse, by rintro _ ⟨⟩, Template.forall_recordNames.2 ⟨?_, by rintro _ ⟨⟩, ?_⟩⟩
    · rintro _ ⟨⟩
      rfl
    · rintro _ ⟨⟩
      rfl
  obtain ⟨-, hdictionary, hholds⟩ := fetch_accepts_iff (isSuccess_tagged _)
    (get?_tagged partialBody) (mem_replies_tagged partialBody)
  obtain ⟨⟨t, ht⟩, hlists⟩ := hdictionary.1 hbody
  exact ⟨hbody, t, ht, (hholds t ht).2 hlists⟩

/-- A body with a list of parameters. -/
def listedBody : Text := "\x7b\"parameters\":[]\x7d"

/-- A list of parameters is accepted and given back, though it is no dictionary. -/
theorem fetch_accepts_list :
    ¬IsBody Template.isDictionary listedBody ∧
      ∃ t, (sample.fetch .empty).result (answering 200 [("etag", ["e"])] listedBody) {} =
        some (.ok t) ∧ Template.isDictionary t.parameters = false := by
  have hparse : Json.parse? listedBody = some (.object [("parameters", .array [])]) := by
    cbv
  have hread : sample.read (tagged listedBody) =
      .ok (Template.ofParts [("parameters", .array [])] "e") := by
    rw [read_eq_ok_iff]
    refine ⟨"e", _, get?_tagged listedBody, hparse, ⟨by rintro _ ⟨⟩, ?_⟩, rfl⟩
    refine Template.forall_recordNames.2 ⟨?_, by rintro _ ⟨⟩, by rintro _ ⟨⟩⟩
    rintro _ ⟨⟩
    rfl
  refine ⟨?_, Template.ofParts [("parameters", .array [])] "e", ?_, rfl⟩
  · rw [isBody_isDictionary_iff]
    rintro ⟨-, hlists⟩
    exact hlists ⟨_, hparse, "parameters", by decide, .array [], rfl, rfl⟩
  · rw [result_of_success (isSuccess_tagged _) (mem_replies_tagged listedBody), reported_ok, hread]

/-! ## What the result depends on -/

/-- Whether a response is in 2xx, has headers that were built from some pairs and a body with some
members. -/
structure Brings (reply : FullResponse) (pairs : List (Text × Text)) (ms : Members Json) :
    Prop where
  status : reply.IsSuccess
  headers : Headers.ofValue (Headers.pairsValue pairs) = .ok reply.response.headers
  body : Json.parse? reply.body = some (.object ms)

/-- Two responses whose bodies have the same four members and whose ETags are the same are read in
the same way. -/
theorem read_eq_of_agree {c c' : TemplateClient} {reply reply' : FullResponse}
    {pairs pairs' : List (Text × Text)} {ms ms' : Members Json}
    (hproject : c.projectId = c'.projectId) (hr : Brings reply pairs ms)
    (hr' : Brings reply' pairs' ms')
    (hparts : ∀ name ∈ Template.memberNames, Members.get? ms name = Members.get? ms' name)
    (hetag : Headers.joined? (Headers.valuesFor pairs "etag") =
      Headers.joined? (Headers.valuesFor pairs' "etag")) :
    c.read reply = c'.read reply' := by
  rw [read, read, Headers.get?_of_pairsValue hr.headers, Headers.get?_of_pairsValue hr'.headers,
    hetag, hproject]
  cases Headers.joined? (Headers.valuesFor pairs' "etag") with
  | none => rfl
  | some etag =>
    simp only [Template.parse, hr.body, hr'.body, Template.ofJson?_eq_of_agree hparts]

/-- The result of a fetch that has read a response in 2xx with an object as body depends on four
members of the body and on the values of the ETag, and a template consists of these alone. -/
theorem fetch_eq_of_parts {c c' : TemplateClient} {env env' : Environment}
    {s s' : Surroundings} {p p' : Progress} {reply reply' : FullResponse}
    {pairs pairs' : List (Text × Text)} {ms ms' : Members Json}
    (hproject : c.projectId = c'.projectId) (hr : Brings reply pairs ms)
    (hr' : Brings reply' pairs' ms')
    (hparts : ∀ name ∈ Template.memberNames, Members.get? ms name = Members.get? ms' name)
    (hetag : Headers.joined? (Headers.valuesFor pairs "etag") =
      Headers.joined? (Headers.valuesFor pairs' "etag"))
    (hmem : reply ∈ (c.fetch env).replies s p) (hmem' : reply' ∈ (c'.fetch env').replies s' p') :
    ∃ x, (c.fetch env).result s p = some x ∧ (c'.fetch env').result s' p' = some x ∧
      ∀ t, x = .ok t →
        Headers.joined? (Headers.valuesFor pairs "etag") = some t.etag ∧
        t.conditions = (Members.get? ms "conditions").getD (.array []) ∧
        t.parameters = (Members.get? ms "parameters").getD (.object []) ∧
        t.parameterGroups = (Members.get? ms "parameterGroups").getD (.object []) ∧
        t.version = Members.get? ms "version" ∧
        ∃ shown : Members Json, t.json = .object shown ∧
          shown.map Prod.fst = Template.shownNames (Members.has ms "version") := by
  have hread := read_eq_of_agree hproject hr hr' hparts hetag
  refine ⟨c.read reply, result_of_success hr.status hmem,
    hread ▸ result_of_success hr'.status hmem', fun t ht => ?_⟩
  obtain ⟨etag, ms'', he, hms, -, rfl⟩ := (read_eq_ok_iff c reply t).1 ht
  obtain rfl : ms = ms'' := by simpa [hr.body] using hms
  rw [Headers.get?_of_pairsValue hr.headers] at he
  exact ⟨he, rfl, rfl, rfl, rfl, Template.names_of_json ms etag⟩

/-- A body with a key written twice, the ETag of something else and an object of its own for missing
keys. -/
def crowdedBody : Text :=
  " \x7b\"etag\":\"x\",\"conditions\":null,\"__proto__\":\x7b\"version\":\x7b\x7d\x7d," ++
    "\"conditions\":[]\x7d"

/-- A body with the same parts and nothing else. -/
def plainBody : Text := "\x7b\"conditions\":[]\x7d"

set_option maxRecDepth 2000 in
theorem fetch_eq_of_crowded :
    let t : Template := {
      conditions := .array [], parameters := .object [], parameterGroups := .object []
      etag := "a, b", version := none }
    (sample.fetch .empty).result (answering 200 [("etag", ["a", "b"])] crowdedBody) {} =
        some (.ok t) ∧
      (sample.fetch .empty).result (answering 204 [("x", ["y"]), ("etag", ["a, b"])] plainBody) {} =
        some (.ok t) := by
  have hcrowded : Json.parse? crowdedBody = some (.object [("etag", .string "x"),
      ("conditions", .array []), ("__proto__", .object [("version", .object [])])]) := by cbv
  have hplain : Json.parse? plainBody = some (.object [("conditions", .array [])]) := by cbv
  have hr : Brings ⟨⟨.ofNat 200, [("etag", ["a", "b"])]⟩, crowdedBody⟩
      [("ETag", "a"), ("etag", "b")] [("etag", .string "x"), ("conditions", .array []),
        ("__proto__", .object [("version", .object [])])] :=
    ⟨(FullResponse.isSuccess_ofNat 200 _ _).2 (by omega), rfl, hcrowded⟩
  have hr' : Brings ⟨⟨.ofNat 204, [("x", ["y"]), ("etag", ["a, b"])]⟩, plainBody⟩
      [("X", "y"), ("eTag", "a, b")] [("conditions", .array [])] :=
    ⟨(FullResponse.isSuccess_ofNat 204 _ _).2 (by omega), rfl, hplain⟩
  have hparts : ∀ name ∈ Template.memberNames,
      Members.get? [("etag", .string "x"), ("conditions", .array []),
        ("__proto__", .object [("version", .object [])])] name =
      Members.get? ([("conditions", .array [])] : Members Json) name :=
    Template.forall_memberNames.2 ⟨rfl, rfl, rfl, rfl⟩
  have hetag : Headers.joined? (Headers.valuesFor [("ETag", "a"), ("etag", "b")] "etag") =
      Headers.joined? (Headers.valuesFor [("X", "y"), ("eTag", "a, b")] "etag") := by
    decide +kernel
  have hmem : ⟨⟨.ofNat 200, [("etag", ["a", "b"])]⟩, crowdedBody⟩ ∈ (sample.fetch .empty).replies
      (answering 200 [("etag", ["a", "b"])] crowdedBody) {} := by
    rw [replies_sample]
    exact List.mem_singleton_self _
  have hmem' : ⟨⟨.ofNat 204, [("x", ["y"]), ("etag", ["a, b"])]⟩, plainBody⟩ ∈
      (sample.fetch .empty).replies
        (answering 204 [("x", ["y"]), ("etag", ["a, b"])] plainBody) {} := by
    rw [replies_sample]
    exact List.mem_singleton_self _
  obtain ⟨x, hx, hx', -⟩ := fetch_eq_of_parts rfl hr hr' hparts hetag hmem hmem'
  have hread : sample.read ⟨⟨.ofNat 204, [("x", ["y"]), ("etag", ["a, b"])]⟩, plainBody⟩ =
      .ok (Template.ofParts [("conditions", .array [])] "a, b") := by
    rw [read_eq_ok_iff]
    refine ⟨"a, b", _, rfl, hplain, ⟨?_, Template.forall_recordNames.2 ⟨?_, ?_, ?_⟩⟩, rfl⟩
    · rintro _ ⟨⟩
      rfl
    · rintro _ ⟨⟩
    · rintro _ ⟨⟩
    · rintro _ ⟨⟩
  rw [result_of_success hr'.status hmem', reported_ok, hread] at hx'
  obtain rfl := Option.some.inj hx'
  refine ⟨hx, ?_⟩
  rw [result_of_success hr'.status hmem', reported_ok, hread]
  rfl

end TemplateClient

end ConfigClient
