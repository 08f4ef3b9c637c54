import ConfigClient.HttpError
import ConfigClient.Proofs.Json.WellFormed

/-!
# Reading error responses

A description that the service writes as JSON is read as it was meant: status and message are the
texts under these names, and the code is that of the first detail of the type that carries codes,
whatever stands before and behind it.

* `IsCoded`: a detail of the type that carries error codes.
* `code_eq_some_iff`: the code of a description, by its details.
* `parse_render`: a value that was written as JSON is read as the description that it is.
* `parse_render_agrees`: status, message and code of a value that was written as JSON.
-/

namespace ConfigClient

theorem ErrorCode.ofText?_eq_some_iff {t : Text} {code : ErrorCode} :
    ErrorCode.ofText? t = some code ↔ t = code.text := by
  cases code
  rw [ofText?, all, List.find?_singleton]
  split_ifs with h
  · exact ⟨fun _ => (beq_iff_eq.1 h).symm, fun _ => rfl⟩
  · exact ⟨nofun, fun ht => absurd (beq_iff_eq.2 ht.symm) h⟩

namespace ServiceError

open Json

/-! ## Fields -/

theorem textOf_eq_some_iff {members : Members Json} {key t : Text} :
    textOf members key = some t ↔ Members.get? members key = some (.string t) := by
  unfold textOf
  split
  · rename_i u hu
    rw [hu]
    simp
  · rename_i hother
    exact ⟨nofun, fun h => absurd h (hother t)⟩

/-- Whether a detail is of the type that carries error codes. -/
def IsCoded (detail : Json) : Prop := detail.field? "@type" = some (.string detailType)

theorem isCoded_object {members : Members Json} :
    IsCoded (.object members) ↔ textOf members "@type" = some detailType :=
  textOf_eq_some_iff.symm

theorem coded?_eq_some_iff {detail : Json} {members : Members Json} :
    coded? detail = some members ↔ detail = .object members ∧ IsCoded detail := by
  cases detail with
  | object own =>
    rw [coded?, isCoded_object]
    split_ifs with htype <;> simp [htype]
  | _ => exact ⟨nofun, nofun⟩

theorem coded?_eq_none_iff {detail : Json} : coded? detail = none ↔ ¬IsCoded detail := by
  cases detail with
  | object own =>
    rw [coded?, isCoded_object]
    split_ifs with htype <;> simp [htype]
  | _ => exact ⟨fun _ => nofun, fun _ => rfl⟩

/-- The code of a description is that of the first detail that is of the type for codes. -/
theorem code_eq_some_iff {e : ServiceError} {code : ErrorCode} :
    e.code = some code ↔ ∃ before detail after,
      Members.get? e.entries "details" = some (.array (before ++ detail :: after)) ∧
      (∀ d ∈ before, ¬IsCoded d) ∧ IsCoded detail ∧
      detail.field? "errorCode" = some (.string code.text) := by
  have hread (members : Members Json) :
      ((textOf members "errorCode").bind ErrorCode.ofText? = some code) ↔
        Members.get? members "errorCode" = some (.string code.text) := by
    simp only [Option.bind_eq_some_iff, ErrorCode.ofText?_eq_some_iff, exists_eq_right,
      textOf_eq_some_iff]
  unfold ServiceError.code
  split
  · rename_i details hdetails
    simp only [hdetails, Option.some.injEq, Json.array.injEq]
    rw [Option.bind_eq_some_iff]
    constructor
    · rintro ⟨members, hfound, hcode⟩
      obtain ⟨before, detail, after, rfl, hdetail, hbefore⟩ := List.findSome?_eq_some_iff.1 hfound
      obtain ⟨rfl, hcoded⟩ := coded?_eq_some_iff.1 hdetail
      exact ⟨before, _, after, rfl, fun d hd => coded?_eq_none_iff.1 (hbefore d hd), hcoded,
        (hread members).1 hcode⟩
    · rintro ⟨before, detail, after, rfl, hbefore, hcoded, hcode⟩
      cases detail with
      | object members =>
        refine ⟨members, List.findSome?_eq_some_iff.2 ⟨before, _, after, rfl, ?_, ?_⟩,
          (hread members).2 hcode⟩
        · exact coded?_eq_some_iff.2 ⟨rfl, hcoded⟩
        · exact fun d hd => coded?_eq_none_iff.2 (hbefore d hd)
      | _ => cases hcoded
  · rename_i hother
    refine ⟨nofun, ?_⟩
    rintro ⟨before, detail, after, hdetails, -⟩
    exact absurd hdetails (hother _)

/-! ## Signs of zeros -/

theorem textOf_plainMembers (members : Members Json) (key : Text) :
    textOf (plainMembers members) key = textOf members key := by
  refine Option.ext fun t => ?_
  rw [textOf_eq_some_iff, textOf_eq_some_iff, get?_plainMembers, map_plain_eq_string_iff]

theorem coded?_plain (detail : Json) :
    coded? (plain detail) = (coded? detail).map plainMembers := by
  cases detail with
  | object members =>
    simp only [plain, coded?, textOf_plainMembers]
    split_ifs <;> rfl
  | _ => rfl

/-- The signs of zeros do not matter for the code. -/
theorem code_plainMembers (entries : Members Json) :
    code ⟨plainMembers entries⟩ = code ⟨entries⟩ := by
  unfold code
  simp only [get?_plainMembers]
  cases Members.get? entries "details" with
  | none => rfl
  | some value =>
    cases value with
    | array details =>
      have hfound : (plainItems details).findSome? coded? =
          (details.findSome? coded?).map plainMembers := by
        rw [plainItems_eq_map, List.findSome?_map, List.map_findSome?]
        congr 1
        funext detail
        exact coded?_plain detail
      simp only [Option.map_some, plain, hfound]
      cases details.findSome? coded? with
      | none => rfl
      | some members => simp only [Option.map_some, Option.bind_some, textOf_plainMembers]
    | _ => rfl

/-! ## Written descriptions -/

theorem ofJson_plain (x : Json) : ofJson (plain x) = ⟨plainMembers (ofJson x).entries⟩ := by
  cases x with
  | object members =>
    simp only [plain, ofJson, get?_plainMembers]
    cases Members.get? members "error" with
    | none => rfl
    | some value => cases value <;> rfl
  | _ => rfl

/-- A value that was written as JSON is read as the description that it is. -/
theorem parse_render {x : Json} (hx : x.WellFormed) :
    (parse x.render).status = (ofJson x).status ∧
      (parse x.render).message = (ofJson x).message ∧
      (parse x.render).code = (ofJson x).code := by
  have hparse : parse x.render = ⟨plainMembers (ofJson x).entries⟩ := by
    rw [parse, parse?_render_of_wellFormed hx]
    exact ofJson_plain x
  rw [hparse]
  exact ⟨textOf_plainMembers .., textOf_plainMembers .., code_plainMembers _⟩

theorem ofJson_of_field? {x : Json} {entries : Members Json}
    (h : x.field? "error" = some (.object entries)) : ofJson x = ⟨entries⟩ := by
  cases x with
  | object members =>
    have hget : Members.get? members "error" = some (.object entries) := h
    rw [ofJson, hget]
  | _ => cases h

theorem ofJson_of_no_error {x : Json}
    (h : ∀ entries, x.field? "error" ≠ some (.object entries)) : ofJson x = ⟨[]⟩ := by
  cases x with
  | object members =>
    rw [ofJson]
    split
    · rename_i entries hget
      exact absurd hget (h entries)
    · rfl
  | _ => rfl

theorem message_parse_eq_some_iff {content m : Text} :
    (parse content).message = some m ↔ ∃ x entries, parse? content = some x ∧
      x.field? "error" = some (.object entries) ∧
      Members.get? entries "message" = some (.string m) := by
  constructor
  · intro h
    cases hx : parse? content with
    | none =>
      rw [parse, hx] at h
      cases h
    | some x =>
      rw [parse, hx] at h
      by_cases herror : ∃ entries, x.field? "error" = some (.object entries)
      · obtain ⟨entries, hentries⟩ := herror
        simp only [ofJson_of_field? hentries] at h
        exact ⟨x, entries, rfl, hentries, textOf_eq_some_iff.1 h⟩
      · simp only [ofJson_of_no_error (not_exists.1 herror)] at h
        cases h
  · rintro ⟨x, entries, hx, hentries, hm⟩
    rw [parse, hx]
    simp only [ofJson_of_field? hentries]
    exact textOf_eq_some_iff.2 hm

/-- A value that was written as JSON and is read as an error response. If it has an object `error`,
status and message are the texts under these names in it, and the code is known if and only if the
first of the details that is of the type for codes has it. Otherwise nothing is known. -/
theorem parse_render_agrees {x : Json} (hx : x.WellFormed) :
    (∀ entries, x.field? "error" = some (.object entries) →
      (∀ t, (parse x.render).status = some t ↔
        Members.get? entries "status" = some (.string t)) ∧
      (∀ t, (parse x.render).message = some t ↔
        Members.get? entries "message" = some (.string t)) ∧
      (∀ code, (parse x.render).code = some code ↔ code = .internal ∧ ∃ before detail after,
        Members.get? entries "details" = some (.array (before ++ detail :: after)) ∧
        (∀ d ∈ before, ¬IsCoded d) ∧ IsCoded detail ∧
        detail.field? "errorCode" = some (.string "INTERNAL"))) ∧
    ((∀ entries, x.field? "error" ≠ some (.object entries)) →
      (parse x.render).status = none ∧ (parse x.render).message = none ∧
        (parse x.render).code = none) := by
  obtain ⟨hstatus, hmessage, hcode⟩ := parse_render hx
  rw [hstatus, hmessage, hcode]
  constructor
  · intro entries hentries
    rw [ofJson_of_field? hentries]
    refine ⟨fun t => textOf_eq_some_iff, fun t => textOf_eq_some_iff, fun code => ?_⟩
    cases code
    rw [code_eq_some_iff]
    simp only [true_and]
    rfl
  · intro hnone
    rw [ofJson_of_no_error hnone]
    exact ⟨rfl, rfl, rfl⟩

/-- A detail with a type and an error code. -/
def detailOf (type code : Text) : Json :=
  .object [("@type", .string type), ("errorCode", .string code)]

/-- An error response with details that carry no code before the first one that does, and one that
does not count behind it. -/
def crowdedError : Json :=
  .object [("error", .object [("status", .string []), ("code", .number (.ofUnits true 0)),
    ("details", .array [.null, .array [], detailOf "other" "INTERNAL",
      detailOf detailType "INTERNAL", detailOf detailType "UNKNOWN"])])]

theorem wellFormed_detailOf (type code : Text) : (detailOf type code).WellFormed := by
  have htype : arrayIndex? "@type" = none := by decide
  have hcode : arrayIndex? "errorCode" = none := by decide
  have hnames :
      Members.Ordered [(("@type" : Text), Json.string type), ("errorCode", .string code)] :=
    Members.ordered_of_names (by simp only [List.map_cons, List.map_nil]; decide)
      (List.forall_mem_cons.2 ⟨htype, List.forall_mem_singleton.2 hcode⟩)
  refine .object hnames ?_
  simp only [List.forall_mem_cons]
  exact ⟨.string _, .string _, nofun⟩

theorem parse_render_agrees_crowded :
    crowdedError.WellFormed ∧ (parse crowdedError.render).status = some [] ∧
      (parse crowdedError.render).message = none ∧
      (parse crowdedError.render).code = some .internal := by
  have hdetails : ∀ d ∈ [Json.null, .array [], detailOf "other" "INTERNAL",
      detailOf detailType "INTERNAL", detailOf detailType "UNKNOWN"], d.WellFormed := by
    simp only [List.forall_mem_cons]
    exact ⟨.null, .array nofun, wellFormed_detailOf _ _, wellFormed_detailOf _ _,
      wellFormed_detailOf _ _, nofun⟩
  have hx : crowdedError.WellFormed := by
    refine .object (by decide) (List.forall_mem_singleton.2 (.object (by decide) ?_))
    simp only [List.forall_mem_cons]
    exact ⟨.string _, .number rfl, .array hdetails, nofun⟩
  obtain ⟨hstatus, hmessage, hcode⟩ := (parse_render_agrees hx).1 _ rfl
  have hother : ¬IsCoded (detailOf "other" "INTERNAL") := isCoded_object.not.2 (by decide)
  refine ⟨hx, (hstatus []).2 rfl, Option.eq_none_iff_forall_ne_some.2 ?_, (hcode .internal).2 ?_⟩
  · intro t ht
    cases (hmessage t).1 ht
  · refine ⟨rfl, [.null, .array [], detailOf "other" "INTERNAL"], detailOf detailType "INTERNAL",
      [detailOf detailType "UNKNOWN"], rfl, ?_, rfl, rfl⟩
    simp only [List.forall_mem_cons]
    exact ⟨nofun, nofun, hother, nofun⟩

end ServiceError

end ConfigClient
