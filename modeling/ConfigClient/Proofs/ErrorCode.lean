import ConfigClient.Proofs.HttpFailure

/-!
# Where an error code comes from

The code of a failure is read from the response that the error behind it holds. The client itself
puts a response into an error only if it has read it in full. An error with which the credential
rejects is taken as it comes, so a response that stands in it counts as well, although the service
has sent none.

* `heldContent`: the content of the response that a fault holds.
* `Supplies`: the two sources of a code.
* `fetch_code_source`: every code of a failed fetch comes from one of them.
* `fetch_code_of_credential`: a failure without any request that has a code.
-/

namespace ConfigClient

/-- The error for a response holds the response. -/
theorem HttpError.context_of_ofResponse? {r : ResponseRecord} {content : Value} {url : Text}
    {e : LibraryError} (h : ofResponse? r content url = .ok (some e)) :
    e.context = context r (body r content) := by
  unfold ofResponse? at h
  cases hsuccess : r.isSuccess with
  | error f =>
    rw [hsuccess] at h
    cases h
  | ok success =>
    rw [hsuccess] at h
    cases success with
    | true => cases h
    | false =>
      simp only [bind, Except.bind, Bool.false_eq_true, ite_false] at h
      split at h
      · cases h
      · split at h
        · cases h
        · split at h
          · cases h
          · cases h
            rfl

namespace TemplateClient

/-! ## Held responses -/

/-- The content of the response that a fault holds, empty if it holds none. -/
def heldContent : Fault → Text
  | .library e =>
    match e.response? with
    | some ⟨_, .string content⟩ => content
    | _ => []
  | _ => []

/-- The code that a fault brings to the error of the request. -/
def heldCode (f : Fault) : Option ErrorCode := (ServiceError.parse (heldContent f)).code

theorem code_requestError (f : Fault) :
    (requestError f).code = ErrorCode.reported (heldCode f) := by
  cases f <;> rfl

theorem heldCode_of_context {e : LibraryError} (h : e.context = .undefined) :
    heldCode (.library e) = none := by
  have hresponse : e.response? = none := by
    rw [LibraryError.response?, h]
    rfl
  rw [heldCode, heldContent, hresponse]
  rfl

theorem heldCode_surface_platform (e : PlatformError) :
    heldCode (Client.surface (.fault (.platform e))) = none := heldCode_of_context rfl

theorem heldCode_surface_explanation (url : Text) (thrown : Value) :
    heldCode (Client.surface (Client.explanation url thrown)) = none := by
  unfold Client.explanation
  cases Client.identify thrown with
  | error e => exact heldCode_surface_platform e
  | ok x => exact heldCode_of_context rfl

/-- An error that holds a response with a text holds it for its code. -/
theorem heldCode_of_response {e : LibraryError} {status : Double} {content : Text}
    {members : Members Value}
    (h : e.context = HttpError.context ⟨.number status, .string content⟩ members) :
    heldCode (.library e) = (ServiceError.parse content).code := by
  have hresponse : e.response? = some ⟨.number status, .string content⟩ :=
    @HttpError.response?_of_context e status (some content) members h
  rw [heldCode, heldContent, hresponse]

/-- A code for a response that was read is the one in the body of that response. -/
theorem heldCode_judge {reply : FullResponse} {v : Value} {known : ErrorCode}
    (h : Client.judge reply = .error v) (hcode : heldCode (Client.surface v) = some known) :
    (ServiceError.parse reply.body).code = some known := by
  unfold Client.judge at h
  split at h
  · cases h
  · rename_i e he
    cases h
    rw [← heldCode_of_response (HttpError.context_of_ofResponse? he)]
    exact hcode
  · rename_i e he
    cases h
    rw [heldCode_surface_platform] at hcode
    cases hcode

/-! ## Sources -/

/-- Where a code can come from, with the requests and responses of a fetch. -/
inductive Supplies (s : Surroundings) (known : ErrorCode) :
    List Request → List FullResponse → Prop
  /-- The service has answered the one request, and the code is in the body of its response. -/
  | service {r : Request} {reply : FullResponse}
    (hstatus : ¬reply.IsSuccess)
    (hcode : (ServiceError.parse reply.body).code = some known) : Supplies s known [r] [reply]
  /-- Nothing was sent, and the code is in a response that the error of the credential holds. -/
  | credential {base : LibraryError} (htoken : s.token = .error (.library base))
    (hcode : heldCode (.library base) = some known) : Supplies s known [] []

theorem heldCode_of_code {f : Fault} {e : LibraryError} {c : TemplateClient}
    (h : c.reported (.error f) = .error (.library e)) (hcode : e.code ≠ .undefined) :
    ∃ known, e.code = .string known.text ∧ heldCode f = some known := by
  cases hline : c.failureLine f with
  | error error =>
    simp only [reported, hline] at h
    cases h
  | ok line =>
    simp only [reported, hline] at h
    cases h
    rw [code_requestError] at hcode ⊢
    cases hheld : heldCode f with
    | none =>
      rw [hheld] at hcode
      exact absurd rfl hcode
    | some known => exact ⟨known, rfl, rfl⟩

/-- A response in 2xx makes no error with a code. -/
theorem code_of_reported_ok {c : TemplateClient} {id : Text} (hid : c.projectId.text = .ok id)
    {reply : FullResponse} {e : LibraryError}
    (h : c.reported (.ok reply) = .error (.library e)) : e.code = .undefined := by
  obtain ⟨e', he, hrefuses⟩ := (read_eq_error_iff hid reply (.library e)).1 h
  cases he
  cases hrefuses <;> rfl

theorem supplies_of_refusal {s : Surroundings} {f : Fault} {known : ErrorCode}
    (h : Client.Refusal s f) (hcode : heldCode f = some known) : Supplies s known [] [] := by
  cases h with
  | platform e => cases hcode
  | noToken =>
    rw [heldCode_of_context rfl] at hcode
    cases hcode
  | credential htoken =>
    cases f with
    | library base => exact .credential htoken hcode
    | _ => cases hcode

/-- The code of a failed fetch is a known one. It is in the body of a response outside of 2xx that
the fetch has read, or nothing was sent and it is in a response that the error of the credential
holds. -/
theorem fetch_code_source {c : TemplateClient} {env : Environment} {s : Surroundings}
    {p : Progress} {e : LibraryError} (h : (c.fetch env).result s p = some (.error (.library e)))
    (hcode : e.code ≠ .undefined) :
    ∃ known, e.code = .string known.text ∧
      Supplies s known ((c.fetch env).requests s p) ((c.fetch env).replies s p) := by
  have hexists : ∃ path, c.path = .ok path := by
    cases hpath : c.path with
    | error error =>
      rw [fetch_of_path_error hpath] at h
      cases h
    | ok path => exact ⟨path, rfl⟩
  obtain ⟨path, hpath⟩ := hexists
  obtain ⟨id, hid⟩ := projectId_of_path hpath
  obtain ⟨hrequests, hreplies, -, hresult⟩ := observe_fetch c env s p
  have course := request_course hpath env s p
  simp only at course
  rw [hresult] at h
  rw [hrequests, hreplies]
  generalize (c.request env).requests s p = requests at *
  generalize (c.request env).messages s p = messages at *
  generalize (c.request env).replies s p = replies at *
  generalize (c.request env).result s p = result at *
  cases course with
  | refused hrefusal =>
    obtain ⟨known, hknown, hheld⟩ := heldCode_of_code (Option.some.inj h) hcode
    exact ⟨known, hknown, supplies_of_refusal hrefusal hheld⟩
  | untimed error =>
    obtain ⟨known, -, hheld⟩ := heldCode_of_code (Option.some.inj h) hcode
    rw [heldCode_surface_platform] at hheld
    cases hheld
  | sent r ending hurl =>
    rcases ending with _ | thrown | reply
    · cases h
    · obtain ⟨known, -, hheld⟩ := heldCode_of_code (Option.some.inj h) hcode
      rw [heldCode_surface_explanation] at hheld
      cases hheld
    · have h : c.reported (Client.surfaced (Client.judge reply)) = .error (.library e) :=
        Option.some.inj h
      rcases Client.judge_cases reply with ⟨hjudge, -⟩ | ⟨hstatus, v, hjudge, -⟩
      · rw [hjudge] at h
        exact absurd (code_of_reported_ok hid h) hcode
      · rw [hjudge] at h
        obtain ⟨known, hknown, hheld⟩ := heldCode_of_code h hcode
        exact ⟨known, hknown, .service hstatus (heldCode_judge hjudge hheld)⟩

/-- A failure whose code the service has sent. -/
theorem fetch_code_source_internal :
    ∃ e, (sample.fetch .empty).result (answering 503 [] internalBody) {} =
        some (.error (.library e)) ∧
      e.code ≠ .undefined ∧ ∃ known, e.code = .string known.text ∧
        Supplies (answering 503 [] internalBody) known
          ((sample.fetch .empty).requests (answering 503 [] internalBody) {})
          ((sample.fetch .empty).replies (answering 503 [] internalBody) {}) := by
  have hmem : ⟨⟨.ofNat 503, []⟩, internalBody⟩ ∈
      (sample.fetch .empty).replies (answering 503 [] internalBody) {} := by
    rw [replies_sample]
    exact List.mem_singleton_self _
  obtain ⟨base, hbase, keeps⟩ :=
    HttpError.ofResponse?_keeps (n := 503) (by omega) internalBody []
  obtain ⟨text, htext⟩ := keeps.message_text
  have hresult : (sample.fetch .empty).result (answering 503 [] internalBody) {} =
      some (.error (.library (requestError (.library base)))) := by
    rw [result_of_mem_replies hmem, Client.surfaced_judge hbase []]
    exact congrArg some
      (reported_error (t := text) projectId_sample (by rw [Fault.message, htext]; rfl))
  have hheld : heldCode (.library base) = some .internal := by
    rw [heldCode, heldContent, keeps.response?_eq]
    decide +kernel
  have hcode : (requestError (.library base)).code ≠ .undefined := by
    rw [code_requestError, hheld]
    rintro ⟨⟩
  exact ⟨_, hresult, hcode, fetch_code_source hresult hcode⟩

/-- An error that the service had no part in and that holds a response all the same. -/
def forgedError : LibraryError := .raise "m" {
  context := .object [("response", .object [("statusCode", .number (.ofNat 500)),
    ("content", .string internalBody)])] }

/-- The surroundings in which the credential rejects with such an error. -/
def forging : Surroundings where
  token := .error (.library forgedError)
  project := .ok .undefined
  outcome _ := .hangs

/-- A failure has a code although nothing was sent and so no response was read. -/
theorem fetch_code_of_credential :
    ∃ e, (sample.fetch .empty).result forging {} = some (.error (.library e)) ∧
      e.code = .string "INTERNAL" ∧ (sample.fetch .empty).requests forging {} = [] ∧
      (sample.fetch .empty).replies forging {} = [] := by
  have hheld : heldCode (.library forgedError) = some .internal := by
    change (ServiceError.parse internalBody).code = some .internal
    decide +kernel
  have hx : (sample.request .empty).result forging {} = some (.error (.library forgedError)) := rfl
  have hreported : sample.reported (.error (.library forgedError)) =
      .error (.library (requestError (.library forgedError))) :=
    reported_error (t := "m") projectId_sample rfl
  refine ⟨requestError (.library forgedError), ?_, ?_, rfl, rfl⟩
  · rw [(observe_fetch sample .empty forging {}).2.2.2, hx, Option.map_some, hreported]
  · rw [code_requestError, hheld]
    rfl

end TemplateClient

end ConfigClient
