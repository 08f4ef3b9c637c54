import ConfigClient.Proofs.Failure
import ConfigClient.Proofs.HttpError.Body

/-!
# What the error for a response keeps

A response outside of 2xx becomes an error of the HTTP client. The HTTP client lets it pass, the
template client reads the response back from it and builds an error of a request on top of it.
Status, content, exit code and context stay the same all the way, and the error code is the one in
the content as it was sent.

* `ofResponse?_keeps`: the fields of the error for a response.
* `requestError_keeps`: what becomes of them in the error of a request.
* `fetch_http_error`: the result of a fetch that has read a response outside of 2xx.
-/

namespace ConfigClient

namespace HttpError

/-- The exit code for a response: 2 for a failure of the server, else 1. -/
def exitOf (n : Nat) : Nat := if 500 ≤ n then 2 else 1

/-- Whether an error is the one for a response with a whole status and a text as content: it is of
the general class and has the status, the exit code and the response, and it holds itself
nowhere. -/
structure Keeps (n : Nat) (content : Text) (e : LibraryError) : Prop where
  kind_eq : e.kind = .general
  message_text : ∃ text, e.message = .string text
  status_eq : e.status = .number (.ofNat n)
  exit_eq : e.exit = .number (.ofNat (exitOf n))
  response?_eq : e.response? = some ⟨.number (.ofNat n), .string content⟩
  context_json : ∃ j, e.context = .ofJson j

/-- The context of the error for a response is JSON if the body is a text. -/
theorem context_json (x : Double) (content t : Text) :
    let r : ResponseRecord := ⟨.number x, .string content⟩
    ∃ j, context r (body r (.string t)) = .ofJson j := by
  intro r
  obtain ⟨members, hbody, -⟩ := exists_body (record x (some content)) (.text t)
  exact ⟨.object [("body", .object members), ("response",
    .object [("statusCode", .number x), ("content", .string content)])],
    congrArg (context r) hbody⟩

theorem ofResponse?_keeps {n : Nat} (hn : ¬(200 ≤ n ∧ n ≤ 299)) (content url : Text) :
    ∃ e, ofResponse? ⟨.number (.ofNat n), .string content⟩ (.string content) url = .ok (some e) ∧
      Keeps n content e := by
  obtain ⟨text, h⟩ := ofResponse?_of_failure hn (.string content) content url
  refine ⟨_, h, rfl, ⟨text, rfl⟩, ?_, ?_, ?_, context_json (.ofNat n) content content⟩
  · exact LibraryError.settle_number (Double.ofNat_ne_nan n) _
  · exact LibraryError.settle_number (Double.ofNat_ne_nan _) _
  · exact @response?_of_context _ (.ofNat n) (some content) _ rfl

end HttpError

/-- A response that makes an error is reported as that error. -/
theorem Client.surfaced_judge {status : Double} {body : Text} {base : LibraryError}
    (h : HttpError.ofResponse? ⟨.number status, .string body⟩ (.string body) [] = .ok (some base))
    (headers : Headers) :
    surfaced (judge ⟨⟨status, headers⟩, body⟩) = .error (.library base) := by
  unfold judge FullResponse.record
  rw [h]
  rfl

namespace TemplateClient

/-- The error of a request that is built on top of the error for a response. -/
theorem requestError_keeps {n : Nat} {content : Text} {base : LibraryError}
    (h : HttpError.Keeps n content base) :
    let e := requestError (.library base)
    e.kind = .request (ErrorCode.reported (ServiceError.parse content).code) ∧
      e.message = base.message ∧ e.status = base.status ∧ e.exit = base.exit ∧
      e.context = base.context ∧ e.cause = .fault (.library base) := by
  have herror : requestError (.library base) =
      base.withCode (ErrorCode.reported (ServiceError.parse content).code) := by
    rw [requestError]
    simp only [h.response?_eq]
  obtain ⟨text, htext⟩ := h.message_text
  obtain ⟨j, hj⟩ := h.context_json
  simp only [herror]
  refine ⟨rfl, ?_, ?_, ?_, ?_, rfl⟩
  · simp only [LibraryError.withCode, LibraryError.create, htext]
    rfl
  · simp only [LibraryError.withCode, LibraryError.create, h.status_eq]
    exact LibraryError.settle_number (Double.ofNat_ne_nan n) _
  · simp only [LibraryError.withCode, LibraryError.create, h.exit_eq]
    exact LibraryError.settle_number (Double.ofNat_ne_nan _) _
  · simp only [LibraryError.withCode, LibraryError.create, hj, LibraryError.held_ofJson]

/-- The result of a fetch that has read a response with a whole status outside of 2xx: an error of a
request with the status, the exit code for it, the response itself and the code that its content
reports. The error behind it is the one that the HTTP client builds for the response; both say the
same and have the same data. -/
theorem fetch_http_error {c : TemplateClient} {env : Environment} {s : Surroundings}
    {p : Progress} {n : Nat} {headers : Headers} {body : Text} (hn : ¬(200 ≤ n ∧ n ≤ 299))
    (hmem : ⟨⟨.ofNat n, headers⟩, body⟩ ∈ (c.fetch env).replies s p) :
    ∃ e base, (c.fetch env).result s p = some (.error (.library e)) ∧
      e.kind = .request (ErrorCode.reported (ServiceError.parse body).code) ∧
      e.status = .number (.ofNat n) ∧
      e.exit = .number (.ofNat (if 500 ≤ n then 2 else 1)) ∧
      e.response? = some ⟨.number (.ofNat n), .string body⟩ ∧
      e.cause = .fault (.library base) ∧
      HttpError.ofResponse? ⟨.number (.ofNat n), .string body⟩ (.string body) [] =
        .ok (some base) ∧
      base.kind = .general ∧ base.message = e.message ∧ base.status = e.status ∧
      base.exit = e.exit ∧ base.context = e.context := by
  obtain ⟨base, hbase, keeps⟩ := HttpError.ofResponse?_keeps hn body []
  obtain ⟨text, htext⟩ := keeps.message_text
  obtain ⟨id, hid⟩ := exists_projectId_of_mem_replies hmem
  have hreported : c.reported (.error (.library base)) =
      .error (.library (requestError (.library base))) := by
    apply reported_error (t := text) hid
    rw [Fault.message, htext]
    rfl
  have hjudge := Client.surfaced_judge hbase headers
  obtain ⟨hkind, hmessage, hstatus, hexit, hcontext, hcause⟩ := requestError_keeps keeps
  have hresponse : (requestError (.library base)).response? = base.response? := by
    obtain ⟨j, hj⟩ := keeps.context_json
    rw [LibraryError.response?, LibraryError.response?, hcontext, hj, LibraryError.held_ofJson,
      LibraryError.held_ofJson]
  refine ⟨requestError (.library base), base, ?_, hkind, ?_, ?_, ?_, hcause, hbase,
    keeps.kind_eq, hmessage.symm, hstatus.symm, hexit.symm, hcontext.symm⟩
  · rw [result_of_mem_replies hmem, hjudge, hreported]
  · rw [hstatus, keeps.status_eq]
  · rw [hexit, keeps.exit_eq, HttpError.exitOf]
  · rw [hresponse, keeps.response?_eq]

/-- A body that reports an internal error. -/
def internalBody : Text :=
  "\x7b\"error\":\x7b\"details\":[\x7b" ++
    "\"@type\":\"type.googleapis.com/google.firebase.fcm.v1.FcmError\"," ++
    "\"errorCode\":\"INTERNAL\"\x7d]\x7d\x7d"

theorem fetch_http_error_of_internal :
    ∃ e, (sample.fetch .empty).result (answering 503 [] internalBody) {} =
        some (.error (.library e)) ∧
      e.kind = .request (.string "INTERNAL") ∧ e.status = .number (.ofNat 503) ∧
      e.exit = .number (.ofNat 2) ∧
      e.response? = some ⟨.number (.ofNat 503), .string internalBody⟩ := by
  have hmem : ⟨⟨.ofNat 503, []⟩, internalBody⟩ ∈
      (sample.fetch .empty).replies (answering 503 [] internalBody) {} := by
    rw [replies_sample]
    exact List.mem_singleton_self _
  have hcode : (ServiceError.parse internalBody).code = some .internal := by decide +kernel
  obtain ⟨e, base, hresult, hkind, hstatus, hexit, hresponse, -⟩ :=
    fetch_http_error (n := 503) (by omega) hmem
  rw [hcode] at hkind
  exact ⟨e, hresult, hkind, hstatus, hexit, hresponse⟩

end TemplateClient

end ConfigClient
