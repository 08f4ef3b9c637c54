import ConfigClient.Proofs.Exchange
import ConfigClient.Proofs.HttpError
import ConfigClient.TemplateClient

/-!
# The course of a fetch

A fetch is one request of the HTTP client and a report on its outcome that has no traffic.

* `Fault.IsRaised`: errors of the general class with a text, as all faults of a sent request are.
* `judge_cases`: what becomes of a response that was read.
* `observe_fetch`, `request_course`: a fetch in terms of its request.
* `fetch_cases`: the two ways that a fetch can take.
* `result_of_mem_replies`: the result of a fetch that has read a response.
* `observe_fetch_of_answered`: a fetch that can be prepared and is answered reads the response.
-/

namespace ConfigClient

/-! ## Errors that the library raises itself -/

/-- Whether a fault is an error of the general kind with a text as its message. -/
def Fault.IsRaised (f : Fault) : Prop := ∃ message options, f = .library (.raise message options)

/-- Whether a response that was read has a status in 2xx. -/
def FullResponse.IsSuccess (reply : FullResponse) : Prop :=
  (Value.number reply.response.status).IsSuccessStatus

theorem FullResponse.isSuccess_ofNat (n : Nat) (headers : Headers) (body : Text) :
    IsSuccess ⟨⟨.ofNat n, headers⟩, body⟩ ↔ 200 ≤ n ∧ n ≤ 299 := Value.isSuccessStatus_ofNat n

namespace Client

theorem isRaised_surface_platform (e : PlatformError) :
    (surface (.fault (.platform e))).IsRaised := ⟨_, _, rfl⟩

/-- A response that was read is taken as it is if its status is in 2xx, and is an error
otherwise. -/
theorem judge_cases (reply : FullResponse) :
    (judge reply = .ok reply ∧ reply.IsSuccess) ∨
      ¬reply.IsSuccess ∧ ∃ v, judge reply = .error v ∧ (surface v).IsRaised := by
  unfold judge
  rcases HttpError.ofResponse?_cases reply.record (.string reply.body) [] with
    ⟨h, hs⟩ | ⟨hs, ⟨message, options, h⟩ | ⟨e, h⟩⟩
  · rw [h]
    exact .inl ⟨rfl, hs⟩
  · rw [h]
    exact .inr ⟨hs, _, rfl, message, options, rfl⟩
  · rw [h]
    exact .inr ⟨hs, _, rfl, isRaised_surface_platform e⟩

end Client

namespace TemplateClient

/-! ## From the request to the template -/

/-- What follows the request. -/
def report (c : TemplateClient) : Except Fault FullResponse → Attempt Template
  | .error f =>
    Attempt.andThen (Attempt.ofExcept (c.failureLine f)) fun line =>
      Attempt.afterLog line (Attempt.raise (requestError f))
  | .ok reply => .done (c.read reply)

/-- What is made of the outcome of the request. -/
def reported (c : TemplateClient) : Except Fault FullResponse → Except Fault Template
  | .error f =>
    match c.failureLine f with
    | .error e => .error (.platform e)
    | .ok _ => .error (.library (requestError f))
  | .ok reply => c.read reply

/-- What is logged about the outcome of the request. -/
def reportTrail (c : TemplateClient) : Except Fault FullResponse → List Text
  | .error f => (c.failureLine f).toOption.toList
  | .ok _ => []

theorem reported_ok (c : TemplateClient) (reply : FullResponse) :
    c.reported (.ok reply) = c.read reply := rfl

theorem settles_report (c : TemplateClient) (x : Except Fault FullResponse) :
    (c.report x).Settles (c.reportTrail x) (c.reported x) := by
  cases x with
  | error f =>
    simp only [report, reported, reportTrail]
    cases c.failureLine f with
    | error e => exact Interaction.settles_done _
    | ok line => exact (Interaction.settles_log _).bind (Interaction.settles_done _)
  | ok reply => exact Interaction.settles_done _

theorem fetch_eq (c : TemplateClient) (env : Environment) :
    c.fetch env = (c.request env).bind c.report := rfl

theorem path_of_projectId {c : TemplateClient} {id : Text} (h : c.projectId.text = .ok id) :
    c.path = .ok ("/projects/" ++ id ++ "/remoteConfig") := by
  rw [path, h]
  rfl

/-- A project with a path has a text. -/
theorem projectId_of_path {c : TemplateClient} {path : Text} (h : c.path = .ok path) :
    ∃ id, c.projectId.text = .ok id := by
  cases hid : c.projectId.text with
  | ok id => exact ⟨id, rfl⟩
  | error e =>
    rw [TemplateClient.path, hid] at h
    cases h

/-- A project without a text is not requested, and its failure is not reported either. -/
theorem fetch_of_path_error {c : TemplateClient} {e : PlatformError} (h : c.path = .error e)
    (env : Environment) : c.fetch env = .done (.error (.platform e)) := by
  have hid : c.projectId.text = .error e := by
    cases ht : c.projectId.text with
    | error e' =>
      rw [path, ht] at h
      cases h
      rfl
    | ok id =>
      rw [path_of_projectId ht] at h
      cases h
  have hline : c.failureLine (.platform e) = .error e := by
    rw [failureLine, hid]
    rfl
  have hrequest : c.request env = Attempt.fail (.platform e) := by
    rw [request, h]
    rfl
  rw [fetch_eq, hrequest, Attempt.fail, Interaction.bind, report, hline]
  rfl

theorem request_of_path {c : TemplateClient} {path : Text} (h : c.path = .ok path)
    (env : Environment) : c.request env = c.http.get env (.ok path) commonHeaders c.timeout := by
  rw [request, h]
  rfl

theorem request_course {c : TemplateClient} {path : Text} (h : c.path = .ok path)
    (env : Environment) (s : Surroundings) (p : Progress) :
    let i := c.request env
    Client.Course s (c.http.url path) (i.requests s p) (i.messages s p) (i.replies s p)
      (i.result s p) := by
  rw [request_of_path h]
  exact Client.get_course ..

/-- A fetch has the traffic of its request, and its result is made of that of the request. -/
theorem observe_fetch (c : TemplateClient) (env : Environment) (s : Surroundings)
    (p : Progress) :
    (c.fetch env).requests s p = (c.request env).requests s p ∧
      (c.fetch env).replies s p = (c.request env).replies s p ∧
      (c.fetch env).messages s p =
        (c.request env).messages s p ++ ((c.request env).result s p).elim [] c.reportTrail ∧
      (c.fetch env).result s p = ((c.request env).result s p).map c.reported := by
  rw [fetch_eq]
  exact Interaction.observe_bind_of_settles c.settles_report s p

/-- The ways that a fetch can take: the project has no text, or nothing is sent and it fails, or it
sends one request and its result is made of how that ends. -/
theorem fetch_cases (c : TemplateClient) (env : Environment) (s : Surroundings) (p : Progress) :
    (∃ e, c.path = .error e ∧ (c.fetch env).requests s p = [] ∧ (c.fetch env).replies s p = [] ∧
      (c.fetch env).result s p = some (.error (.platform e))) ∨
    ∃ path, c.path = .ok path ∧
      ((∃ f, (c.fetch env).requests s p = [] ∧ (c.fetch env).replies s p = [] ∧
        (c.fetch env).result s p = some (c.reported (.error f)) ∧
        (Client.Refusal s f ∨ f.IsRaised)) ∨
      ∃ r ending, r.url = c.http.url path ∧ (c.fetch env).requests s p = [r] ∧
        (c.fetch env).replies s p = Client.repliesOf ending ∧
        (c.fetch env).result s p = ending.map fun x =>
          c.reported (Client.surfaced (Client.conclusion (c.http.url path) x))) := by
  cases hpath : c.path with
  | error e =>
    rw [fetch_of_path_error hpath]
    exact .inl ⟨e, rfl, rfl, rfl, rfl⟩
  | ok path =>
    refine .inr ⟨path, rfl, ?_⟩
    obtain ⟨hrequests, hreplies, -, hresult⟩ := observe_fetch c env s p
    have course := request_course hpath env s p
    simp only at course
    rw [hrequests, hreplies, hresult]
    generalize (c.request env).requests s p = requests at *
    generalize (c.request env).messages s p = messages at *
    generalize (c.request env).replies s p = replies at *
    generalize (c.request env).result s p = result at *
    cases course with
    | refused h => exact .inl ⟨_, rfl, rfl, rfl, .inl h⟩
    | untimed e => exact .inl ⟨_, rfl, rfl, rfl, .inr (Client.isRaised_surface_platform e)⟩
    | sent r ending hurl => exact .inr ⟨r, ending, hurl, rfl, rfl, Option.map_map ..⟩

/-! ## A response that was read -/

/-- A fetch that has read a response is one for a project that has a text. -/
theorem exists_projectId_of_mem_replies {c : TemplateClient} {env : Environment}
    {s : Surroundings} {p : Progress} {reply : FullResponse}
    (h : reply ∈ (c.fetch env).replies s p) : ∃ id, c.projectId.text = .ok id := by
  rcases fetch_cases c env s p with ⟨e, -, -, hreplies, -⟩ | ⟨path, hpath, -⟩
  · rw [hreplies] at h
    cases h
  · exact projectId_of_path hpath

/-- The result of a fetch that has read a response. -/
theorem result_of_mem_replies {c : TemplateClient} {env : Environment} {s : Surroundings}
    {p : Progress} {reply : FullResponse} (h : reply ∈ (c.fetch env).replies s p) :
    (c.fetch env).result s p =
      some (c.reported (Client.surfaced (Client.judge reply))) := by
  rcases fetch_cases c env s p with
    ⟨e, -, -, hreplies, -⟩ | ⟨path, -, ⟨f, -, hreplies, -⟩ | ⟨r, ending, -, -, hreplies, hresult⟩⟩
  · rw [hreplies] at h
    cases h
  · rw [hreplies] at h
    cases h
  · rw [hreplies] at h
    rcases ending with _ | thrown | reply'
    · cases h
    · cases h
    · rw [hresult, List.mem_singleton.1 h]
      rfl

/-- A fetch that can be prepared and that is answered reads the response. -/
theorem observe_fetch_of_answered {c : TemplateClient} {s : Surroundings} {p q : Progress}
    {h : Headers} {timed : Bool} {response : Response} {path body : Text}
    (hpath : c.path = .ok path) (hp : (c.http.prepare commonHeaders).run s p = some (.ok h, q))
    (ht : Client.isTimed c.timeout = .ok timed)
    (hs : s.outcome p.requests.length = .responds response (.text body)) (env : Environment) :
    (c.fetch env).requests s p =
        [⟨c.http.url path, h, Service.usesProxy env, Client.timer s p timed⟩] ∧
      (c.fetch env).replies s p = [⟨response, body⟩] := by
  obtain ⟨hrequests, hreplies, -, -⟩ := observe_fetch c env s p
  obtain ⟨t1, t2, -⟩ := Client.observe_get_of_prepared hp ht env path
  rw [hs] at t2
  rw [hrequests, hreplies, request_of_path hpath, t1, t2]
  exact ⟨rfl, rfl⟩

/-! ## A sample -/

/-- A client without a time limit. Its origin has a scheme that asks for no host. -/
def sample : TemplateClient := ⟨.string "p", "local:", .given false, .undefined⟩

theorem projectId_sample : sample.projectId.text = .ok "p" := rfl

/-- The surroundings in which every request of the sample is answered alike. -/
def answering (status : Nat) (headers : Headers) (body : Text) : Surroundings where
  token := .ok (.string "token")
  project := .ok .undefined
  outcome _ := .responds ⟨.ofNat status, headers⟩ (.text body)

theorem prepare_sample (status : Nat) (headers : Headers) (body : Text) :
    ∃ h q, (sample.http.prepare commonHeaders).run (answering status headers body) {} =
      some (.ok h, q) :=
  ⟨_, _, rfl⟩

theorem replies_sample (status : Nat) (headers : Headers) (body : Text) :
    (sample.fetch .empty).replies (answering status headers body) {} =
      [⟨⟨.ofNat status, headers⟩, body⟩] := by
  obtain ⟨h, q, hp⟩ := prepare_sample status headers body
  exact (observe_fetch_of_answered rfl hp rfl rfl .empty).2

end TemplateClient

end ConfigClient
