import ConfigClient.Proofs.History
import Mathlib.Tactic.SplitIfs

/-!
# The course of a request

A call of the HTTP client prepares its headers and its token, without any traffic, and then sends
one request. All that can be seen of the call follows from how that request ends: what is read, what
is logged and what the result is.

* `Outcome.ending`, `observe_transfer`: how a request ends.
* `observe_exchange`: a request with its timer and its messages.
* `Prepares`, `prepares_prepare`: what comes before the request.
* `Course`, `get_course`: what can be seen of a whole call.
* `observe_get_of_prepared`: a call for which everything is prepared sends its request.
-/

namespace ConfigClient

/-! ## How a request ends -/

/-- How a request that was sent ends: with a response and its body, with a thrown value, or not at
all. A wait ends only if the request has a timer. -/
def Outcome.ending (timed : Bool) : Outcome → Option (Except Value FullResponse)
  | .responds response (.text body) => some (.ok ⟨response, body⟩)
  | .responds _ (.rejects v) => some (.error v)
  | .responds _ .hangs => if timed then some (.error aborted) else none
  | .rejects v => some (.error v)
  | .hangs => if timed then some (.error aborted) else none

/-- An error whose message has no text: in the place of the operation that would give the text it
has a number. -/
def LibraryError.textless : LibraryError :=
  .create .general (.object [("toString", .number (.ofNat 1))]) {} []

namespace Client

/-- The responses that an ending brings. -/
def repliesOf : Option (Except Value FullResponse) → List FullResponse
  | some (.ok reply) => [reply]
  | _ => []

/-- What can be seen of a transfer follows from how its request ends, given whether the timer of the
request runs. -/
theorem observe_transfer {s : Surroundings} {p : Progress} {r : Request} {timed : Bool}
    (ht : r.timer.any p.running.contains = timed) :
    (transfer r).requests s p = [r] ∧
      (transfer r).replies s p = repliesOf ((s.outcome p.requests.length).ending timed) ∧
      (transfer r).messages s p = [] ∧
      (transfer r).result s p = (s.outcome p.requests.length).ending timed := by
  unfold Interaction.requests Interaction.replies Interaction.messages Interaction.result transfer
  simp only [Interaction.bind_eq, Interaction.history_bind, Interaction.run_bind,
    Interaction.perform, Interaction.history, Interaction.run, Surroundings.answer,
    Surroundings.send]
  cases s.outcome p.requests.length with
  | responds response body =>
    cases body with
    | text t => exact ⟨rfl, rfl, rfl, rfl⟩
    | rejects v => exact ⟨rfl, rfl, rfl, rfl⟩
    | hangs =>
      simp only [Option.bind_some, Option.elim_some, Interaction.bind, Interaction.history,
        Interaction.run, Surroundings.answer, Surroundings.readBody, Surroundings.wait, ht]
      cases timed <;> exact ⟨rfl, rfl, rfl, rfl⟩
  | rejects v => exact ⟨rfl, rfl, rfl, rfl⟩
  | hangs =>
    simp only [Surroundings.wait, ht]
    cases timed <;> exact ⟨rfl, rfl, rfl, rfl⟩

/-! ## Around the transfer -/

/-- What a value thrown by a transfer is reported as. -/
def explanation (url : Text) (thrown : Value) : Value :=
  match identify thrown with
  | .error e => .fault (.platform e)
  | .ok (f, _) => .fault (.library (failure url f))

/-- What is logged about a value thrown by a transfer. -/
def explanationTrail (url : Text) (thrown : Value) : List Text :=
  match identify thrown with
  | .error _ => []
  | .ok (_, text) => ["*** [apiv2] error from fetch(" ++ url ++ ", GET): " ++ text]

theorem settles_explain (url : Text) (thrown : Value) :
    (explain url thrown).Settles (explanationTrail url thrown) (explanation url thrown) := by
  unfold explain explanation explanationTrail
  cases identify thrown with
  | error e => exact Interaction.settles_done _
  | ok x => exact (Interaction.settles_log _).bind (Interaction.settles_done _)

/-- What is logged about a response that was read. -/
def replyTrail (url : Text) (reply : FullResponse) : List Text :=
  ["<<< [apiv2][status] GET " ++ url ++ " " ++ reply.response.status.toText,
    "<<< [apiv2][body] GET " ++ url ++ " " ++ reply.body]

theorem settles_receive (url : Text) (reply : FullResponse) :
    (receive url reply).Settles (replyTrail url reply) (judge reply) :=
  (Interaction.settles_log _).bind ((Interaction.settles_log _).bind (Interaction.settles_done _))

/-- The timer that a call starts if it wants one. -/
def timer (s : Surroundings) (p : Progress) (timed : Bool) : Option Nat :=
  if timed then some (s.timer p.started) else none

theorem isQuiet_start (timed : Bool) : (start timed).IsQuiet := by
  cases timed with
  | true =>
    exact (Interaction.isQuiet_perform fun _ => rfl).bind fun _ => Interaction.isQuiet_done _
  | false => exact Interaction.isQuiet_done none

theorem settles_stop (timer : Option Nat) : (stop timer).Settles [] () := by
  cases timer with
  | some timer => exact Interaction.settles_stopTimer timer
  | none => exact Interaction.settles_done ()

/-- What comes before the transfer. -/
def announce (url : Text) (timed : Bool) : Interaction (Option Nat) :=
  (start timed).bind fun timer =>
    (Interaction.log (">>> [apiv2][query] GET " ++ url)).bind fun _ => .done timer

/-- What is logged before the transfer. -/
def queryTrail (url : Text) : List Text := [">>> [apiv2][query] GET " ++ url]

theorem isQuiet_announce (url : Text) (timed : Bool) : (announce url timed).IsQuiet :=
  (isQuiet_start timed).bind fun _ =>
    (Interaction.settles_log _).quiet.bind fun _ => Interaction.isQuiet_done _

theorem messages_announce (s : Surroundings) (p : Progress) (url : Text) (timed : Bool) :
    (announce url timed).messages s p = queryTrail url := by
  cases timed <;> rfl

/-- The timer that was started runs. -/
theorem run_announce (s : Surroundings) (p : Progress) (url : Text) (timed : Bool) :
    ∃ q, (announce url timed).run s p = some (timer s p timed, q) ∧ q.requests = p.requests ∧
      (timer s p timed).any q.running.contains = timed := by
  cases timed with
  | true =>
    refine ⟨_, rfl, rfl, ?_⟩
    simp [timer]
  | false => exact ⟨_, rfl, rfl, rfl⟩

/-- Fail after the timer has been stopped. -/
def rethrow (timer : Option Nat) (v : Value) : Interaction (Except Value FullResponse) :=
  (stop timer).bind fun _ => .done (.error v)

theorem settles_rethrow (timer : Option Nat) (v : Value) :
    (rethrow timer v).Settles [] (.error v) :=
  (settles_stop timer).bind (Interaction.settles_done _)

/-- What follows the transfer. -/
def conclude (url : Text) (timer : Option Nat) :
    Except Value FullResponse → Interaction (Except Value FullResponse)
  | .error thrown => (explain url thrown).bind (rethrow timer)
  | .ok reply => (stop timer).bind fun _ => receive url reply

/-- What is made of an ending. -/
def conclusion (url : Text) : Except Value FullResponse → Except Value FullResponse
  | .error thrown => .error (explanation url thrown)
  | .ok reply => judge reply

/-- What is logged about an ending. -/
def conclusionTrail (url : Text) : Except Value FullResponse → List Text
  | .error thrown => explanationTrail url thrown
  | .ok reply => replyTrail url reply

theorem settles_conclude (url : Text) (timer : Option Nat) (ending : Except Value FullResponse) :
    (conclude url timer ending).Settles (conclusionTrail url ending) (conclusion url ending) := by
  cases ending with
  | error thrown =>
    have h := (settles_explain url thrown).bind (settles_rethrow timer (explanation url thrown))
    rwa [List.append_nil] at h
  | ok reply => exact (settles_stop timer).bind (settles_receive url reply)

theorem exchange_eq (env : Environment) (url : Text) (h : Headers) (timed : Bool) :
    exchange env url h timed = (announce url timed).bind fun timer =>
      (transfer ⟨url, h, Service.usesProxy env, timer⟩).bind (conclude url timer) := by
  cases timed <;> rfl

/-- A request is sent once, with the timer if one was started, and everything else follows from how
it ends. -/
theorem observe_exchange (s : Surroundings) (p : Progress) (env : Environment) (url : Text)
    (h : Headers) (timed : Bool) :
    let i := exchange env url h timed
    let ending := (s.outcome p.requests.length).ending timed
    i.requests s p = [⟨url, h, Service.usesProxy env, timer s p timed⟩] ∧
      i.replies s p = repliesOf ending ∧
      i.messages s p = queryTrail url ++ ending.elim [] (conclusionTrail url) ∧
      i.result s p = ending.map (conclusion url) := by
  simp only
  obtain ⟨q, hq, hrequests, hruns⟩ := run_announce s p url timed
  obtain ⟨h1, h2, h3, h4⟩ := Interaction.observe_bind_of_isQuiet (isQuiet_announce url timed) hq
    fun timer => (transfer ⟨url, h, Service.usesProxy env, timer⟩).bind (conclude url timer)
  obtain ⟨k1, k2, k3, k4⟩ := Interaction.observe_bind_of_settles
    (i := transfer ⟨url, h, Service.usesProxy env, timer s p timed⟩)
    (settles_conclude url (timer s p timed)) s q
  obtain ⟨t1, t2, t3, t4⟩ := observe_transfer (s := s)
    (r := ⟨url, h, Service.usesProxy env, timer s p timed⟩) hruns
  rw [exchange_eq, h1, h2, h3, h4, k1, k2, k3, k4, t1, t2, t3, t4, messages_announce, hrequests]
  exact ⟨rfl, rfl, rfl, rfl⟩

/-! ## Before the request -/

/-- Where the refusal of a request that is never sent can come from. -/
inductive Refusal (s : Surroundings) : Fault → Prop
  | platform (e : PlatformError) : Refusal s (.platform e)
  | noToken : Refusal s (.library Credential.noToken)
  | credential {f : Fault} (h : s.token = .error f) : Refusal s f

/-- An attempt that only asks for a token: it has no traffic, logs nothing, comes to an end, and
fails only with a refusal. -/
structure Prepares {α : Type} (i : Attempt α) : Prop where
  quiet : i.IsQuiet
  messages_eq : ∀ s p, i.messages s p = []
  run_eq : ∀ s p, ∃ x q, i.run s p = some (x, q) ∧ q.requests = p.requests ∧
    q.started = p.started ∧ q.running = p.running ∧ ∀ f, x = .error f → Refusal s f

theorem prepares_succeed {α : Type} (a : α) : Prepares (Attempt.succeed a) :=
  ⟨Interaction.isQuiet_done _, fun _ _ => rfl, fun _ p => ⟨_, p, rfl, rfl, rfl, rfl, nofun⟩⟩

theorem prepares_fail {α : Type} {f : Fault} (h : ∀ s, Refusal s f) :
    Prepares (Attempt.fail f : Attempt α) :=
  ⟨Interaction.isQuiet_done _, fun _ _ => rfl, fun s p => ⟨_, p, rfl, rfl, rfl, rfl, fun g hg => by
    cases hg
    exact h s⟩⟩

theorem prepares_ofExcept {α : Type} (x : Except PlatformError α) :
    Prepares (Attempt.ofExcept x) := by
  cases x with
  | error e => exact prepares_fail fun _ => .platform e
  | ok a => exact prepares_succeed a

theorem Prepares.andThen {α β : Type} {i : Attempt α} {next : α → Attempt β} (hi : Prepares i)
    (hnext : ∀ a, Prepares (next a)) : Prepares (i.andThen next) := by
  refine ⟨?_, ?_, ?_⟩
  · unfold Attempt.andThen
    apply hi.quiet.bind
    intro x
    cases x with
    | error f => exact Interaction.isQuiet_done _
    | ok a => exact (hnext a).quiet
  · intro s p
    obtain ⟨x, q, hx, -⟩ := hi.run_eq s p
    unfold Attempt.andThen
    rw [Interaction.messages_bind, hi.messages_eq, hx]
    cases x with
    | error f => rfl
    | ok a => exact (hnext a).messages_eq s q
  · intro s p
    obtain ⟨x, q, hx, hrequests, hstarted, hrunning, hrefusal⟩ := hi.run_eq s p
    unfold Attempt.andThen
    rw [Interaction.run_bind, hx]
    cases x with
    | error f =>
      refine ⟨_, q, rfl, hrequests, hstarted, hrunning, ?_⟩
      rintro g ⟨⟩
      exact hrefusal f rfl
    | ok a =>
      obtain ⟨y, q', hy, hrequests', hstarted', hrunning', hrefusal'⟩ := (hnext a).run_eq s q
      exact ⟨y, q', hy, hrequests'.trans hrequests, hstarted'.trans hstarted,
        hrunning'.trans hrunning, hrefusal'⟩

theorem prepares_accessToken (credential : Credential) : Prepares credential.accessToken := by
  have asked : Prepares (Interaction.perform .accessToken : Attempt Value) :=
    ⟨Interaction.isQuiet_perform fun _ => rfl, fun _ _ => rfl,
      fun s p => ⟨s.token, _, rfl, rfl, rfl, rfl, fun _ h => .credential h⟩⟩
  cases credential with
  | given offersProject => exact asked
  | applicationDefault =>
    refine asked.andThen fun token => ?_
    split_ifs
    · exact prepares_succeed token
    · exact prepares_fail fun _ => .noToken

theorem prepares_authorize (c : Client) (h : Headers) : Prepares (c.authorize h) := by
  unfold authorize
  cases c.credential with
  | none => exact prepares_succeed h
  | some credential =>
    refine Prepares.andThen ?_ fun token => prepares_ofExcept _
    unfold token
    cases Url.scheme? c.base with
    | none => exact prepares_fail fun _ => .platform .invalidUrl
    | some scheme =>
      simp only
      split_ifs
      · exact prepares_succeed localToken
      · exact prepares_accessToken credential

/-! ## A whole call -/

/-- Headers with everything a request needs. -/
def prepare (c : Client) (given : Value) : Attempt Headers :=
  Attempt.andThen (Attempt.ofExcept (Headers.ofValue given)) fun given =>
    c.authorize (headers given)

theorem prepares_prepare (c : Client) (given : Value) : Prepares (c.prepare given) :=
  (prepares_ofExcept _).andThen fun given => prepares_authorize c (headers given)

/-- The outcome of a request as it leaves the client. -/
def surfaced : Except Value FullResponse → Except Fault FullResponse
  | .ok reply => .ok reply
  | .error v => .error (surface v)

/-- What can be seen of a call: it is refused before anything is sent, it fails before that because
of its time limit, or it sends one request and follows from how that ends. -/
inductive Course (s : Surroundings) (url : Text) :
    List Request → List Text → List FullResponse → Option (Except Fault FullResponse) → Prop
  | refused {f : Fault} (h : Refusal s f) : Course s url [] [] [] (some (.error f))
  | untimed (e : PlatformError) :
    Course s url [] [] [] (some (.error (surface (.fault (.platform e)))))
  | sent (r : Request) (ending : Option (Except Value FullResponse)) (hurl : r.url = url) :
    Course s url [r] (queryTrail url ++ ending.elim [] (conclusionTrail url)) (repliesOf ending)
      (ending.map fun x => surfaced (conclusion url x))

/-- A request for which everything is prepared, and its outcome. -/
def deliver (c : Client) (env : Environment) (path : Text) (timeout : Value) (h : Headers) :
    Attempt FullResponse :=
  match isTimed timeout with
  | .error e => Attempt.fail (surface (.fault (.platform e)))
  | .ok timed => (exchange env (c.url path) h timed).bind fun x => .done (surfaced x)

theorem get_eq (c : Client) (env : Environment) (path : Text) (given timeout : Value) :
    c.get env (.ok path) given timeout =
      (c.prepare given).andThen (c.deliver env path timeout) := by
  unfold get prepare
  rw [Attempt.andThen_assoc]
  congr 1
  funext given
  congr 1
  funext h
  unfold deliver
  cases isTimed timeout with
  | error e => rfl
  | ok timed =>
    simp only
    congr 1
    funext x
    cases x <;> rfl

theorem observe_deliver {timeout : Value} {timed : Bool} (ht : isTimed timeout = .ok timed)
    (c : Client) (env : Environment) (path : Text) (h : Headers) (s : Surroundings)
    (p : Progress) :
    let i := c.deliver env path timeout h
    let ending := (s.outcome p.requests.length).ending timed
    i.requests s p = [⟨c.url path, h, Service.usesProxy env, timer s p timed⟩] ∧
      i.replies s p = repliesOf ending ∧
      i.messages s p = queryTrail (c.url path) ++ ending.elim [] (conclusionTrail (c.url path)) ∧
      i.result s p = ending.map fun x => surfaced (conclusion (c.url path) x) := by
  obtain ⟨k1, k2, k3, k4⟩ := Interaction.observe_bind_of_settles
    (i := exchange env (c.url path) h timed)
    (fun x => Interaction.settles_done (surfaced x)) s p
  obtain ⟨t1, t2, t3, t4⟩ := observe_exchange s p env (c.url path) h timed
  simp only [deliver, ht]
  rw [k1, k2, k3, k4, t1, t2, t3, t4]
  generalize (s.outcome p.requests.length).ending timed = ending
  have silent :
      (ending.map (conclusion (c.url path))).elim [] (fun _ => ([] : List Text)) = [] := by
    cases ending <;> rfl
  rw [silent, List.append_nil, Option.map_map]
  exact ⟨rfl, rfl, rfl, rfl⟩

theorem deliver_course (c : Client) (env : Environment) (path : Text) (timeout : Value)
    (h : Headers) (s : Surroundings) (p : Progress) :
    let i := c.deliver env path timeout h
    Course s (c.url path) (i.requests s p) (i.messages s p) (i.replies s p) (i.result s p) := by
  cases ht : isTimed timeout with
  | error e =>
    simp only [deliver, ht]
    exact .untimed e
  | ok timed =>
    obtain ⟨t1, t2, t3, t4⟩ := observe_deliver ht c env path h s p
    simp only at t1 t2 t3 t4 ⊢
    rw [t1, t2, t3, t4]
    exact .sent _ _ rfl

theorem get_course (c : Client) (env : Environment) (path : Text) (given timeout : Value)
    (s : Surroundings) (p : Progress) :
    let i := c.get env (.ok path) given timeout
    Course s (c.url path) (i.requests s p) (i.messages s p) (i.replies s p) (i.result s p) := by
  have prepared := prepares_prepare c given
  obtain ⟨x, q, hx, -, -, -, hrefusal⟩ := prepared.run_eq s p
  simp only
  rw [get_eq]
  cases x with
  | error f =>
    obtain ⟨h1, h2, h3, h4⟩ := Attempt.observe_andThen_of_error prepared.quiet hx
      (c.deliver env path timeout)
    rw [h1, h2, h3, h4, prepared.messages_eq]
    exact .refused (hrefusal f rfl)
  | ok h =>
    obtain ⟨h1, h2, h3, h4⟩ := Attempt.observe_andThen_of_ok prepared.quiet hx
      (c.deliver env path timeout)
    rw [h1, h2, h3, h4, prepared.messages_eq]
    exact deliver_course c env path timeout h s q

/-- A call that can be prepared sends its request, and the rest follows from how that ends. -/
theorem observe_get_of_prepared {c : Client} {given timeout : Value} {s : Surroundings}
    {p q : Progress} {h : Headers} {timed : Bool}
    (hp : (c.prepare given).run s p = some (.ok h, q)) (ht : isTimed timeout = .ok timed)
    (env : Environment) (path : Text) :
    let i := c.get env (.ok path) given timeout
    let ending := (s.outcome p.requests.length).ending timed
    i.requests s p = [⟨c.url path, h, Service.usesProxy env, timer s p timed⟩] ∧
      i.replies s p = repliesOf ending ∧
      i.result s p = ending.map fun x => surfaced (conclusion (c.url path) x) := by
  have prepared := prepares_prepare c given
  obtain ⟨x, q', hx, hrequests, hstarted, -, -⟩ := prepared.run_eq s p
  obtain ⟨rfl, rfl⟩ : x = .ok h ∧ q' = q := by simpa [hp, eq_comm] using hx
  obtain ⟨h1, h2, -, h4⟩ := Attempt.observe_andThen_of_ok prepared.quiet hp
    (c.deliver env path timeout)
  obtain ⟨t1, t2, -, t4⟩ := observe_deliver ht c env path h s q'
  simp only
  rw [get_eq, h1, h2, h4, t1, t2, t4, timer, timer, hrequests, hstarted]
  exact ⟨rfl, rfl, rfl⟩

end Client

end ConfigClient
