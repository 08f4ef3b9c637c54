import ConfigClient.Proofs.Authorization
import ConfigClient.Proofs.Fetch

/-!
# What a fetch asks for

A fetch asks its credential for a token before anything else, and for nothing later. What it sends
has the headers that were prepared with that token. It reads a body as soon as the response has
arrived, its request names no timer but its own, and when it ends it has stopped that.

* `Interaction.ReadsAtOnce`: interactions that read no body but that of the last response.
* `TemplateClient.history_fetch`, `TemplateClient.mem_requests_fetch`: tokens and requests.
* `TemplateClient.tends_fetch`, `TemplateClient.readsAtOnce_fetch`: the timer and the body.
-/

namespace ConfigClient

namespace Interaction

variable {α β : Type}

/-! ## The body -/

/-- Whether an interaction reads a body only right after a response has arrived. -/
def ReadsAtOnce (i : Interaction α) : Prop :=
  ∀ s p before answer after, i.history s p = before ++ ⟨.readBody, answer⟩ :: after →
    ∃ earlier r response, before = earlier ++ [⟨.send r, some (.ok response)⟩]

theorem readsAtOnce_of_isQuiet {i : Interaction α} (h : i.IsQuiet) : i.ReadsAtOnce := by
  intro s p before answer after hhistory
  have hmem : ⟨.readBody, answer⟩ ∈ i.history s p := by
    rw [hhistory]
    exact List.mem_append_cons_self
  cases h s p _ hmem

theorem ReadsAtOnce.bind {i : Interaction α} {f : α → Interaction β} (hi : i.ReadsAtOnce)
    (hf : ∀ a, (f a).ReadsAtOnce) : (i.bind f).ReadsAtOnce := by
  intro s p before answer after h
  rw [history_bind] at h
  cases hr : i.run s p with
  | none =>
    rw [hr, Option.elim_none, List.append_nil] at h
    exact hi s p before answer after h
  | some x =>
    rw [hr, Option.elim_some] at h
    rcases List.append_eq_append_iff.1 h with ⟨middle, rfl, hsecond⟩ | ⟨middle, hfirst, hsecond⟩
    · obtain ⟨earlier, r, response, rfl⟩ := hf x.1 s x.2 middle answer after hsecond
      exact ⟨_, r, response, (List.append_assoc ..).symm⟩
    · cases middle with
      | nil =>
        obtain ⟨earlier, r, response, hnil⟩ := hf x.1 s x.2 [] answer after hsecond.symm
        cases List.append_ne_nil_of_right_ne_nil earlier (List.cons_ne_nil _ _) hnil.symm
      | cons ev middle =>
        obtain ⟨rfl, -⟩ := List.cons.inj hsecond
        exact hi s p before answer middle hfirst

/-! ### Leaving timers alone -/

theorem leavesTimers_done (a : α) : (done a).LeavesTimers := fun _ => rfl

theorem leavesTimers_log (message : Text) : (log message).LeavesTimers := fun _ => rfl

theorem leavesTimers_andThen {i : Attempt α} {next : α → Attempt β} (hi : i.LeavesTimers)
    (hnext : ∀ a, (next a).LeavesTimers) : (i.andThen next).LeavesTimers := by
  refine hi.bind fun x => ?_
  cases x with
  | error f => exact leavesTimers_done _
  | ok a => exact hnext a

theorem leavesTimers_ofExcept (x : Except PlatformError α) :
    (Attempt.ofExcept x).LeavesTimers := by
  cases x <;> exact leavesTimers_done _

end Interaction

open Interaction

namespace Client

/-! ### Timers -/

theorem leavesTimers_token (c : Client) (credential : Credential) :
    (c.token credential).LeavesTimers := by
  have asked : (perform .accessToken).LeavesTimers := fun _ _ => rfl
  unfold token
  cases Url.scheme? c.base with
  | none => exact leavesTimers_done _
  | some scheme =>
    simp only
    split_ifs
    · exact leavesTimers_done _
    · cases credential with
      | given offersProject => exact asked
      | applicationDefault =>
        refine leavesTimers_andThen asked fun token => ?_
        split_ifs <;> exact leavesTimers_done _

theorem leavesTimers_prepare (c : Client) (given : Value) : (c.prepare given).LeavesTimers := by
  refine leavesTimers_andThen (leavesTimers_ofExcept _) fun given => ?_
  unfold authorize
  cases c.credential with
  | none => exact leavesTimers_done _
  | some credential =>
    exact leavesTimers_andThen (leavesTimers_token c credential) fun _ => leavesTimers_ofExcept _

/-- The timer that is wanted is the only one that is held then. -/
theorem tends_announce (url : Text) (timed : Bool) :
    (announce url timed).Tends (fun held timer => held = timer.toList) [] := by
  cases timed with
  | true => exact fun timer => rfl
  | false => exact rfl

theorem tends_transfer {r : Request} {held : List Nat} (hr : ∀ t ∈ r.timer, t ∈ held) :
    (transfer r).Tends (fun after _ => after = held) held := by
  refine ⟨hr, fun answer => ?_⟩
  cases answer with
  | error v => exact rfl
  | ok response =>
    intro answer
    cases answer <;> exact rfl

theorem tends_stop (timer : Option Nat) :
    (stop timer).Tends (fun held _ => held = []) timer.toList := by
  cases timer with
  | some timer => simp [stop, perform, Tends]
  | none => exact rfl

theorem leavesTimers_explain (url : Text) (thrown : Value) :
    (explain url thrown).LeavesTimers := by
  unfold explain
  cases identify thrown with
  | error e => exact leavesTimers_done _
  | ok x => exact (leavesTimers_log _).bind fun _ => leavesTimers_done _

theorem leavesTimers_receive (url : Text) (reply : FullResponse) :
    (receive url reply).LeavesTimers :=
  (leavesTimers_log _).bind fun _ => (leavesTimers_log _).bind fun _ => leavesTimers_done _

/-- The timer is stopped whatever has become of the request. -/
theorem tends_conclude (url : Text) (timer : Option Nat) (ending : Except Value FullResponse) :
    (conclude url timer ending).Tends (fun held _ => held = []) timer.toList := by
  cases ending with
  | error thrown =>
    refine (leavesTimers_explain url thrown timer.toList).bind ?_
    rintro _ v rfl
    refine (tends_stop timer).bind ?_
    rintro _ _ rfl
    exact rfl
  | ok reply =>
    refine (tends_stop timer).bind ?_
    rintro _ _ rfl
    exact leavesTimers_receive url reply []

theorem tends_deliver (c : Client) (env : Environment) (path : Text) (timeout : Value)
    (h : Headers) : (c.deliver env path timeout h).Tends (fun held _ => held = []) [] := by
  unfold deliver
  cases isTimed timeout with
  | error e => exact rfl
  | ok timed =>
    simp only
    rw [exchange_eq, bind_assoc]
    refine (tends_announce _ timed).bind ?_
    rintro _ timer rfl
    rw [bind_assoc]
    refine (tends_transfer fun t ht => Option.mem_toList.2 ht).bind ?_
    rintro _ ending rfl
    refine (tends_conclude _ timer ending).bind ?_
    rintro _ x rfl
    exact rfl

/-! ### The body -/

/-- A transfer asks for its response, and for the body if it gets one. -/
theorem history_transfer (s : Surroundings) (p : Progress) (r : Request) :
    (∃ answer, (transfer r).history s p = [⟨.send r, answer⟩]) ∨
      ∃ response body, (transfer r).history s p =
        [⟨.send r, some (.ok response)⟩, ⟨.readBody, body⟩] := by
  simp only [transfer, bind_eq, perform, Interaction.bind, history]
  cases s.answer p (.send r) with
  | none => exact .inl ⟨none, rfl⟩
  | some x =>
    obtain ⟨v | response, q⟩ := x
    · exact .inl ⟨some (.error v), rfl⟩
    · simp only [history]
      cases s.answer q .readBody with
      | none => exact .inr ⟨response, none, rfl⟩
      | some y =>
        obtain ⟨v | body, q'⟩ := y
        · exact .inr ⟨response, some (.error v), rfl⟩
        · exact .inr ⟨response, some (.ok body), rfl⟩

theorem readsAtOnce_transfer (r : Request) : (transfer r).ReadsAtOnce := by
  intro s p before answer after h
  rcases history_transfer s p r with ⟨answer', hh⟩ | ⟨response, body, hh⟩
  · rw [hh] at h
    rcases before with _ | ⟨ev, _ | ⟨ev', before⟩⟩ <;> cases h
  · rw [hh] at h
    rcases before with _ | ⟨ev, _ | ⟨ev', _ | ⟨ev'', before⟩⟩⟩ <;> cases h
    exact ⟨[], r, response, rfl⟩

theorem readsAtOnce_deliver (c : Client) (env : Environment) (path : Text) (timeout : Value)
    (h : Headers) : (c.deliver env path timeout h).ReadsAtOnce := by
  unfold deliver
  cases isTimed timeout with
  | error e => exact readsAtOnce_of_isQuiet (isQuiet_done _)
  | ok timed =>
    simp only
    rw [exchange_eq]
    refine ReadsAtOnce.bind ?_ fun _ => readsAtOnce_of_isQuiet (isQuiet_done _)
    refine (readsAtOnce_of_isQuiet (isQuiet_announce _ timed)).bind fun timer => ?_
    exact (readsAtOnce_transfer _).bind fun ending =>
      readsAtOnce_of_isQuiet (settles_conclude _ timer ending).quiet

end Client

namespace TemplateClient

/-- What follows the preparation of the headers. -/
def proceed (c : TemplateClient) (env : Environment) (path : Text) :
    Except Fault Headers → Attempt Template
  | .error f => c.report (.error f)
  | .ok h => Interaction.bind (c.http.deliver env path c.timeout h) c.report

theorem fetch_eq_proceed {c : TemplateClient} {path : Text} (h : c.path = .ok path)
    (env : Environment) :
    c.fetch env = Interaction.bind (c.http.prepare commonHeaders) (c.proceed env path) := by
  rw [fetch_eq, request_of_path h, Client.get_eq, Attempt.andThen, bind_assoc]
  congr 1
  funext x
  cases x <;> rfl

theorem leavesTimers_report (c : TemplateClient) (x : Except Fault FullResponse) :
    (c.report x).LeavesTimers := by
  cases x with
  | error f =>
    simp only [report]
    cases c.failureLine f with
    | error e => exact leavesTimers_done _
    | ok line =>
      exact (leavesTimers_log line).bind fun _ => leavesTimers_done _
  | ok reply => exact leavesTimers_done _

/-- A fetch names no timer but its own, and when it ends it has stopped that. -/
theorem tends_fetch (c : TemplateClient) (env : Environment) :
    (c.fetch env).Tends (fun held _ => held = []) [] := by
  cases hpath : c.path with
  | error e =>
    rw [fetch_of_path_error hpath]
    exact rfl
  | ok path =>
    rw [fetch_eq_proceed hpath]
    refine (Client.leavesTimers_prepare c.http commonHeaders []).bind ?_
    rintro _ x rfl
    cases x with
    | error f => exact c.leavesTimers_report (.error f) []
    | ok h =>
      refine (Client.tends_deliver c.http env path c.timeout h).bind ?_
      rintro _ x rfl
      exact c.leavesTimers_report x []

theorem readsAtOnce_fetch (c : TemplateClient) (env : Environment) : (c.fetch env).ReadsAtOnce := by
  have quiet (x : Except Fault FullResponse) : (c.report x).ReadsAtOnce :=
    readsAtOnce_of_isQuiet (c.settles_report x).quiet
  cases hpath : c.path with
  | error e =>
    rw [fetch_of_path_error hpath]
    exact readsAtOnce_of_isQuiet (isQuiet_done _)
  | ok path =>
    rw [fetch_eq_proceed hpath]
    refine (readsAtOnce_of_isQuiet (Client.prepares_prepare _ _).quiet).bind fun x => ?_
    cases x with
    | error f => exact quiet (.error f)
    | ok h =>
      exact ReadsAtOnce.bind (Client.readsAtOnce_deliver c.http env path c.timeout h) quiet

theorem only_report (c : TemplateClient) (x : Except Fault FullResponse) :
    (c.report x).Only Effect.sparesCredential := by
  cases x with
  | error f =>
    simp only [report]
    cases c.failureLine f with
    | error e => trivial
    | ok line => exact ⟨rfl, fun _ => trivial⟩
  | ok reply => trivial

theorem only_proceed (c : TemplateClient) (env : Environment) (path : Text)
    (x : Except Fault Headers) : (c.proceed env path x).Only Effect.sparesCredential := by
  cases x with
  | error f => exact c.only_report (.error f)
  | ok h => exact (c.http.only_deliver env path c.timeout h).bind c.only_report

/-- A fetch asks for its tokens first, and once it has them it asks its credential for nothing. For
a project without a text it asks for nothing at all. -/
theorem history_fetch (c : TemplateClient) (env : Environment) (s : Surroundings) (p : Progress) :
    ∃ n later, (c.fetch env).history s p = List.replicate n ⟨.accessToken, some s.token⟩ ++ later ∧
      n ≤ c.http.asksFor commonHeaders ∧ (later ≠ [] → n = c.http.asksFor commonHeaders) ∧
      ∀ ev ∈ later, ev.effect.sparesCredential = true := by
  cases hpath : c.path with
  | error e =>
    rw [fetch_of_path_error hpath]
    exact ⟨0, [], rfl, Nat.zero_le _, (absurd rfl ·), nofun⟩
  | ok path =>
    have asks := Client.asks_prepare (show c.http.credential = some c.credential from rfl)
      commonHeaders s
    rw [fetch_eq_proceed hpath, history_bind, asks.history_eq, asks.run_eq, Option.elim_some]
    exact ⟨_, _, rfl, Nat.le_refl _, fun _ => rfl,
      fun ev hev => (c.only_proceed env path _).of_mem_history hev⟩

/-- A request of a fetch has the headers that were prepared for it. -/
theorem mem_requests_fetch {c : TemplateClient} {env : Environment} {s : Surroundings}
    {p : Progress} {r : Request} (hr : r ∈ (c.fetch env).requests s p) :
    ∃ path, c.path = .ok path ∧ r.url = c.http.url path ∧
      c.http.prepared c.credential s.token commonHeaders = .ok r.headers := by
  cases hpath : c.path with
  | error e =>
    rw [fetch_of_path_error hpath] at hr
    cases hr
  | ok path =>
    rw [(c.observe_fetch env s p).1, request_of_path hpath] at hr
    exact ⟨path, rfl, Client.prepared_of_mem_requests rfl hr⟩

/-- A fetch sends no second request. -/
theorem length_requests_fetch_le (c : TemplateClient) (env : Environment) (s : Surroundings)
    (p : Progress) : ((c.fetch env).requests s p).length ≤ 1 := by
  rcases fetch_cases c env s p with
    ⟨e, -, hrequests, -⟩ | ⟨path, -, ⟨f, hrequests, -⟩ | ⟨r, ending, -, hrequests, -⟩⟩
  · rw [hrequests]
    exact Nat.zero_le 1
  · rw [hrequests]
    exact Nat.zero_le 1
  · rw [hrequests]
    exact Nat.le_refl 1

end TemplateClient

end ConfigClient
