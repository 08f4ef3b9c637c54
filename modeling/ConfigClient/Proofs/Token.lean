import ConfigClient.Proofs.Exchange

/-!
# Tokens

A client asks its credential for a token at most once, before it sends anything. What the token is
decides on the headers of the request, and nothing that comes later asks for one again.

* `Interaction.tokenCalls`: how often an interaction asks for a token.
* `Interaction.Only`: interactions that ask only for things of some kind.
* `Interaction.Asks`: interactions that ask for a token some times and do nothing else.
* `Client.prepared`, `Client.asks_prepare`: what a client makes of the answer of its credential.
* `Client.tokenCalls_deliver`: a request whose headers are settled needs no token.
-/

namespace ConfigClient

/-! ## Asking for a token -/

/-- Whether an event asks the credential for a token. -/
def Event.isTokenCall : Event → Bool
  | ⟨.accessToken, _⟩ => true
  | _ => false

/-- Whether something can be asked for without the credential. -/
def Effect.sparesCredential : Effect → Bool
  | .accessToken => false
  | .projectId => false
  | _ => true

namespace Interaction

variable {α β : Type}

/-- How often an interaction asks the credential for a token. -/
def tokenCalls (s : Surroundings) (p : Progress) (i : Interaction α) : Nat :=
  (i.history s p).countP Event.isTokenCall

theorem tokenCalls_bind (s : Surroundings) (p : Progress) (i : Interaction α)
    (f : α → Interaction β) :
    (i.bind f).tokenCalls s p =
      i.tokenCalls s p + (i.run s p).elim 0 fun x => (f x.1).tokenCalls s x.2 := by
  unfold tokenCalls
  rw [history_bind, List.countP_append]
  cases i.run s p <;> rfl

/-- Whether an interaction asks only for things of some kind, whatever the answers are. -/
def Only (kind : Effect → Bool) : Interaction α → Prop
  | done _ => True
  | ask e next => kind e = true ∧ ∀ answer, (next answer).Only kind

theorem Only.bind {kind : Effect → Bool} {i : Interaction α} {f : α → Interaction β}
    (hi : i.Only kind) (hf : ∀ a, (f a).Only kind) : (i.bind f).Only kind := by
  induction i with
  | done a => exact hf a
  | ask e next ih => exact ⟨hi.1, fun answer => ih answer (hi.2 answer)⟩

theorem Only.of_mem_history {kind : Effect → Bool} {i : Interaction α} (hi : i.Only kind)
    {s : Surroundings} {p : Progress} {ev : Event} (hev : ev ∈ i.history s p) :
    kind ev.effect = true := by
  induction i generalizing p with
  | done a => cases hev
  | ask e next ih =>
    rw [history] at hev
    cases hx : s.answer p e with
    | none =>
      rw [hx] at hev
      rw [List.mem_singleton.1 hev]
      exact hi.1
    | some x =>
      rw [hx] at hev
      rcases List.mem_cons.1 hev with rfl | hev
      · exact hi.1
      · exact ih x.1 (hi.2 x.1) hev

/-- An interaction that asks for a token some times, does nothing else and ends with a result. -/
structure Asks (s : Surroundings) (i : Interaction α) (n : Nat) (a : α) : Prop where
  history_eq : ∀ p, i.history s p = List.replicate n ⟨.accessToken, some s.token⟩
  run_eq : ∀ p, i.run s p = some (a, { p with tokenCalls := p.tokenCalls + n })

theorem asks_done (s : Surroundings) (a : α) : Asks s (done a) 0 a := ⟨fun _ => rfl, fun _ => rfl⟩

theorem asks_accessToken (s : Surroundings) : Asks s (perform .accessToken) 1 s.token :=
  ⟨fun _ => rfl, fun _ => rfl⟩

theorem Asks.bind {s : Surroundings} {i : Interaction α} {f : α → Interaction β} {m n : Nat}
    {a : α} {b : β} (hi : Asks s i m a) (hf : Asks s (f a) n b) : Asks s (i.bind f) (m + n) b := by
  constructor
  · intro p
    rw [history_bind, hi.run_eq, hi.history_eq, Option.elim_some, hf.history_eq,
      List.replicate_append_replicate]
  · intro p
    rw [run_bind, hi.run_eq, Option.bind_some, hf.run_eq, Nat.add_assoc]

theorem Asks.tokenCalls_eq {s : Surroundings} {i : Interaction α} {n : Nat} {a : α}
    (h : Asks s i n a) (p : Progress) : i.tokenCalls s p = n := by
  unfold tokenCalls
  rw [h.history_eq, List.countP_replicate]
  rfl

end Interaction

open Interaction

theorem Attempt.asks_andThen_ok {α β : Type} {s : Surroundings} {i : Attempt α} {m n : Nat}
    {a : α} {x : Except Fault β} (hi : Asks s i m (.ok a)) (next : α → Attempt β)
    (hnext : Asks s (next a) n x) : Asks s (i.andThen next) (m + n) x :=
  Asks.bind hi hnext

theorem Attempt.asks_andThen_error {α β : Type} {s : Surroundings} {i : Attempt α}
    {n : Nat} {f : Fault} (hi : Asks s i n (.error f)) (next : α → Attempt β) :
    Asks s (i.andThen next) n (.error f) := by
  unfold Attempt.andThen
  exact Asks.bind (n := 0) hi (asks_done s _)

/-! ## The answer of the credential -/

/-- What a credential makes of the answer behind it. -/
def Credential.grant : Credential → Except Fault Value → Except Fault Value
  | .given _, answer => answer
  | .applicationDefault, .ok token =>
    if token.holds then .ok token else .error (.library noToken)
  | .applicationDefault, .error f => .error f

/-- A credential only passes on what it was answered, the default one only if it counts as true. -/
theorem Credential.answer_of_grant {credential : Credential} {answer : Except Fault Value}
    {token : Value} (h : credential.grant answer = .ok token) :
    answer = .ok token ∧ (credential = .applicationDefault → token.holds = true) := by
  cases credential with
  | given offersProject => exact ⟨h, nofun⟩
  | applicationDefault =>
    cases answer with
    | error f => cases h
    | ok v =>
      rw [grant] at h
      split_ifs at h with hv
      cases h
      exact ⟨rfl, fun _ => hv⟩

/-- What the default credential does with a token. -/
def Credential.guard (token : Value) : Attempt Value :=
  if token.holds then Attempt.succeed token else Attempt.raise noToken

theorem Credential.accessToken_applicationDefault :
    accessToken .applicationDefault = Attempt.andThen (perform .accessToken) guard := rfl

theorem Credential.asks_accessToken (credential : Credential) (s : Surroundings) :
    Asks s credential.accessToken 1 (credential.grant s.token) := by
  have asked := Interaction.asks_accessToken s
  cases credential with
  | given offersProject => exact asked
  | applicationDefault =>
    rw [accessToken_applicationDefault]
    cases htoken : s.token with
    | error f =>
      rw [htoken] at asked
      exact Attempt.asks_andThen_error asked guard
    | ok token =>
      rw [htoken] at asked
      have guarded : Asks s (guard token) 0 (grant .applicationDefault (.ok token)) := by
        rw [guard, grant]
        split_ifs <;> exact asks_done s _
      exact Attempt.asks_andThen_ok asked guard guarded

namespace Client

/-- How often a client with a credential asks it for a token, once its headers are settled. -/
def asked (c : Client) : Nat :=
  match Url.scheme? c.base with
  | none => 0
  | some scheme => if scheme = "http".toList then 0 else 1

/-- The token that a client presents, given the answer behind its credential. -/
def tokenFor (c : Client) (credential : Credential) (answer : Except Fault Value) :
    Except Fault Value :=
  match Url.scheme? c.base with
  | none => .error (.platform .invalidUrl)
  | some scheme => if scheme = "http".toList then .ok localToken else credential.grant answer

theorem asks_token (c : Client) (credential : Credential) (s : Surroundings) :
    Asks s (c.token credential) c.asked (c.tokenFor credential s.token) := by
  unfold token asked tokenFor
  cases Url.scheme? c.base with
  | none => exact asks_done s _
  | some scheme =>
    simp only
    split_ifs
    · exact asks_done s _
    · exact credential.asks_accessToken s

/-- Headers that present a token. -/
def bearing (h : Headers) (token : Value) : Except PlatformError Headers := do
  h.set? "Authorization" ("Bearer " ++ (← token.text))

/-- Headers with the token of a client, given the answer behind its credential. -/
def presented (c : Client) (credential : Credential) (answer : Except Fault Value) (h : Headers) :
    Except Fault Headers :=
  match c.tokenFor credential answer with
  | .error f => .error f
  | .ok token => (bearing h token).mapError .platform

/-- The headers of a request with a credential, given the answer behind it. -/
def prepared (c : Client) (credential : Credential) (answer : Except Fault Value) (given : Value) :
    Except Fault Headers :=
  match Headers.ofValue given with
  | .error e => .error (.platform e)
  | .ok given => c.presented credential answer (headers given)

/-- How often a call asks its credential for a token. -/
def asksFor (c : Client) (given : Value) : Nat :=
  match Headers.ofValue given with
  | .error _ => 0
  | .ok _ => c.asked

theorem asks_ofExcept {α : Type} (s : Surroundings) (x : Except PlatformError α) :
    Asks s (Attempt.ofExcept x) 0 (x.mapError .platform) := by
  cases x <;> exact asks_done s _

theorem asks_authorize {c : Client} {credential : Credential}
    (hc : c.credential = some credential) (h : Headers) (s : Surroundings) :
    Asks s (c.authorize h) c.asked (c.presented credential s.token h) := by
  have asked := c.asks_token credential s
  unfold authorize presented
  rw [hc]
  cases htoken : c.tokenFor credential s.token with
  | error f =>
    rw [htoken] at asked
    exact Attempt.asks_andThen_error asked _
  | ok token =>
    rw [htoken] at asked
    exact Attempt.asks_andThen_ok asked (fun token => Attempt.ofExcept (bearing h token))
      (asks_ofExcept s _)

theorem asks_prepare {c : Client} {credential : Credential} (hc : c.credential = some credential)
    (given : Value) (s : Surroundings) :
    Asks s (c.prepare given) (c.asksFor given) (c.prepared credential s.token given) := by
  have settled := asks_ofExcept s (Headers.ofValue given)
  unfold prepare asksFor prepared
  cases hgiven : Headers.ofValue given with
  | error e =>
    rw [hgiven] at settled
    exact Attempt.asks_andThen_error settled _
  | ok given =>
    rw [hgiven] at settled
    have both := Attempt.asks_andThen_ok settled (fun given => c.authorize (headers given))
      (asks_authorize hc (headers given) s)
    rwa [Nat.zero_add] at both

theorem only_announce (url : Text) (timed : Bool) :
    (announce url timed).Only Effect.sparesCredential := by
  refine Only.bind ?_ fun _ => ⟨rfl, fun _ => trivial⟩
  cases timed with
  | true => exact ⟨rfl, fun _ => trivial⟩
  | false => trivial

theorem only_transfer (r : Request) : (transfer r).Only Effect.sparesCredential := by
  refine ⟨rfl, fun answer => ?_⟩
  cases answer with
  | error v => trivial
  | ok response =>
    refine ⟨rfl, fun answer => ?_⟩
    cases answer <;> trivial

theorem only_stop (timer : Option Nat) : (stop timer).Only Effect.sparesCredential := by
  cases timer with
  | some timer => exact ⟨rfl, fun _ => trivial⟩
  | none => trivial

theorem only_conclude (url : Text) (timer : Option Nat) (ending : Except Value FullResponse) :
    (conclude url timer ending).Only Effect.sparesCredential := by
  cases ending with
  | error thrown =>
    refine Only.bind ?_ fun v => (only_stop timer).bind fun _ => trivial
    unfold explain
    cases identify thrown with
    | error e => trivial
    | ok x => exact ⟨rfl, fun _ => trivial⟩
  | ok reply =>
    exact (only_stop timer).bind fun _ => ⟨rfl, fun _ => ⟨rfl, fun _ => trivial⟩⟩

/-- Once the headers are settled the credential has done its part. -/
theorem only_deliver (c : Client) (env : Environment) (path : Text) (timeout : Value)
    (h : Headers) : (c.deliver env path timeout h).Only Effect.sparesCredential := by
  unfold deliver
  cases isTimed timeout with
  | error e => trivial
  | ok timed =>
    simp only
    rw [exchange_eq]
    exact ((only_announce _ timed).bind fun timer =>
      (only_transfer _).bind fun ending => only_conclude _ timer ending).bind fun _ => trivial

theorem tokenCalls_deliver (c : Client) (env : Environment) (path : Text) (timeout : Value)
    (h : Headers) (s : Surroundings) (p : Progress) :
    (c.deliver env path timeout h).tokenCalls s p = 0 := by
  unfold tokenCalls
  rw [List.countP_eq_zero]
  intro ev hev hcall
  have spares := (c.only_deliver env path timeout h).of_mem_history hev
  obtain ⟨effect, answer⟩ := ev
  cases effect with
  | accessToken => cases spares
  | _ => cases hcall

end Client

end ConfigClient
