import ConfigClient.Proofs.Token

/-!
# The preparation of a request

Before a call sends anything it settles its headers: those of the caller are taken, the client
adds its own, and the credential, if there is one, is asked for what it authorizes with. From
there on the call depends on the credential no more.

* `Client.bearer`, `Client.settled`: the authorization and the headers of a request, given the
  answer behind the credential.
* `Client.asks_prepare_settled`: the preparation asks for a token at most once and does no more.
* `Client.observe_get_of_settled`, `Client.observe_get_of_unsettled`: a call in terms of its
  headers.
-/

namespace ConfigClient

open Interaction

namespace Client

/-! ## The bearer value -/

/-- The value of the authorization in a request, given the answer behind the credential. There is
none without a credential. -/
def bearer (c : Client) (answer : Except Fault Value) : Except Fault (Option Text) :=
  match c.credential with
  | none => .ok none
  | some credential =>
    match c.tokenFor credential answer with
    | .error f => .error f
    | .ok token =>
      match token.text with
      | .error e => .error (.platform e)
      | .ok text => .ok (some ("Bearer " ++ text))

/-- Headers with the authorization of a client. -/
def authorized (c : Client) (answer : Except Fault Value) (h : Headers) : Except Fault Headers :=
  match c.bearer answer with
  | .error f => .error f
  | .ok none => .ok h
  | .ok (some value) => (h.set? "Authorization" value).mapError .platform

/-- The headers of a request, given the answer behind the credential. -/
def settled (c : Client) (answer : Except Fault Value) (given : Value) : Except Fault Headers :=
  match Headers.ofValue given with
  | .error e => .error (.platform e)
  | .ok given => c.authorized answer (headers given)

/-- How often a call asks for a token before its headers are settled. -/
def demand (c : Client) (given : Value) : Nat := if c.credential.isSome then c.asksFor given else 0

theorem authorized_eq_presented {c : Client} {credential : Credential}
    (hc : c.credential = some credential) (answer : Except Fault Value) (h : Headers) :
    c.authorized answer h = c.presented credential answer h := by
  unfold authorized bearer presented
  rw [hc]
  simp only
  cases c.tokenFor credential answer with
  | error f => rfl
  | ok token =>
    simp only [bearing]
    cases token.text <;> rfl

theorem settled_eq_prepared {c : Client} {credential : Credential}
    (hc : c.credential = some credential) (answer : Except Fault Value) (given : Value) :
    c.settled answer given = c.prepared credential answer given := by
  unfold settled prepared
  cases Headers.ofValue given with
  | error e => rfl
  | ok given => exact authorized_eq_presented hc answer (headers given)

theorem demand_eq {c : Client} {credential : Credential} (hc : c.credential = some credential)
    (given : Value) : c.demand given = c.asksFor given := by
  rw [demand, hc]
  rfl

theorem asks_prepare_settled (c : Client) (given : Value) (s : Surroundings) :
    Asks s (c.prepare given) (c.demand given) (c.settled s.token given) := by
  cases hc : c.credential with
  | some credential =>
    rw [settled_eq_prepared hc, demand_eq hc]
    exact asks_prepare hc given s
  | none =>
    have checked := asks_ofExcept s (Headers.ofValue given)
    unfold prepare demand settled authorized bearer authorize
    simp only [hc]
    cases hgiven : Headers.ofValue given with
    | error e =>
      rw [hgiven] at checked
      exact Attempt.asks_andThen_error checked _
    | ok given =>
      rw [hgiven] at checked
      exact Attempt.asks_andThen_ok checked (fun given => Attempt.succeed (headers given))
        (asks_done s _)

/-! ## The course of a call -/

/-- A request whose headers are settled, and its outcome. Using the path may raise a value. -/
def dispatch (c : Client) (env : Environment) (path : Path) (timeout : Value) (h : Headers) :
    Attempt FullResponse :=
  match path with
  | .error v => Attempt.fail (surface v)
  | .ok path => c.deliver env path timeout h

theorem get_eq_dispatch (c : Client) (env : Environment) (path : Path) (given timeout : Value) :
    c.get env path given timeout = (c.prepare given).andThen (c.dispatch env path timeout) := by
  cases path with
  | ok path => exact c.get_eq env path given timeout
  | error v =>
    unfold get prepare
    rw [Attempt.andThen_assoc]
    rfl

variable {c : Client} {given : Value} {s : Surroundings}

/-- A call whose headers are settled goes on with them. -/
theorem observe_get_of_settled {h : Headers} (hh : c.settled s.token given = .ok h)
    (env : Environment) (path : Path) (timeout : Value) (p : Progress) :
    let i := c.get env path given timeout
    let d := c.dispatch env path timeout h
    let q := { p with tokenCalls := p.tokenCalls + c.demand given }
    i.requests s p = d.requests s q ∧ i.replies s p = d.replies s q ∧
      i.messages s p = d.messages s q ∧ i.result s p = d.result s q := by
  have prepared := prepares_prepare c given
  have hrun := (asks_prepare_settled c given s).run_eq p
  rw [hh] at hrun
  obtain ⟨h1, h2, h3, h4⟩ := Attempt.observe_andThen_of_ok prepared.quiet hrun
    (c.dispatch env path timeout)
  simp only
  rw [get_eq_dispatch, h1, h2, h3, h4, prepared.messages_eq]
  exact ⟨rfl, rfl, rfl, rfl⟩

/-- A call whose headers cannot be settled fails without any traffic. -/
theorem observe_get_of_unsettled {f : Fault} (hf : c.settled s.token given = .error f)
    (env : Environment) (path : Path) (timeout : Value) (p : Progress) :
    let i := c.get env path given timeout
    i.requests s p = [] ∧ i.replies s p = [] ∧ i.messages s p = [] ∧
      i.tokenCalls s p = c.demand given ∧ i.result s p = some (.error f) := by
  have prepared := prepares_prepare c given
  have asks := asks_prepare_settled c given s
  have hrun := asks.run_eq p
  rw [hf] at hrun
  obtain ⟨h1, h2, h3, h4⟩ := Attempt.observe_andThen_of_error prepared.quiet hrun
    (c.dispatch env path timeout)
  have hcalls : ((c.prepare given).andThen (c.dispatch env path timeout)).tokenCalls s p =
      c.demand given := by
    rw [Attempt.andThen, tokenCalls_bind, asks.tokenCalls_eq, hrun]
    rfl
  simp only
  rw [get_eq_dispatch, h1, h2, h3, h4, prepared.messages_eq, hcalls]
  exact ⟨rfl, rfl, rfl, rfl, rfl⟩

end Client

end ConfigClient
