import ConfigClient.Proofs.Headers
import ConfigClient.Proofs.Preparation
import ConfigClient.Proofs.Scheme

/-!
# What a client presents

With a credential a client presents one token in each request: the fixed one under `http`, else the
one that it asks the credential for.

* `Headers.Bears`: headers that bear one token.
* `Client.Presents`, `Client.presents_of_prepared`: what the headers of a request present.
* `Client.observe_get_of_ok`, `Client.observe_get_of_error`: a call in terms of its headers.
* `Client.get_presents`: the token under which a request is sent.
-/

namespace ConfigClient

open Interaction

/-! ## Headers with one token -/

namespace Headers

/-- Whether headers have one entry for the authorization, with one value, which bears a token. -/
def Bears (h : Headers) (token : Text) : Prop :=
  h.filter (fun entry => entry.1 = ("authorization" : Text)) =
    [(("authorization" : Text), ["Bearer " ++ token])]

theorem bears_set {h : Headers} (hd : h.Distinct) (token : Text) :
    (h.set "Authorization" ("Bearer " ++ token)).Bears token := by
  apply filter_of_get? (hd.set _ _)
  have hset := values?_set h "Authorization" ("Bearer " ++ token) "Authorization"
  rwa [if_pos rfl] at hset

end Headers

namespace Client

theorem distinct_headers {given : Headers} (hd : given.Distinct) : (headers given).Distinct := by
  unfold headers
  simp only
  split_ifs
  · exact (hd.set _ _).set _ _
  · exact ((hd.set _ _).set _ _).set _ _

theorem bears_of_bearing {h h' : Headers} {token : Value} (hd : h.Distinct)
    (hb : bearing h token = .ok h') : ∃ text, token.text = .ok text ∧ h'.Bears text := by
  obtain ⟨text, ht, hb⟩ := Headers.of_bind_eq_ok hb
  rw [Headers.set?_eq_ok hb]
  exact ⟨text, ht, Headers.bears_set hd text⟩

/-- What the headers of a request present, and how often the credential was asked for it: the fixed
token under `http`, else a token of the credential. -/
inductive Presents (c : Client) (credential : Credential) (answer : Except Fault Value) :
    Headers → Nat → Prop
  | shared {h : Headers} (hs : Url.scheme? c.base = some "http".toList) (hh : h.Bears "owner") :
    Presents c credential answer h 0
  | granted {h : Headers} {scheme : List Char} {token : Value} {text : Text}
    (hs : Url.scheme? c.base = some scheme) (hne : scheme ≠ "http".toList)
    (hg : credential.grant answer = .ok token) (ht : token.text = .ok text) (hh : h.Bears text) :
    Presents c credential answer h 1

/-- The token that is presented is the fixed one, or the answer of the credential. -/
theorem Presents.exists_token {c : Client} {credential : Credential} {answer : Except Fault Value}
    {h : Headers} {calls : Nat} (hp : Presents c credential answer h calls) :
    ∃ scheme token, Url.scheme? c.base = some scheme ∧ h.Bears token ∧
      (scheme = "http".toList → token = "owner" ∧ calls = 0) ∧
      (scheme ≠ "http".toList →
        calls = 1 ∧ ∃ value, answer = .ok value ∧ value.text = .ok token) := by
  cases hp with
  | shared hs hh => exact ⟨_, _, hs, hh, fun _ => ⟨rfl, rfl⟩, fun hne => absurd rfl hne⟩
  | granted hs hne hg ht hh =>
    exact ⟨_, _, hs, hh, fun hhttp => absurd hhttp hne,
      fun _ => ⟨rfl, _, (Credential.answer_of_grant hg).1, ht⟩⟩

/-- What the default credential was asked for and is presented counts as true. -/
theorem Presents.holds {c : Client} {answer : Except Fault Value} {h : Headers} {calls : Nat}
    (hp : Presents c .applicationDefault answer h calls) (hcalls : calls ≠ 0) :
    ∃ value, answer = .ok value ∧ value.holds = true := by
  cases hp with
  | shared hs hh => exact absurd rfl hcalls
  | granted hs hne hg ht hh =>
    obtain ⟨hanswer, hholds⟩ := Credential.answer_of_grant hg
    exact ⟨_, hanswer, hholds rfl⟩

theorem of_mapError_eq_ok {α : Type} {x : Except PlatformError α} {a : α}
    (h : x.mapError Fault.platform = .ok a) : x = .ok a := by
  cases x with
  | error e => cases h
  | ok b => cases h; rfl

theorem presents_of_presented {c : Client} {credential : Credential}
    {answer : Except Fault Value} {h h' : Headers} (hd : h.Distinct)
    (hp : c.presented credential answer h = .ok h') :
    Presents c credential answer h' c.asked := by
  unfold presented tokenFor at hp
  unfold asked
  cases hs : Url.scheme? c.base with
  | none => rw [hs] at hp; cases hp
  | some scheme =>
    rw [hs] at hp
    simp only at hp ⊢
    by_cases hhttp : scheme = "http".toList
    · rw [if_pos hhttp] at hp ⊢
      obtain ⟨text, ht, hh⟩ := bears_of_bearing hd (of_mapError_eq_ok hp)
      cases ht
      exact .shared (hhttp ▸ hs) hh
    · rw [if_neg hhttp] at hp ⊢
      cases hg : credential.grant answer with
      | error f => rw [hg] at hp; cases hp
      | ok token =>
        rw [hg] at hp
        obtain ⟨text, ht, hh⟩ := bears_of_bearing hd (of_mapError_eq_ok hp)
        exact .granted hs hhttp hg ht hh

theorem presents_of_prepared {c : Client} {credential : Credential} {answer : Except Fault Value}
    {given : Value} {h : Headers} (hp : c.prepared credential answer given = .ok h) :
    Presents c credential answer h (c.asksFor given) := by
  unfold prepared asksFor at *
  cases hgiven : Headers.ofValue given with
  | error e => rw [hgiven] at hp; cases hp
  | ok given =>
    rw [hgiven] at hp
    exact presents_of_presented (distinct_headers (Headers.distinct_of_ofValue hgiven)) hp

/-! ## The request -/

theorem mem_requests_deliver {c : Client} {env : Environment} {path : Text} {timeout : Value}
    {h : Headers} {s : Surroundings} {p : Progress} {r : Request}
    (hr : r ∈ (c.deliver env path timeout h).requests s p) :
    r.url = c.url path ∧ r.headers = h := by
  cases ht : isTimed timeout with
  | error e =>
    rw [deliver, ht] at hr
    cases hr
  | ok timed =>
    rw [(observe_deliver ht c env path h s p).1] at hr
    rw [List.mem_singleton.1 hr]
    exact ⟨rfl, rfl⟩

/-! ## A whole call -/

variable {c : Client} {credential : Credential} {s : Surroundings} {given : Value}

/-- A call whose headers are settled goes on with them. -/
theorem observe_get_of_ok {h : Headers} (hc : c.credential = some credential)
    (hp : c.prepared credential s.token given = .ok h) (env : Environment) (path : Text)
    (timeout : Value) (p : Progress) :
    let i := c.get env (.ok path) given timeout
    let d := c.deliver env path timeout h
    let q := { p with tokenCalls := p.tokenCalls + c.asksFor given }
    i.requests s p = d.requests s q ∧ i.replies s p = d.replies s q ∧
      i.messages s p = d.messages s q ∧ i.result s p = d.result s q := by
  have hh : c.settled s.token given = .ok h := (settled_eq_prepared hc s.token given).trans hp
  have observed := observe_get_of_settled hh env (.ok path) timeout p
  rw [demand_eq hc] at observed
  exact observed

/-- A call whose headers cannot be settled fails without any traffic. -/
theorem observe_get_of_error {f : Fault} (hc : c.credential = some credential)
    (hp : c.prepared credential s.token given = .error f) (env : Environment) (path : Text)
    (timeout : Value) (p : Progress) :
    let i := c.get env (.ok path) given timeout
    i.requests s p = [] ∧ i.replies s p = [] ∧ i.messages s p = [] ∧
      i.result s p = some (.error f) := by
  have hf : c.settled s.token given = .error f := (settled_eq_prepared hc s.token given).trans hp
  obtain ⟨hrequests, hreplies, hmessages, -, hresult⟩ :=
    observe_get_of_unsettled hf env (.ok path) timeout p
  exact ⟨hrequests, hreplies, hmessages, hresult⟩

theorem tokenCalls_get (hc : c.credential = some credential) (env : Environment) (path : Text)
    (timeout : Value) (p : Progress) :
    (c.get env (.ok path) given timeout).tokenCalls s p = c.asksFor given := by
  have asks := asks_prepare hc given s
  rw [get_eq, Attempt.andThen, tokenCalls_bind, asks.tokenCalls_eq, asks.run_eq, Option.elim_some]
  cases c.prepared credential s.token given with
  | error f => rfl
  | ok h => rw [tokenCalls_deliver, Nat.add_zero]

/-- A request of a client with a credential has the headers that were prepared for it. -/
theorem prepared_of_mem_requests (hc : c.credential = some credential) {env : Environment}
    {path : Text} {timeout : Value} {p : Progress} {r : Request}
    (hr : r ∈ (c.get env (.ok path) given timeout).requests s p) :
    r.url = c.url path ∧ c.prepared credential s.token given = .ok r.headers := by
  cases hp : c.prepared credential s.token given with
  | error f =>
    rw [(observe_get_of_error hc hp env path timeout p).1] at hr
    cases hr
  | ok h =>
    rw [(observe_get_of_ok hc hp env path timeout p).1] at hr
    obtain ⟨hurl, hheaders⟩ := mem_requests_deliver hr
    exact ⟨hurl, congrArg Except.ok hheaders.symm⟩

/-- What a request of a client with a credential presents. -/
theorem presents_of_mem_requests (hc : c.credential = some credential) {env : Environment}
    {path : Text} {timeout : Value} {p : Progress} {r : Request}
    (hr : r ∈ (c.get env (.ok path) given timeout).requests s p) :
    r.url = c.url path ∧ Presents c credential s.token r.headers (c.asksFor given) := by
  obtain ⟨hurl, hp⟩ := prepared_of_mem_requests hc hr
  exact ⟨hurl, presents_of_prepared hp⟩

theorem asksFor_le_one (c : Client) (given : Value) : c.asksFor given ≤ 1 := by
  unfold asksFor asked
  split
  · exact Nat.zero_le 1
  · split
    · exact Nat.zero_le 1
    · split_ifs <;> omega

/-- A credential is only asked by a client whose own URL has another scheme than `http`. -/
theorem scheme_of_asksFor_ne_zero {c : Client} {given : Value} (h : c.asksFor given ≠ 0) :
    ∃ scheme, Url.scheme? c.base = some scheme ∧ scheme ≠ "http".toList := by
  unfold asksFor asked at h
  split at h
  · exact absurd rfl h
  · split at h
    · exact absurd rfl h
    · rename_i scheme hs
      split_ifs at h with hhttp
      · exact absurd rfl h
      · exact ⟨scheme, hs, hhttp⟩

/-- A client with a credential asks it for a token at most once, and only if its own URL has another
scheme than `http`. Each request presents one token: the fixed one under `http`, else the one that
was asked for. What is requested has the scheme of the client's own URL, so a token that was asked
for never travels under `http`. A token that does not count as true is not accepted from the default
credential. -/
theorem get_presents (base apiVersion : Text) (credential : Credential) (env : Environment)
    (path : Text) (given timeout : Value) (s : Surroundings) (p : Progress) :
    let i := (create base apiVersion (some credential)).get env (.ok path) given timeout
    let calls := i.tokenCalls s p
    calls ≤ 1 ∧
      (calls ≠ 0 →
        ∃ scheme, Url.scheme? (withoutSlash base) = some scheme ∧ scheme ≠ "http".toList) ∧
      (∀ r ∈ i.requests s p, ∃ scheme token,
        Url.scheme? (withoutSlash base) = some scheme ∧ r.headers.Bears token ∧
          (scheme = "http".toList → token = "owner" ∧ calls = 0) ∧
          (scheme ≠ "http".toList →
            calls = 1 ∧ ∃ answer, s.token = .ok answer ∧ answer.text = .ok token) ∧
          (∀ scheme', Url.scheme? r.url = some scheme' → scheme' = scheme) ∧
          (calls ≠ 0 → Url.scheme? r.url ≠ some "http".toList)) ∧
      (credential = .applicationDefault → calls ≠ 0 →
        ∀ answer, s.token = .ok answer → answer.holds = false → i.requests s p = []) := by
  simp only
  have hc : (create base apiVersion (some credential)).credential = some credential := rfl
  rw [tokenCalls_get hc]
  refine ⟨asksFor_le_one _ _, scheme_of_asksFor_ne_zero, fun r hr => ?_, ?_⟩
  · obtain ⟨hurl, hpresents⟩ := presents_of_mem_requests hc hr
    obtain ⟨scheme, token, hs, hh, hshared, hgranted⟩ := hpresents.exists_token
    -- The scheme was read in the URL of the client, but it is the URL of the request that counts.
    have hscheme (scheme' : List Char) (hs' : Url.scheme? r.url = some scheme') :
        scheme' = scheme := by
      rw [hurl] at hs'
      exact scheme?_url hs hs'
    exact ⟨scheme, token, hs, hh, hshared, hgranted, hscheme,
      fun hcalls hhttp => hcalls (hshared (hscheme _ hhttp).symm).2⟩
  · rintro rfl hcalls answer hanswer hholds
    rw [List.eq_nil_iff_forall_not_mem]
    intro r hr
    obtain ⟨-, hpresents⟩ := presents_of_mem_requests hc hr
    obtain ⟨value, hvalue, htrue⟩ := hpresents.holds hcalls
    cases hanswer.symm.trans hvalue
    rw [htrue] at hholds
    cases hholds

/-- Surroundings in which a token is `secret` and nothing else ever happens. -/
def secretive : Surroundings where
  token := .ok (.string "secret")
  project := .ok .undefined
  outcome _ := .hangs

/-- A client whose credential has no project. -/
def sampleClient (base : Text) : Client := create base "v1" (some (.given false))

/-- A call of it by a caller who names an authorization too. -/
def sampleGet (base : Text) : Attempt FullResponse :=
  (sampleClient base).get .empty (.ok "a") (.object [("AUTHORIZATION", .string "mine")]) .undefined

/-- If its headers can be settled the call sends a request. -/
theorem exists_mem_requests_sampleGet {base : Text}
    (hp : ∃ h, (sampleClient base).prepared (.given false) secretive.token
      (.object [("AUTHORIZATION", .string "mine")]) = .ok h) :
    ∃ r, r ∈ (sampleGet base).requests secretive {} := by
  obtain ⟨h, hp⟩ := hp
  have hc : (sampleClient base).credential = some (.given false) := rfl
  have ht : isTimed .undefined = .ok false := rfl
  unfold sampleGet
  rw [(observe_get_of_ok hc hp .empty "a" .undefined {}).1,
    (observe_deliver ht (sampleClient base) .empty "a" h secretive _).1]
  exact ⟨_, List.mem_singleton_self _⟩

/-- The scheme is read as it is meant, whatever stands before and in it: under another one than
`http` the token of the credential is presented, and under `http` the fixed one, for which the
credential is not asked. -/
theorem get_presents_secret :
    Url.scheme? (withoutSlash " LO\tCaL:/") = some "local".toList ∧
      (∃ r ∈ (sampleGet " LO\tCaL:/").requests secretive {},
        r.headers.Bears "secret" ∧ Url.scheme? r.url ≠ some "http".toList) ∧
      Url.scheme? (withoutSlash " hT\ttp://[::1]/") = some "http".toList ∧
      (∃ r ∈ (sampleGet " hT\ttp://[::1]/").requests secretive {}, r.headers.Bears "owner") ∧
      (sampleGet " hT\ttp://[::1]/").tokenCalls secretive {} = 0 := by
  have hlocal : Url.scheme? (withoutSlash " LO\tCaL:/") = some "local".toList := by decide +kernel
  have hhttp : Url.scheme? (withoutSlash " hT\ttp://[::1]/") = some "http".toList := by
    decide +kernel
  obtain ⟨near, hnear⟩ : ∃ r, r ∈ (sampleGet " LO\tCaL:/").requests secretive {} := by
    apply exists_mem_requests_sampleGet
    unfold prepared presented tokenFor
    rw [show (sampleClient _).base = withoutSlash _ from rfl, hlocal]
    exact ⟨_, rfl⟩
  obtain ⟨far, hfar⟩ : ∃ r, r ∈ (sampleGet " hT\ttp://[::1]/").requests secretive {} := by
    apply exists_mem_requests_sampleGet
    unfold prepared presented tokenFor
    rw [show (sampleClient _).base = withoutSlash _ from rfl, hhttp]
    exact ⟨_, rfl⟩
  obtain ⟨-, -, hrequests, -⟩ := get_presents " LO\tCaL:/" "v1" (.given false) .empty "a"
    (.object [("AUTHORIZATION", .string "mine")]) .undefined secretive {}
  obtain ⟨scheme, token, hs, hh, -, hgranted, -, hsafe⟩ := hrequests near hnear
  cases hlocal.symm.trans hs
  obtain ⟨hcalls, answer, hanswer, ht⟩ := hgranted (by decide)
  cases hanswer
  cases ht
  obtain ⟨-, -, hrequests', -⟩ := get_presents " hT\ttp://[::1]/" "v1" (.given false) .empty "a"
    (.object [("AUTHORIZATION", .string "mine")]) .undefined secretive {}
  obtain ⟨scheme', token', hs', hh', hshared, -⟩ := hrequests' far hfar
  cases hhttp.symm.trans hs'
  obtain ⟨rfl, hcalls'⟩ := hshared rfl
  exact ⟨hlocal, ⟨near, hnear, hh, hsafe (by rw [hcalls]; decide)⟩, hhttp, ⟨far, hfar, hh'⟩, hcalls'⟩

end Client

end ConfigClient
