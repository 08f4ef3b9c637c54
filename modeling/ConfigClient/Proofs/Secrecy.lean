import ConfigClient.Proofs.Authorization
import ConfigClient.Proofs.HttpFailure

/-!
# Where a token can be seen

A token that is legal in a header is seen in the authorization of the request and nowhere else: two
fetches that differ in such a token log the same, end the same way and send the same, but for that
header. A token that is not legal is never sent, and the refusal quotes it.

* `Interaction.SameButToken`: two runs that differ at most in the authorization of their requests.
* `Client.sameButToken_get`: calls with headers that are the same but for the authorization.
* `TemplateClient.observe_fetch_of_illegal`: a fetch with a token that is not legal.
* `TemplateClient.fetch_sameButToken`: what can be seen of a token in a fetch.
-/

namespace ConfigClient

/-! ## Everything but the authorization -/

namespace Headers

/-- The headers without the authorization. -/
def withoutToken (h : Headers) : Headers :=
  h.filter fun entry => entry.1 ≠ ("authorization" : Text)

/-- The entries of other names stay when one is updated. -/
theorem filter_update (key : Text) (f : List Text → List Text) (h : Headers) :
    (h.update key f).filter (fun entry => entry.1 ≠ key) = h.filter fun entry => entry.1 ≠ key := by
  induction h with
  | nil => simp [update]
  | cons entry h ih =>
    rw [update]
    split_ifs with hkey
    · simp [hkey]
    · rw [List.filter_cons_of_pos (by simp [hkey]), List.filter_cons_of_pos (by simp [hkey]), ih]

theorem withoutToken_set (h : Headers) (value : Text) :
    (h.set "Authorization" value).withoutToken = h.withoutToken :=
  filter_update "authorization" _ h

/-- Whether a token is legal as the value of a header. -/
def IsLegalToken (token : Text) : Prop := isLegalValue ("Bearer " ++ token) = true

instance (token : Text) : Decidable (IsLegalToken token) :=
  inferInstanceAs (Decidable (isLegalValue ("Bearer " ++ token) = true))

end Headers

/-- A request without its authorization. -/
def Request.withoutToken (r : Request) : Request := { r with headers := r.headers.withoutToken }

/-- Whether two runs look the same: they log the same, end in the same way, read the same and send
the same but for the authorization. -/
structure Interaction.SameButToken {α : Type} (i i' : Interaction α) (s s' : Surroundings)
    (p p' : Progress) : Prop where
  messages_eq : i.messages s p = i'.messages s' p'
  result_eq : i.result s p = i'.result s' p'
  replies_eq : i.replies s p = i'.replies s' p'
  requests_eq :
    (i.requests s p).map Request.withoutToken = (i'.requests s' p').map Request.withoutToken

/-- The surroundings with a text as the token. -/
def Surroundings.withToken (s : Surroundings) (token : Text) : Surroundings :=
  { s with token := .ok (.string token) }

/-! ## Calls -/

/-- Whether a credential passes on a token. The default one takes an empty token for none. -/
def Credential.Passes (credential : Credential) (token : Text) : Prop :=
  credential = .applicationDefault → token ≠ []

theorem Credential.grant_of_passes {credential : Credential} {token : Text}
    (h : credential.Passes token) :
    credential.grant (.ok (.string token)) = .ok (.string token) := by
  cases credential with
  | given offersProject => rfl
  | applicationDefault =>
    cases token with
    | nil => exact absurd rfl (h rfl)
    | cons u rest => rfl

namespace Client

/-- The same request with two headers that differ only in the authorization. -/
theorem sameButToken_deliver {h h' : Headers} (hh : h.withoutToken = h'.withoutToken)
    {s s' : Surroundings} (hs : s.outcome = s'.outcome) (htimer : s.timer = s'.timer)
    {p p' : Progress} (hrequests : p.requests.length = p'.requests.length)
    (hstarted : p.started = p'.started) (c : Client) (env : Environment) (path : Text)
    (timeout : Value) :
    (c.deliver env path timeout h).SameButToken (c.deliver env path timeout h') s s' p p' := by
  cases ht : isTimed timeout with
  | error e =>
    simp only [deliver, ht]
    exact ⟨rfl, rfl, rfl, rfl⟩
  | ok timed =>
    obtain ⟨h1, h2, h3, h4⟩ := observe_deliver ht c env path h s p
    obtain ⟨k1, k2, k3, k4⟩ := observe_deliver ht c env path h' s' p'
    rw [← hs, ← hrequests] at k2 k3 k4
    constructor
    · rw [h3, k3]
    · rw [h4, k4]
    · rw [h2, k2]
    · rw [h1, k1]
      simp only [List.map_cons, List.map_nil, Request.withoutToken, hh, timer, htimer, hstarted]

/-- The same call with two answers of the credential that lead to headers that differ only in the
authorization. -/
theorem sameButToken_get {c : Client} {credential : Credential}
    (hc : c.credential = some credential) {given : Value} {s s' : Surroundings}
    (hp : (c.prepared credential s.token given).map Headers.withoutToken =
      (c.prepared credential s'.token given).map Headers.withoutToken)
    (hs : s.outcome = s'.outcome) (htimer : s.timer = s'.timer) (env : Environment) (path : Text)
    (timeout : Value) (p : Progress) :
    let i := c.get env (.ok path) given timeout
    i.SameButToken i s s' p p := by
  simp only
  -- Either both answers are refused with the same fault, or both lead to a request.
  cases hx : c.prepared credential s.token given with
  | error f =>
    cases hx' : c.prepared credential s'.token given with
    | ok h' => rw [hx, hx'] at hp; cases hp
    | error f' =>
      rw [hx, hx'] at hp
      cases hp
      obtain ⟨h1, h2, h3, h4⟩ := observe_get_of_error hc hx env path timeout p
      obtain ⟨k1, k2, k3, k4⟩ := observe_get_of_error hc hx' env path timeout p
      exact ⟨by rw [h3, k3], by rw [h4, k4], by rw [h2, k2], by rw [h1, k1]⟩
  | ok h =>
    cases hx' : c.prepared credential s'.token given with
    | error f' => rw [hx, hx'] at hp; cases hp
    | ok h' =>
      rw [hx, hx'] at hp
      have hh : h.withoutToken = h'.withoutToken := Except.ok.inj hp
      obtain ⟨h1, h2, h3, h4⟩ := observe_get_of_ok hc hx env path timeout p
      obtain ⟨k1, k2, k3, k4⟩ := observe_get_of_ok hc hx' env path timeout p
      have same (q : Progress) : (c.deliver env path timeout h).SameButToken
          (c.deliver env path timeout h') s s' q q :=
        sameButToken_deliver hh hs htimer rfl rfl c env path timeout
      constructor
      · exact (h3.trans (same _).messages_eq).trans k3.symm
      · exact (h4.trans (same _).result_eq).trans k4.symm
      · exact (h2.trans (same _).replies_eq).trans k2.symm
      · rw [h1, k1]
        exact (same _).requests_eq

/-! ## Tokens in headers -/

theorem bearing_of_isLegalToken {token : Text} (ht : Headers.IsLegalToken token) (h : Headers) :
    bearing h (.string token) = .ok (h.set "Authorization" ("Bearer " ++ token)) := by
  have hname : Headers.isLegalName "Authorization" = true := by decide
  have hcheck : Headers.check "Authorization" ("Bearer " ++ token) = .ok () := by
    rw [Headers.check, hname, show Headers.isLegalValue ("Bearer " ++ token) = true from ht]
    rfl
  have htext : (Value.string token).text = .ok token := rfl
  simp only [bearing, htext, bind, Except.bind, Headers.set?, hcheck]
  rfl

theorem bearing_of_not_isLegalToken {token : Text} (ht : ¬Headers.IsLegalToken token)
    (h : Headers) :
    bearing h (.string token) = .error (.illegalHeaderValue ("Bearer " ++ token)) := by
  have hname : Headers.isLegalName "Authorization" = true := by decide
  have hvalue : Headers.isLegalValue ("Bearer " ++ token) = false := Bool.eq_false_iff.2 ht
  have hcheck : Headers.check "Authorization" ("Bearer " ++ token) =
      .error (.illegalHeaderValue ("Bearer " ++ token)) := by
    rw [Headers.check, hname, hvalue]
    rfl
  have htext : (Value.string token).text = .ok token := rfl
  simp only [bearing, htext, bind, Except.bind, Headers.set?, hcheck]

/-- Two tokens lead to the same headers but for the authorization, or to the same refusal, if they
are legal or not needed. -/
theorem prepared_of_isLegalToken {c : Client} {credential : Credential} {token token' : Text}
    (hp : credential.Passes token) (hp' : credential.Passes token')
    (ht : ∀ scheme, Url.scheme? c.base = some scheme → scheme ≠ "http".toList →
      Headers.IsLegalToken token ∧ Headers.IsLegalToken token') (given : Value) :
    (c.prepared credential (.ok (.string token)) given).map Headers.withoutToken =
      (c.prepared credential (.ok (.string token')) given).map Headers.withoutToken := by
  unfold prepared
  cases Headers.ofValue given with
  | error e => rfl
  | ok given =>
    simp only [presented, tokenFor]
    cases hs : Url.scheme? c.base with
    | none => rfl
    | some scheme =>
      simp only
      by_cases hhttp : scheme = "http".toList
      · rw [if_pos hhttp, if_pos hhttp]
      · obtain ⟨hlegal, hlegal'⟩ := ht scheme hs hhttp
        rw [if_neg hhttp, if_neg hhttp, Credential.grant_of_passes hp,
          Credential.grant_of_passes hp']
        simp only [bearing_of_isLegalToken hlegal, bearing_of_isLegalToken hlegal',
          Except.mapError, Except.map, Headers.withoutToken_set]

/-- A token that is not legal is refused unless another one is presented. -/
theorem prepared_of_not_isLegalToken {c : Client} {credential : Credential} {token : Text}
    {scheme : List Char} (hs : Url.scheme? c.base = some scheme) (hne : scheme ≠ "http".toList)
    (hp : credential.Passes token) (ht : ¬Headers.IsLegalToken token) {given : Value} {h : Headers}
    (hgiven : Headers.ofValue given = .ok h) :
    c.prepared credential (.ok (.string token)) given =
      .error (.platform (.illegalHeaderValue ("Bearer " ++ token))) := by
  simp only [prepared, hgiven, presented, tokenFor, hs, if_neg hne]
  rw [Credential.grant_of_passes hp]
  simp only [bearing_of_not_isLegalToken ht, Except.mapError]

end Client

namespace LibraryError

theorem status_withCode (base : LibraryError) (code : Value) :
    (base.withCode code).status = settle (base.held base.status) (.number (.ofNat 500)) := rfl

theorem exit_withCode (base : LibraryError) (code : Value) :
    (base.withCode code).exit = settle (base.held base.exit) (.number (.ofNat 1)) := rfl

end LibraryError

namespace TemplateClient

/-! ## Fetches -/

theorem ofValue_commonHeaders :
    Headers.ofValue commonHeaders = .ok [("x-firebase-client", [Service.templateClientName])] :=
  rfl

/-- Fetches whose requests look the same look the same themselves. -/
theorem sameButToken_fetch {c : TemplateClient} {env : Environment} {s s' : Surroundings}
    {p p' : Progress} (h : (c.request env).SameButToken (c.request env) s s' p p') :
    (c.fetch env).SameButToken (c.fetch env) s s' p p' := by
  obtain ⟨h1, h2, h3, h4⟩ := observe_fetch c env s p
  obtain ⟨k1, k2, k3, k4⟩ := observe_fetch c env s' p'
  constructor
  · rw [h3, k3, h.messages_eq, h.result_eq]
  · rw [h4, k4, h.result_eq]
  · rw [h2, k2, h.replies_eq]
  · rw [h1, k1, h.requests_eq]

/-- What the refusal of a token says. -/
def tokenRefusal (token : Text) : Text := "Bearer " ++ token ++ " is not a legal HTTP header value"

/-- A fetch with a token that is not legal sends nothing. It logs the refusal and fails with it. -/
theorem observe_fetch_of_illegal {c : TemplateClient} {id : Text} (hid : c.projectId.text = .ok id)
    {scheme : List Char} {token : Text} (hs : Url.scheme? c.http.base = some scheme)
    (hne : scheme ≠ "http".toList) (hp : c.credential.Passes token)
    (ht : ¬Headers.IsLegalToken token) (env : Environment) (s : Surroundings) (p : Progress) :
    let i := c.fetch env
    let f : Fault := .platform (.illegalHeaderValue ("Bearer " ++ token))
    i.requests (s.withToken token) p = [] ∧
      i.messages (s.withToken token) p = ["Failed to get Remote Config template for " ++
        id ++ ": " ++ tokenRefusal token] ∧
      i.result (s.withToken token) p = some (.error (.library (requestError f))) := by
  have hprepared := Client.prepared_of_not_isLegalToken hs hne hp ht ofValue_commonHeaders
  obtain ⟨h1, -, h3, h4⟩ := Client.observe_get_of_error (s := s.withToken token)
    (show c.http.credential = some c.credential from rfl) hprepared env
    ("/projects/" ++ id ++ "/remoteConfig") c.timeout p
  obtain ⟨k1, -, k3, k4⟩ := observe_fetch c env (s.withToken token) p
  have hline : c.failureLine (.platform (.illegalHeaderValue ("Bearer " ++ token))) =
      .ok ("Failed to get Remote Config template for " ++ id ++ ": " ++ tokenRefusal token) := by
    rw [failureLine, hid]
    rfl
  simp only
  rw [k1, k3, k4, request_of_path (path_of_projectId hid), h1, h3, h4, Option.elim_some,
    Option.map_some, reportTrail, reported, hline]
  exact ⟨rfl, rfl, rfl⟩

/-- An error of the platform before a request becomes an error of the request that says the same and
has no response, so no code and only defaults otherwise. -/
theorem requestError_platform (e : PlatformError) :
    let x := requestError (.platform e)
    x.kind = .request .undefined ∧ x.message = .string e.message ∧
      x.status = .number (.ofNat 500) ∧ x.exit = .number (.ofNat 1) ∧ x.context = .undefined ∧
      ∃ base, x.cause = .fault (.library base) ∧ base.message = x.message ∧
        base.cause = .fault (.platform e) := by
  let base : LibraryError :=
    .create .general (.string e.message) { cause := .fault (.platform e) } []
  have hcode : (ServiceError.parse []).code = none := by decide +kernel
  have herror : requestError (.platform e) = base.withCode .undefined := by
    have hresponse : base.response? = none := rfl
    simp only [requestError]
    rw [show LibraryError.create .general (Fault.platform e).message
      { cause := .fault (.platform e) } [] = base from rfl, hresponse]
    simp only
    rw [hcode]
    rfl
  have hstatus : base.status = .number (.ofNat 500) := rfl
  have hexit : base.exit = .number (.ofNat 1) := rfl
  simp only [herror]
  refine ⟨rfl, rfl, ?_, ?_, rfl, base, rfl, rfl, rfl⟩
  · rw [LibraryError.status_withCode, hstatus, LibraryError.held_number,
      LibraryError.settle_number (Double.ofNat_ne_nan 500)]
  · rw [LibraryError.exit_withCode, hexit, LibraryError.held_number,
      LibraryError.settle_number (Double.ofNat_ne_nan 1)]

/-- What can be seen of the token of a fetch. Two tokens that are legal in a header, or any two if
none is asked for, make no difference but in the authorization of the request. A token that is asked
for and not legal is refused before anything is sent; the line that is logged and the messages of
the errors quote it, and nothing else tells of it. -/
theorem fetch_sameButToken {c : TemplateClient} {token token' : Text}
    (hp : c.credential.Passes token) (hp' : c.credential.Passes token') (env : Environment)
    (s : Surroundings) (p : Progress) :
    let i := c.fetch env
    ((∀ scheme, Url.scheme? c.http.base = some scheme → scheme ≠ "http".toList →
        Headers.IsLegalToken token ∧ Headers.IsLegalToken token') →
      i.SameButToken i (s.withToken token) (s.withToken token') p p) ∧
    ∀ id scheme, c.projectId.text = .ok id → Url.scheme? c.http.base = some scheme →
      scheme ≠ "http".toList → ¬Headers.IsLegalToken token →
      i.requests (s.withToken token) p = [] ∧
      i.messages (s.withToken token) p = ["Failed to get Remote Config template for " ++
        id ++ ": " ++ tokenRefusal token] ∧
      ∃ e base, i.result (s.withToken token) p = some (.error (.library e)) ∧
        e.kind = .request .undefined ∧ e.message = .string (tokenRefusal token) ∧
        e.status = .number (.ofNat 500) ∧ e.exit = .number (.ofNat 1) ∧ e.context = .undefined ∧
        e.cause = .fault (.library base) ∧ base.message = e.message ∧
        base.cause = .fault (.platform (.illegalHeaderValue ("Bearer " ++ token))) := by
  refine ⟨fun ht => sameButToken_fetch ?_, fun id scheme hid hs hne ht => ?_⟩
  · have hprepared :
        (c.http.prepared c.credential (s.withToken token).token commonHeaders).map
            Headers.withoutToken =
          (c.http.prepared c.credential (s.withToken token').token commonHeaders).map
            Headers.withoutToken :=
      Client.prepared_of_isLegalToken hp hp' ht commonHeaders
    have hc : c.http.credential = some c.credential := rfl
    unfold request
    cases c.path with
    | error e => exact ⟨rfl, rfl, rfl, rfl⟩
    | ok path => exact Client.sameButToken_get hc hprepared rfl rfl env path c.timeout p
  · obtain ⟨h1, h2, h3⟩ := observe_fetch_of_illegal hid hs hne hp ht env s p
    obtain ⟨hkind, hmessage, hstatus, hexit, hcontext, base, hcause, hsame, hbase⟩ :=
      requestError_platform (.illegalHeaderValue ("Bearer " ++ token))
    exact ⟨h1, h2, _, base, h3, hkind, hmessage, hstatus, hexit, hcontext, hcause, hsame, hbase⟩

/-- Two legal tokens of the sample, and one that is not. -/
theorem fetch_sameButToken_sample :
    (sample.fetch .empty).SameButToken (sample.fetch .empty)
        ((answering 401 [] "denied").withToken "a") ((answering 401 [] "denied").withToken "b")
        {} {} ∧
      (sample.fetch .empty).requests ((answering 401 [] "denied").withToken "a\n") {} = [] := by
  have hscheme : Url.scheme? sample.http.base = some "local".toList := by decide +kernel
  constructor
  · have hp : sample.credential.Passes "a" := nofun
    have hp' : sample.credential.Passes "b" := nofun
    exact (fetch_sameButToken hp hp' .empty _ {}).1 fun _ _ _ => ⟨by decide, by decide⟩
  · have hp : sample.credential.Passes "a\n" := nofun
    exact ((fetch_sameButToken hp hp .empty _ {}).2 "p" _ projectId_sample hscheme (by decide)
      (by decide)).1

/-- Two tokens that are not legal can be told apart by what is logged. -/
theorem messages_ne_of_illegal :
    Url.scheme? sample.http.base = some "local".toList ∧
      ¬Headers.IsLegalToken "a\n" ∧ ¬Headers.IsLegalToken "b\n" ∧
      (sample.fetch .empty).messages ((answering 200 [] []).withToken "a\n") {} ≠
        (sample.fetch .empty).messages ((answering 200 [] []).withToken "b\n") {} := by
  have hscheme : Url.scheme? sample.http.base = some "local".toList := by decide +kernel
  have h1 : ¬Headers.IsLegalToken "a\n" := by decide
  have h2 : ¬Headers.IsLegalToken "b\n" := by decide
  obtain ⟨-, hmessages, -⟩ := observe_fetch_of_illegal projectId_sample hscheme
    (by decide) nofun h1 .empty (answering 200 [] []) {}
  obtain ⟨-, hmessages', -⟩ := observe_fetch_of_illegal projectId_sample hscheme
    (by decide) nofun h2 .empty (answering 200 [] []) {}
  rw [hmessages, hmessages']
  exact ⟨hscheme, h1, h2, by decide⟩

end TemplateClient

end ConfigClient
