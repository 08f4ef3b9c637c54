import ConfigClient.Proofs.Authorization
import ConfigClient.Proofs.Headers.Given

/-!
# The headers of a request

The headers of a request are those of the caller, with three kinds of exception: some are forced,
the one by which the client presents itself is only added where the caller gave none, and the
authorization is that of the credential if there is one. Nothing is sent unless all of them are
legal, and those of the caller are looked at before anything else.

* `Client.requested`: the values that a name has in a request.
* `Client.Carries`, `Client.exists_carries`: what settled headers carry.
* `Client.exists_settled`: what it takes for headers to be settled.
* `Client.get_headers`: the headers of every request, and when there is none.
-/

namespace ConfigClient

open Interaction

namespace Client

/-! ## Values of names -/

/-- The values that a name in small letters has in a request. -/
def requested (pairs : List (Text × Text)) (bearer : Option Text) (name : Text) : List Text :=
  if name = "connection" then ["keep-alive"]
  else if name = "x-client-version" then [Service.clientName]
  else if name = "authorization" ∧ bearer.isSome then bearer.toList
  else if name = "user-agent" ∧ Headers.valuesFor pairs name = [] then [Service.clientName]
  else Headers.valuesFor pairs name

/-- The forced headers, and the one that is added where the caller gave none. -/
theorem get?_headers (given : Headers) {name : Text} (hname : name.lower = name) :
    (headers given).get? name =
      if name = "connection" then some ("keep-alive" : Text)
      else if name = "x-client-version" then some Service.clientName
      else if name = "user-agent" ∧ given.get? name = none then some Service.clientName
      else given.get? name := by
  have hconnection : ("Connection" : Text).lower = "connection" := rfl
  have hagent : ("User-Agent" : Text).lower = "user-agent" := rfl
  have hversion : ("X-Client-Version" : Text).lower = "x-client-version" := rfl
  have hne : ("user-agent" : Text) ≠ "connection" := by decide
  have hne' : ("connection" : Text) ≠ "x-client-version" := by decide
  have hpresent : (given.set "Connection" "keep-alive").has "User-Agent" =
      (given.get? "user-agent").isSome := by
    rw [Headers.has_eq, Headers.get?_set, hagent, hconnection, if_neg hne, ← hagent,
      Headers.get?_lower]
  unfold headers
  simp only [hpresent]
  cases hgiven : given.get? "user-agent" with
  | none =>
    simp only [Option.isSome_none, Bool.false_eq_true, if_false, Headers.get?_set, hname,
      hconnection, hagent, hversion]
    split_ifs <;> simp_all
  | some value =>
    have hfound : ¬(name = "user-agent" ∧ given.get? name = none) := by
      rintro ⟨rfl, hnone⟩
      rw [hgiven] at hnone
      cases hnone
    simp only [Option.isSome_some, if_true, Headers.get?_set, hname, hconnection, hversion, hfound,
      if_false]
    split_ifs <;> simp_all

/-! ## Requests with settled headers -/

theorem mem_requests_dispatch {c : Client} {env : Environment} {path : Path} {timeout : Value}
    {h : Headers} {s : Surroundings} {p : Progress} {r : Request}
    (hr : r ∈ (c.dispatch env path timeout h).requests s p) : r.headers = h := by
  cases path with
  | error v => cases hr
  | ok path => exact (mem_requests_deliver hr).2

variable {c : Client} {given : Value} {s : Surroundings}

/-- The headers of a request are those that were settled for it. -/
theorem settled_of_mem_requests {env : Environment} {path : Path} {timeout : Value} {p : Progress}
    {r : Request} (hr : r ∈ (c.get env path given timeout).requests s p) :
    c.settled s.token given = .ok r.headers := by
  cases hh : c.settled s.token given with
  | error f =>
    rw [(observe_get_of_unsettled hh env path timeout p).1] at hr
    cases hr
  | ok h =>
    rw [(observe_get_of_settled hh env path timeout p).1] at hr
    rw [mem_requests_dispatch hr]

/-! ## Settled headers -/

theorem proper_headers {given : Headers} (hp : given.Proper) : (headers given).Proper := by
  have hclient : Headers.isLegalValue Service.clientName = true := by decide
  have hconnection : (given.set "Connection" "keep-alive").Proper :=
    hp.set (by decide) (by decide)
  unfold headers
  simp only
  split_ifs
  · exact hconnection.set (by decide) hclient
  · exact (hconnection.set (by decide) hclient).set (by decide) hclient

/-- The authorization is put in if its value is legal, and is reported otherwise. -/
theorem set?_authorization (h : Headers) (value : Text) :
    h.set? "Authorization" value =
      if Headers.isLegalValue value then .ok (h.set "Authorization" value)
      else .error (.illegalHeaderValue value) := by
  have hname : Headers.isLegalName "Authorization" = true := by decide
  have hcomplaint : Headers.complaint ("Authorization", value) = .illegalHeaderValue value := rfl
  split_ifs with hvalue
  · exact Headers.set?_of_isLegal (m := ("Authorization", value)) ⟨hname, hvalue⟩ h
  · rw [← hcomplaint]
    exact Headers.set?_of_not_isLegal (m := ("Authorization", value)) (fun hm => hvalue hm.2) h

/-- Whether headers are legal and have the values that a request is to have. -/
structure Carries (pairs : List (Text × Text)) (bearer : Option Text) (h : Headers) : Prop where
  distinct : h.Distinct
  proper : h.Proper
  get?_eq : ∀ name : Text, name.lower = name →
    h.get? name = Headers.joined? (requested pairs bearer name)

theorem carries_headers {pairs : List (Text × Text)} {given : Headers} (hd : given.Distinct)
    (hp : given.Proper)
    (hg : ∀ name, given.get? name = Headers.joined? (Headers.valuesFor pairs name)) :
    Carries pairs none (headers given) := by
  refine ⟨distinct_headers hd, proper_headers hp, fun name hname => ?_⟩
  simp only [get?_headers given hname, hg, Headers.joined?_eq_none_iff, requested,
    Option.isSome_none, Bool.false_eq_true, and_false, if_false]
  split_ifs
  · exact (Headers.joined?_singleton _).symm
  · exact (Headers.joined?_singleton _).symm
  · exact (Headers.joined?_singleton _).symm
  · rfl

/-- The authorization replaces what the caller gave for it. -/
theorem Carries.authorize {pairs : List (Text × Text)} {h : Headers} (hs : Carries pairs none h)
    {value : Text} (hvalue : Headers.isLegalValue value = true) :
    Carries pairs (some value) (h.set "Authorization" value) := by
  have hlower : ("Authorization" : Text).lower = "authorization" := rfl
  refine ⟨hs.distinct.set _ _, hs.proper.set (by decide) hvalue, fun name hname => ?_⟩
  rw [Headers.get?_set, hname, hlower]
  split_ifs with hauthorization
  · have hrequested : requested pairs (some value) name = [value] := by
      rw [hauthorization]
      rfl
    rw [hrequested, Headers.joined?_singleton]
  · have hrequested : requested pairs (some value) name = requested pairs none name := by
      simp [requested, hauthorization]
    rw [hrequested, hs.get?_eq name hname]

/-- What is settled comes from legal pairs of the caller and a bearer value. -/
theorem exists_carries {answer : Except Fault Value} {h : Headers}
    (hh : c.settled answer given = .ok h) :
    ∃ pairs bearer, Headers.Gives given pairs ∧ (∀ m ∈ pairs, Headers.IsLegal m) ∧
      c.bearer answer = .ok bearer ∧ Carries pairs bearer h := by
  unfold settled at hh
  cases hgiven : Headers.ofValue given with
  | error e =>
    rw [hgiven] at hh
    cases hh
  | ok taken =>
    rw [hgiven] at hh
    obtain ⟨pairs, hpairs⟩ := Headers.gives_of_ofValue hgiven
    have hadded : Headers.appendAll? [] pairs = .ok taken := by
      rw [← Headers.ofValue_of_gives hpairs, hgiven]
    have carries : Carries pairs none (headers taken) :=
      carries_headers (Headers.distinct_of_ofValue hgiven)
        (Headers.proper_of_appendAll? Headers.proper_nil hadded) (Headers.get?_of_appendAll? hadded)
    refine ⟨pairs, ?_⟩
    simp only [authorized] at hh
    cases hbearer : c.bearer answer with
    | error f =>
      rw [hbearer] at hh
      cases hh
    | ok bearer =>
      rw [hbearer] at hh
      refine ⟨bearer, hpairs, Headers.isLegal_of_appendAll? hadded, rfl, ?_⟩
      cases bearer with
      | none =>
        cases hh
        exact carries
      | some value =>
        simp only [set?_authorization] at hh
        split_ifs at hh with hvalue
        · cases hh
          exact carries.authorize hvalue
        · cases hh

/-- Nothing but a header that is not legal keeps the headers from being settled. -/
theorem exists_settled {answer : Except Fault Value} {pairs : List (Text × Text)}
    {bearer : Option Text} (hgives : Headers.Gives given pairs)
    (hlegal : ∀ m ∈ pairs, Headers.IsLegal m) (hbearer : c.bearer answer = .ok bearer)
    (hvalue : ∀ value ∈ bearer, Headers.isLegalValue value = true) :
    ∃ h, c.settled answer given = .ok h := by
  obtain ⟨taken, htaken⟩ := (Headers.exists_ofValue_iff given).2 ⟨pairs, hgives, hlegal⟩
  simp only [settled, htaken, authorized, hbearer]
  cases bearer with
  | none => exact ⟨_, rfl⟩
  | some value =>
    simp only [set?_authorization, hvalue value rfl]
    exact ⟨_, rfl⟩

/-! ## Requests and refusals -/

/-- A call whose headers are settled sends its request. -/
theorem requests_of_settled {h : Headers} (hh : c.settled s.token given = .ok h) {timeout : Value}
    {timed : Bool} (ht : isTimed timeout = .ok timed) (env : Environment) (path : Text)
    (p : Progress) :
    (c.get env (.ok path) given timeout).requests s p =
      [⟨c.url path, h, Service.usesProxy env, timer s p timed⟩] := by
  obtain ⟨hrequests, -⟩ := observe_get_of_settled hh env (.ok path) timeout p
  rw [hrequests]
  exact (observe_deliver ht c env path h s _).1

theorem isSome_of_bearer {answer : Except Fault Value} {bearer : Option Text}
    (h : c.bearer answer = .ok bearer) : bearer.isSome ↔ c.credential.isSome := by
  unfold Client.bearer at h
  split at h
  · rename_i hc
    cases h
    simp [hc]
  · rename_i credential hc
    split at h
    · cases h
    · split at h
      · cases h
      · cases h
        simp [hc]

/-- Headers of the caller that are refused end the call before anything else is done. -/
theorem observe_get_of_refused {e : PlatformError} (he : Headers.ofValue given = .error e)
    (c : Client) (env : Environment) (path : Path) (timeout : Value) (s : Surroundings)
    (p : Progress) :
    let i := c.get env path given timeout
    i.requests s p = [] ∧ i.tokenCalls s p = 0 ∧ i.result s p = some (.error (.platform e)) := by
  have hsettled : c.settled s.token given = .error (.platform e) := by
    rw [settled, he]
  have hdemand : c.demand given = 0 := by
    rw [demand, asksFor, he, ite_self]
  obtain ⟨hrequests, -, -, hcalls, hresult⟩ := observe_get_of_unsettled hsettled env path timeout p
  exact ⟨hrequests, hcalls.trans hdemand, hresult⟩

/-- The headers of a request are determined by those of the caller and by the bearer value. As a map
from small letters they are the forced ones, the authorization if there is a credential, the name of
the client unless the caller gave one, and else those of the caller, each with its values in order;
no name occurs twice and all are legal. Headers of the caller that are not legal are reported before
a token is asked for, the first one first, and a bearer value that is not legal is reported, too;
neither is followed by a request. -/
theorem get_headers (c : Client) (env : Environment) (path : Path) (given timeout : Value)
    (s : Surroundings) (p : Progress) :
    let i := c.get env path given timeout
    (∀ r ∈ i.requests s p, ∃ pairs bearer,
      Headers.Gives given pairs ∧ (∀ m ∈ pairs, Headers.IsLegal m) ∧
        c.bearer s.token = .ok bearer ∧ (bearer.isSome ↔ c.credential.isSome) ∧
        (∀ name value, (name, value) ∈ r.headers.toList ↔
          name.lower = name ∧ Headers.joined? (requested pairs bearer name) = some value) ∧
        (r.headers.toList.map Prod.fst).Nodup ∧ ∀ m ∈ r.headers.toList, Headers.IsLegal m) ∧
    ((¬∃ pairs, Headers.Gives given pairs ∧ ∀ m ∈ pairs, Headers.IsLegal m) →
      i.requests s p = [] ∧ i.tokenCalls s p = 0 ∧
        ∃ e, i.result s p = some (.error (.platform e))) ∧
    (∀ before m after, Headers.Gives given (before ++ m :: after) →
      (∀ n ∈ before, Headers.IsLegal n) → ¬Headers.IsLegal m →
        i.requests s p = [] ∧ i.tokenCalls s p = 0 ∧
          i.result s p = some (.error (.platform (Headers.complaint m)))) ∧
    ∀ pairs value, Headers.Gives given pairs → (∀ m ∈ pairs, Headers.IsLegal m) →
      c.bearer s.token = .ok (some value) → Headers.isLegalValue value = false →
        i.requests s p = [] ∧
          i.result s p = some (.error (.platform (.illegalHeaderValue value))) := by
  simp only
  refine ⟨fun r hr => ?_, fun hgiven => ?_, fun before m after hgives hbefore hm => ?_,
    fun pairs value hgives hlegal hbearer hvalue => ?_⟩
  · obtain ⟨pairs, bearer, hgives, hlegal, hbearer, carries⟩ :=
      exists_carries (settled_of_mem_requests hr)
    refine ⟨pairs, bearer, hgives, hlegal, hbearer, isSome_of_bearer hbearer, fun name value => ?_,
      Headers.nodup_toList carries.distinct, fun m => Headers.isLegal_of_mem_toList carries.proper⟩
    rw [Headers.mem_toList_iff carries.distinct carries.proper]
    exact and_congr_right fun hname => by rw [carries.get?_eq name hname]
  · rw [← Headers.exists_ofValue_iff] at hgiven
    cases he : Headers.ofValue given with
    | ok taken => exact absurd ⟨taken, he⟩ hgiven
    | error e =>
      obtain ⟨hrequests, hcalls, hresult⟩ := observe_get_of_refused he c env path timeout s p
      exact ⟨hrequests, hcalls, e, hresult⟩
  · have he : Headers.ofValue given = .error (Headers.complaint m) := by
      rw [Headers.ofValue_of_gives hgives, Headers.appendAll?_of_not_isLegal hbefore hm]
    exact observe_get_of_refused he c env path timeout s p
  · obtain ⟨taken, htaken⟩ := (Headers.exists_ofValue_iff given).2 ⟨pairs, hgives, hlegal⟩
    have hsettled : c.settled s.token given = .error (.platform (.illegalHeaderValue value)) := by
      simp only [settled, htaken, authorized, hbearer, set?_authorization, hvalue]
      rfl
    obtain ⟨hrequests, -, -, -, hresult⟩ := observe_get_of_unsettled hsettled env path timeout p
    exact ⟨hrequests, hresult⟩

/-- Pairs of a caller that name one header twice and the client itself with an empty value. -/
def mixedPairs : List (Text × Text) :=
  [("X-A", "1"), ("USER-AGENT", []), ("x-a", "null"), ("authorization", "mine")]

/-- The same pairs as a caller may give them: a value that is no text counts as one. -/
def mixed : Value :=
  .array ([[.string "X-A", .string "1"], [.string "USER-AGENT", .string []],
    [.string "x-a", .null], [.string "authorization", .string "mine"]].map .array)

theorem gives_mixed : Headers.Gives mixed mixedPairs :=
  .list (.cons ⟨⟨_, rfl⟩, _, _, rfl, rfl, rfl⟩ (.cons ⟨⟨_, rfl⟩, _, _, rfl, rfl, rfl⟩
    (.cons ⟨⟨_, rfl⟩, _, _, rfl, rfl, rfl⟩ (.cons ⟨⟨_, rfl⟩, _, _, rfl, rfl, rfl⟩ .nil))))

/-- Headers that are taken, headers of which the second has no legal name, and a token that is not
legal. -/
theorem get_headers_mixed :
    let c := create "local:" [] (some (.given false))
    (∃ r ∈ (c.get .empty (.ok "a") mixed .undefined).requests secretive {},
      (("x-a" : Text), ("1, null" : Text)) ∈ r.headers.toList ∧
        (("user-agent" : Text), []) ∈ r.headers.toList ∧
        (("authorization" : Text), ("Bearer secret" : Text)) ∈ r.headers.toList) ∧
    (c.get .empty (.ok "a") (.object [("a", .string "1"), ("b b", .string "2")])
      .undefined).result secretive {} = some (.error (.platform (.illegalHeaderName "b b"))) ∧
    (c.get .empty (.ok "a") mixed .undefined).requests
      { secretive with token := .ok (.string "a\n") } {} = [] := by
  have hscheme : Url.scheme? (withoutSlash "local:") = some "local".toList := by decide +kernel
  have hbearer (token : Text) : (create "local:" [] (some (.given false))).bearer
      (.ok (.string token)) = .ok (some ("Bearer " ++ token)) := by
    have hne : "local".toList ≠ "http".toList := by decide
    simp only [Client.bearer, create, tokenFor, hscheme, if_neg hne, Credential.grant]
    rfl
  have hlegal : ∀ m ∈ mixedPairs, Headers.IsLegal m := by decide
  intro c
  refine ⟨?_, ?_, ?_⟩
  · obtain ⟨h, hh⟩ := exists_settled (c := c) gives_mixed hlegal (hbearer "secret") (by decide)
    have hr := List.mem_singleton_self
      (⟨c.url "a", h, Service.usesProxy .empty, timer secretive {} false⟩ : Request)
    have ht : isTimed .undefined = .ok false := rfl
    rw [← requests_of_settled (s := secretive) hh ht .empty "a" {}] at hr
    obtain ⟨pairs, bearer, hgives, -, hb, -, hmap, -⟩ :=
      (get_headers c .empty (.ok "a") mixed .undefined secretive {}).1 _ hr
    cases hgives.unique gives_mixed rfl
    cases (hbearer "secret").symm.trans hb
    exact ⟨_, hr, (hmap _ _).2 ⟨by decide, by decide⟩, (hmap _ _).2 ⟨by decide, by decide⟩,
      (hmap _ _).2 ⟨by decide, by decide⟩⟩
  · have hgives : Headers.Gives (.object [("a", .string "1"), ("b b", .string "2")])
        ([(("a" : Text), ("1" : Text))] ++ (("b b" : Text), ("2" : Text)) :: []) :=
      .record (.cons ⟨rfl, rfl⟩ (.cons ⟨rfl, rfl⟩ .nil))
    exact ((get_headers c .empty (.ok "a") _ .undefined secretive {}).2.2.1 _ _ _ hgives
      (by decide) (by decide)).2.2
  · exact ((get_headers c .empty (.ok "a") mixed .undefined
      { secretive with token := .ok (.string "a\n") } {}).2.2.2 mixedPairs ("Bearer " ++ "a\n")
      gives_mixed hlegal (hbearer "a\n") (by decide)).1

end Client

end ConfigClient
