import ConfigClient.Proofs.Address
import ConfigClient.Proofs.Authorization

/-!
# Slashes at the joints of a URL

The URL of a request is put together from the client's own URL, the version and the path. A slash
at the end of the first or at the start of the last makes no difference, neither to the URL nor to
anything else that a call does, since all of it goes by the parts without these slashes.

* `withSlash_of_joint`, `withoutSlash_of_joint`: the parts.
* `Client.url_of_joint`: the URL of a path, with or without the slashes.
* `Client.get_of_joint`: the call, with or without them.
* `Client.get_joined`: all that can be seen of such calls, and what they request.
-/

namespace ConfigClient

variable {u p base path : Text}

/-! ## Parts of a URL -/

theorem withoutSlash_of_joint (hu : u.endsWith "/" = false) (hbase : base = u ∨ base = u ++ "/") :
    withoutSlash base = u := by
  rcases hbase with rfl | rfl
  · exact (withoutSlash_eq_self_iff base).2 hu
  · exact withoutSlash_append u

/-- A path gets the slash that it lacks and no other one. -/
theorem withSlash_of_joint (hp : p.startsWith "/" = false) (hpath : path = p ∨ path = "/" ++ p) :
    (if path.startsWith "/" then path else Text.unit '/' :: path) = Text.unit '/' :: p := by
  rcases hpath with rfl | rfl
  · simp [hp]
  · have hslash : Text.startsWith ("/" ++ p) "/" = true :=
      List.isPrefixOf_iff_prefix.2 (List.prefix_append _ p)
    rw [if_pos hslash]
    rfl

namespace Client

/-! ## A call and its URL -/

/-- A path counts in a call only by its URL. -/
theorem get_congr_url {c : Client} (h : c.url path = c.url p) (env : Environment)
    (given timeout : Value) :
    c.get env (.ok path) given timeout = c.get env (.ok p) given timeout := by
  have hdeliver (headers : Headers) :
      c.deliver env path timeout headers = c.deliver env p timeout headers := by
    unfold deliver
    rw [h]
  rw [get_eq, get_eq, funext hdeliver]

/-- What is requested has the URL of the path. -/
theorem url_of_mem_requests {c : Client} {env : Environment} {given timeout : Value}
    {s : Surroundings} {q : Progress} {r : Request}
    (hr : r ∈ (c.get env (.ok path) given timeout).requests s q) : r.url = c.url path := by
  cases hh : c.settled s.token given with
  | error f =>
    rw [(observe_get_of_unsettled hh env (.ok path) timeout q).1] at hr
    cases hr
  | ok h =>
    rw [(observe_get_of_settled hh env (.ok path) timeout q).1] at hr
    exact (mem_requests_deliver hr).1

/-! ## With and without the slashes -/

/-- The URL of a path: the parts with one slash between each two. -/
theorem url_of_joint (hu : u.endsWith "/" = false) (hp : p.startsWith "/" = false)
    (hbase : base = u ∨ base = u ++ "/") (hpath : path = p ∨ path = "/" ++ p) (apiVersion : Text)
    (credential : Option Credential) :
    (create base apiVersion credential).url path =
      u ++ (if apiVersion = [] then [] else Text.unit '/' :: apiVersion) ++ Text.unit '/' :: p := by
  unfold url create
  simp only [withoutSlash_of_joint hu hbase, withSlash_of_joint hp hpath]

/-- The call is the same, question by question, whatever is answered. -/
theorem get_of_joint (hu : u.endsWith "/" = false) (hp : p.startsWith "/" = false)
    (hbase : base = u ∨ base = u ++ "/") (hpath : path = p ∨ path = "/" ++ p) (apiVersion : Text)
    (credential : Option Credential) (env : Environment) (given timeout : Value) :
    (create base apiVersion credential).get env (.ok path) given timeout =
      (create u apiVersion credential).get env (.ok p) given timeout := by
  have hclient : create base apiVersion credential = create u apiVersion credential := by
    unfold create
    rw [withoutSlash_of_joint hu hbase, withoutSlash_of_joint hu (.inl rfl)]
  have hurl : (create u apiVersion credential).url path =
      (create u apiVersion credential).url p := by
    rw [url_of_joint hu hp (.inl rfl) hpath, url_of_joint hu hp (.inl rfl) (.inl rfl)]
  rw [hclient, get_congr_url hurl]

/-- A client whose URL has a slash at its end or not, and a path with a slash at its start or not:
the calls ask the same of the credential, send the same requests, log the same and end in the same
way. What is requested are the parts with one slash between each two. -/
theorem get_joined (hu : u.endsWith "/" = false) (hp : p.startsWith "/" = false)
    (hbase : base = u ∨ base = u ++ "/") (hpath : path = p ∨ path = "/" ++ p) (apiVersion : Text)
    (credential : Option Credential) (env : Environment) (given timeout : Value)
    (s : Surroundings) (q : Progress) :
    let i := (create base apiVersion credential).get env (.ok path) given timeout
    let j := (create u apiVersion credential).get env (.ok p) given timeout
    i.requests s q = j.requests s q ∧ i.tokenCalls s q = j.tokenCalls s q ∧
      i.messages s q = j.messages s q ∧ i.history s q = j.history s q ∧
      i.result s q = j.result s q ∧
      ∀ r ∈ i.requests s q,
        r.url =
          u ++ (if apiVersion = [] then [] else Text.unit '/' :: apiVersion) ++
            Text.unit '/' :: p := by
  intro i j
  have hsame : i = j := get_of_joint hu hp hbase hpath apiVersion credential env given timeout
  rw [hsame]
  refine ⟨rfl, rfl, rfl, rfl, rfl, fun r hr => ?_⟩
  rw [url_of_mem_requests hr, url_of_joint hu hp (.inl rfl) (.inl rfl)]

/-- An empty URL and an empty path, each with a slash, and a URL, a version and a path without. -/
theorem get_joined_empty :
    (∃ r ∈ ((create "/" [] none).get .empty (.ok "/") .undefined .undefined).requests secretive {},
      r.url = "/") ∧
    ∃ r ∈ ((create "local:" "v1" none).get .empty (.ok "a") .undefined .undefined).requests
      secretive {}, r.url = "local:/v1/a" := by
  have observed {u p base path : Text} (hu : u.endsWith "/" = false)
      (hp : p.startsWith "/" = false) (hbase : base = u ∨ base = u ++ "/")
      (hpath : path = p ∨ path = "/" ++ p) (apiVersion : Text) :=
    get_joined hu hp hbase hpath apiVersion none .empty .undefined .undefined secretive {}
  obtain ⟨-, -, -, -, -, hempty⟩ :=
    @observed [] [] "/" "/" rfl rfl (.inr rfl) (.inr rfl) []
  obtain ⟨-, -, -, -, -, hversion⟩ :=
    @observed "local:" "a" "local:" "a" (by decide) (by decide) (.inl rfl) (.inl rfl) "v1"
  exact ⟨⟨_, List.mem_singleton_self _, hempty _ (List.mem_singleton_self _)⟩,
    ⟨_, List.mem_singleton_self _, hversion _ (List.mem_singleton_self _)⟩⟩

end Client

end ConfigClient
