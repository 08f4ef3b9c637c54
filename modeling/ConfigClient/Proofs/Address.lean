import ConfigClient.Proofs.Fetch

/-!
# The address of a template

A client takes one slash from the end of its origin, and the HTTP client under it takes another. The
address that it gives and the one that it requests are the same just where the second step finds no
slash.

* `request_url`: the address that a fetch requests.
* `request_url_eq_iff`: it is the one that the client gives unless the origin ends with two slashes.
-/

namespace ConfigClient

/-! ## Slashes at the end -/

theorem withoutSlash_append (v : Text) : withoutSlash (v ++ "/") = v := by
  have h : Text.endsWith (v ++ "/") "/" = true :=
    List.isSuffixOf_iff_suffix.2 (List.suffix_append v _)
  have hslash : ("/" : Text) = [Text.unit '/'] := rfl
  rw [withoutSlash, if_pos h, hslash, List.dropLast_concat]

theorem withoutSlash_eq_self_iff (t : Text) : withoutSlash t = t ↔ t.endsWith "/" = false := by
  cases h : t.endsWith "/" with
  | false => simp [withoutSlash, h]
  | true =>
    obtain ⟨v, rfl⟩ := List.isSuffixOf_iff_suffix.1 h
    have hne : v ≠ v ++ ("/" : Text) := by
      intro heq
      have hlength : v.length = (v ++ ("/" : Text)).length := congrArg List.length heq
      have hslash : ("/" : Text).length = 1 := rfl
      rw [List.length_append] at hlength
      omega
    rw [withoutSlash_append]
    simp [hne]

/-- A text ends with a slash after one was taken from it just if it ended with two. -/
theorem endsWith_withoutSlash (t : Text) : (withoutSlash t).endsWith "/" = t.endsWith "//" := by
  have htwo : ("//" : Text) = ("/" : Text) ++ ("/" : Text) := rfl
  unfold Text.endsWith
  rw [Bool.eq_iff_iff, List.isSuffixOf_iff_suffix, List.isSuffixOf_iff_suffix, htwo]
  constructor
  · intro h
    by_cases hslash : t.endsWith "/" = true
    · obtain ⟨v, rfl⟩ := List.isSuffixOf_iff_suffix.1 hslash
      rw [withoutSlash_append] at h
      obtain ⟨w, rfl⟩ := h
      exact ⟨w, by rw [List.append_assoc]⟩
    · rw [(withoutSlash_eq_self_iff t).2 (by simpa using hslash)] at h
      exact absurd (List.isSuffixOf_iff_suffix.2 h) hslash
  · rintro ⟨w, rfl⟩
    rw [← List.append_assoc, withoutSlash_append]
    exact List.suffix_append w _

namespace TemplateClient

/-! ## Two addresses -/

theorem origin_of_create {env : Environment} {o : Options} {c : TemplateClient} {origin : Text}
    (hc : create env o = .ok c) (ho : o.originIn env = .ok origin) :
    c.origin = withoutSlash origin := by
  unfold create at hc
  split_ifs at hc
  unfold Options.client at hc
  rw [ho] at hc
  cases hc
  rfl

/-- A path starts with a slash. -/
theorem exists_of_path {c : TemplateClient} {path : Text} (h : c.path = .ok path) :
    ∃ id, c.projectId.text = .ok id ∧ path = "/projects/" ++ id ++ "/remoteConfig" := by
  unfold TemplateClient.path at h
  cases hid : c.projectId.text with
  | error e =>
    rw [hid] at h
    cases h
  | ok id =>
    rw [hid] at h
    cases h
    exact ⟨id, rfl, rfl⟩

theorem http_url {c : TemplateClient} {path : Text} (h : c.path = .ok path) :
    c.http.url path = withoutSlash c.origin ++ "/v1" ++ path := by
  obtain ⟨id, -, rfl⟩ := exists_of_path h
  have hversion : ("/v1" : Text) = Text.unit '/' :: ("v1" : Text) := rfl
  have hpath : Text.startsWith ("/projects/" ++ id ++ "/remoteConfig") "/" = true := rfl
  have hne : ("v1" : Text) ≠ [] := by decide
  simp only [http, Client.create, Client.url, hpath, hne, hversion, if_true, if_false]

theorem request_url {c : TemplateClient} {env : Environment} {s : Surroundings} {p : Progress}
    {r : Request} (hr : r ∈ (c.fetch env).requests s p) :
    ∃ path, c.path = .ok path ∧ r.url = withoutSlash c.origin ++ "/v1" ++ path := by
  rcases fetch_cases c env s p with
    ⟨e, -, hrequests, -⟩ | ⟨path, hpath, ⟨f, hrequests, -⟩ | ⟨r', ending, hurl, hrequests, -⟩⟩
  · rw [hrequests] at hr
    cases hr
  · rw [hrequests] at hr
    cases hr
  · rw [hrequests] at hr
    refine ⟨path, hpath, ?_⟩
    rw [List.mem_singleton.1 hr, hurl, http_url hpath]

/-- A fetch requests the address that the client gives just if the origin that the client was built
from does not end with two slashes. -/
theorem request_url_eq_iff {env env' : Environment} {o : Options} {c : TemplateClient}
    {origin : Text} {s : Surroundings} {p : Progress} {r : Request}
    (ho : o.originIn env = .ok origin) (hc : create env o = .ok c)
    (hr : r ∈ (c.fetch env').requests s p) :
    c.url = .ok r.url ↔ origin.endsWith "//" = false := by
  obtain ⟨path, hpath, hurl⟩ := request_url hr
  have hc' : c.url = .ok (withoutSlash origin ++ "/v1" ++ path) := by
    rw [url, hpath, origin_of_create hc ho]
    rfl
  rw [hc', hurl, origin_of_create hc ho, Except.ok.injEq, List.append_left_inj,
    List.append_left_inj, eq_comm, withoutSlash_eq_self_iff, endsWith_withoutSlash]

/-- The options of the sample client with another origin. -/
def sampleOptions (origin : Text) : Options where
  projectId := .string "p"
  credential := some (.given false)
  origin := .string origin

/-- A client that sends the requests of the sample sends one. -/
theorem exists_request {c : TemplateClient} {path : Text} (hpath : c.path = .ok path)
    (hhttp : c.http = sample.http) (htimeout : c.timeout = .undefined) :
    ∃ r, r ∈ (c.fetch .empty).requests (answering 200 [] []) {} := by
  obtain ⟨h, q, hp⟩ := prepare_sample 200 [] []
  rw [← hhttp] at hp
  have ht : Client.isTimed c.timeout = .ok false := by
    rw [htimeout]
    rfl
  obtain ⟨hrequests, -⟩ := observe_fetch_of_answered hpath hp ht rfl .empty
  rw [hrequests]
  exact ⟨_, List.mem_singleton_self _⟩

theorem request_url_of_one_slash :
    create .empty (sampleOptions "local:/") = .ok sample ∧
      ∃ r ∈ (sample.fetch .empty).requests (answering 200 [] []) {}, sample.url = .ok r.url := by
  have hc : create .empty (sampleOptions "local:/") = .ok sample := rfl
  obtain ⟨r, hr⟩ := exists_request (c := sample) rfl rfl rfl
  exact ⟨hc, r, hr, (request_url_eq_iff rfl hc hr).2 rfl⟩

/-- The sample client for an origin that ended with two slashes. -/
def doubled : TemplateClient := { sample with origin := "local:/" }

theorem request_url_ne_of_two_slashes :
    create .empty (sampleOptions "local://") = .ok doubled ∧
      ∃ r ∈ (doubled.fetch .empty).requests (answering 200 [] []) {}, doubled.url ≠ .ok r.url := by
  obtain ⟨r, hr⟩ := exists_request (c := doubled) rfl rfl rfl
  obtain ⟨path, hpath, hurl⟩ := request_url hr
  cases hpath
  refine ⟨rfl, r, hr, ?_⟩
  rw [hurl]
  decide

end TemplateClient

end ConfigClient
