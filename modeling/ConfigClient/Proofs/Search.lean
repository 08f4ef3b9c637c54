import ConfigClient.Proofs.Agreement
import ConfigClient.TemplateClient

/-!
# The search for the project

A client from the environment may have to ask its credential for the project. The search asks at
most once and for nothing else, and what comes of it depends on the answer alone.

* `Interaction.projectCalls`: how often an interaction asks for the project.
* `Interaction.Seeks`: interactions that ask for the project some times and otherwise only log.
* `Credential.located`, `Credential.seeks_projectId`: what a credential makes of the answer behind
  it.
* `TemplateClient.resolved`, `TemplateClient.seeks_ofEnvironment`: what a client from the
  environment makes of it.
-/

namespace ConfigClient

/-! ## Asking for the project -/

/-- Whether the credential is asked for its project. -/
def Event.isProjectCall : Event → Bool
  | ⟨.projectId, _⟩ => true
  | _ => false

/-- Whether something can be asked for while the project is looked up. -/
def Effect.seeksProject : Effect → Bool
  | .log _ => true
  | .projectId => true
  | _ => false

namespace Interaction

variable {α β : Type}

/-- How often an interaction asks the credential for its project. -/
def projectCalls (s : Surroundings) (p : Progress) (i : Interaction α) : Nat :=
  (i.history s p).countP Event.isProjectCall

/-- An interaction that asks for the project some times, apart from that only logs, and ends with a
result. -/
structure Seeks (s : Surroundings) (i : Interaction α) (n : Nat) (a : α) : Prop where
  only : ∀ p, ∀ ev ∈ i.history s p, ev.effect.seeksProject = true
  projectCalls_eq : ∀ p, i.projectCalls s p = n
  run_eq : ∀ p, ∃ q, i.run s p = some (a, q) ∧ q.Agrees p

theorem seeks_done (s : Surroundings) (a : α) : Seeks s (done a) 0 a :=
  ⟨fun _ => nofun, fun _ => rfl, fun p => ⟨p, rfl, .refl p⟩⟩

theorem seeks_log (s : Surroundings) (message : Text) : Seeks s (log message) 0 () :=
  ⟨fun _ _ hev => by rw [List.mem_singleton.1 hev]; rfl, fun _ => rfl,
    fun _ => ⟨_, rfl, rfl, rfl, rfl, rfl⟩⟩

theorem seeks_projectId (s : Surroundings) : Seeks s (perform .projectId) 1 s.project :=
  ⟨fun _ _ hev => by rw [List.mem_singleton.1 hev]; rfl, fun _ => rfl,
    fun _ => ⟨_, rfl, rfl, rfl, rfl, rfl⟩⟩

theorem Seeks.bind {s : Surroundings} {i : Interaction α} {f : α → Interaction β} {m n : Nat}
    {a : α} {b : β} (hi : Seeks s i m a) (hf : Seeks s (f a) n b) :
    Seeks s (i.bind f) (m + n) b := by
  have split (p : Progress) : ∃ q, (i.bind f).history s p = i.history s p ++ (f a).history s q ∧
      (i.bind f).run s p = (f a).run s q ∧ q.Agrees p := by
    obtain ⟨q, hq, hagrees⟩ := hi.run_eq p
    refine ⟨q, ?_, ?_, hagrees⟩
    · rw [history_bind, hq, Option.elim_some]
    · rw [run_bind, hq, Option.bind_some]
  refine ⟨fun p ev hev => ?_, fun p => ?_, fun p => ?_⟩
  · obtain ⟨q, hhistory, -⟩ := split p
    rw [hhistory, List.mem_append] at hev
    rcases hev with hev | hev
    · exact hi.only p ev hev
    · exact hf.only q ev hev
  · obtain ⟨q, hhistory, -⟩ := split p
    rw [projectCalls, hhistory, List.countP_append]
    show i.projectCalls s p + (f a).projectCalls s q = m + n
    rw [hi.projectCalls_eq, hf.projectCalls_eq]
  · obtain ⟨q, -, hrun, hagrees⟩ := split p
    obtain ⟨r, hr, hagrees'⟩ := hf.run_eq q
    exact ⟨r, hrun.trans hr, hagrees'.trans hagrees⟩

variable {s : Surroundings} {i : Interaction α} {n : Nat} {a : α}

theorem Seeks.result_eq (h : Seeks s i n a) (p : Progress) : i.result s p = some a := by
  obtain ⟨q, hq, -⟩ := h.run_eq p
  rw [result, hq]
  rfl

/-- Looking up the project neither sends anything nor asks for a token. -/
theorem Seeks.idle (h : Seeks s i n a) (p : Progress) :
    i.requests s p = [] ∧ i.tokenCalls s p = 0 := by
  constructor
  · rw [requests, List.filterMap_eq_nil_iff]
    intro ev hev
    have seeks := h.only p ev hev
    obtain ⟨effect, answer⟩ := ev
    cases effect with
    | send r => cases seeks
    | _ => rfl
  · rw [tokenCalls, List.countP_eq_zero]
    intro ev hev hcall
    have seeks := h.only p ev hev
    obtain ⟨effect, answer⟩ := ev
    cases effect with
    | accessToken => cases seeks
    | _ => cases hcall

end Interaction

open Interaction

/-- What a credential makes of the answer to the look-up behind it. A look-up of the default
credential that fails gives none. -/
def Credential.located : Credential → Except Fault Value → Except Fault Value
  | .given _, answer => answer
  | .applicationDefault, .ok v => .ok v
  | .applicationDefault, .error f =>
    match f.message.text with
    | .ok _ => .ok .undefined
    | .error e => .error (.platform e)

/-- What the default credential does with the answer. -/
def Credential.excuse : Except Fault Value → Attempt Value
  | .ok v => Attempt.succeed v
  | .error f =>
    Attempt.andThen (Attempt.ofExcept f.message.text) fun message =>
      Attempt.afterLog ("Unable to determine project id from credentials: " ++ message)
        (Attempt.succeed .undefined)

theorem Credential.projectId_applicationDefault :
    projectId .applicationDefault = (perform .projectId).bind excuse := rfl

theorem Credential.seeks_excuse (answer : Except Fault Value) (s : Surroundings) :
    Seeks s (excuse answer) 0 (located .applicationDefault answer) := by
  cases answer with
  | ok v => exact seeks_done s _
  | error f =>
    simp only [excuse, located]
    cases f.message.text with
    | error e => exact seeks_done s _
    | ok message =>
      refine (seeks_log s _).bind (n := 0) ?_
      exact seeks_done s _

theorem Credential.seeks_projectId (credential : Credential) (s : Surroundings) :
    Seeks s credential.projectId 1 (credential.located s.project) := by
  have asked := Interaction.seeks_projectId s
  cases credential with
  | given offersProject => exact asked
  | applicationDefault =>
    rw [projectId_applicationDefault]
    exact asked.bind (seeks_excuse s.project s)

namespace TemplateClient

/-! ## A client from the environment -/

/-- Whether the credential is asked for its project. -/
def seeks (env : Environment) (o : Options) : Bool :=
  !(knownProject env o).holds && o.credentialOrDefault.offersProject

/-- The project that is found, given the answer behind the credential. -/
def identified (env : Environment) (o : Options) (answer : Except Fault Value) :
    Except Fault Value :=
  if seeks env o then o.credentialOrDefault.located answer else .ok (knownProject env o)

/-- The options with a project and a credential of their own. -/
def Options.settled (o : Options) (projectId : Value) : Options :=
  { o with projectId, credential := some o.credentialOrDefault }

/-- The client for the project that is found, given the answer behind the credential. -/
def resolved (env : Environment) (o : Options) (answer : Except Fault Value) :
    Except Fault TemplateClient :=
  match identified env o answer with
  | .error f => .error f
  | .ok projectId => create env (o.settled projectId)

theorem seeks_ofEnvironment (env : Environment) (o : Options) (s : Surroundings) :
    Seeks s (ofEnvironment env o) (if seeks env o then 1 else 0) (resolved env o s.project) := by
  have found : Seeks s (if seeks env o then o.credentialOrDefault.projectId
      else Attempt.succeed (knownProject env o)) (if seeks env o then 1 else 0)
      (identified env o s.project) := by
    unfold identified
    split_ifs
    · exact o.credentialOrDefault.seeks_projectId s
    · exact seeks_done s _
  refine found.bind (n := 0) ?_
  unfold resolved
  cases identified env o s.project with
  | error f => exact seeks_done s _
  | ok projectId => exact seeks_done s _

end TemplateClient

end ConfigClient
