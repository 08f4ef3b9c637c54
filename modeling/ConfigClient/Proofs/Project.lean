import ConfigClient.Proofs.HttpFailure
import ConfigClient.Proofs.Search

/-!
# Finding the project

A client from the environment is one for the first project that is named: by the options, by one of
two variables, or by the credential. What is found makes the same client as naming it in the options
does. The configuration error is the only failure, but for a credential that was handed in and whose
own failure is passed on, and for a failure of the default credential that cannot be logged.

* `firstId`: the first id that is there and not empty.
* `Credential.Knows`: what a credential is found to know.
* `TemplateClient.Lacks`: the failure of a search that has found no id.
* `TemplateClient.identified_of_near`, `TemplateClient.identified_of_far`: the project that is
  found.
* `TemplateClient.ofEnvironment_resolves`: which project is found, and what it makes.
* `TemplateClient.ofEnvironment_error_iff`: all failures.
-/

namespace ConfigClient

open Interaction

/-! ## Ids -/

/-- Whether a value is a text where one may be missing. -/
inductive Value.Optional : Value → Option Text → Prop
  | undefined : Optional .undefined none
  | null : Optional .null none
  | string (t : Text) : Optional (.string t) (some t)

/-- The first id that is there and not empty. -/
def firstId (ids : List (Option Text)) : Option Text :=
  ids.findSome? fun id => id.filter (· ≠ [])

theorem firstId_cons (id : Option Text) (ids : List (Option Text)) :
    firstId (id :: ids) = (firstId [id]).or (firstId ids) := by
  unfold firstId
  rw [List.findSome?_cons, List.findSome?_cons, List.findSome?_nil]
  cases id.filter (· ≠ []) <;> rfl

theorem firstId_append (ids ids' : List (Option Text)) :
    firstId (ids ++ ids') = (firstId ids).or (firstId ids') := by
  unfold firstId
  rw [List.findSome?_append]

theorem firstId_eq_none_iff (ids : List (Option Text)) :
    firstId ids = none ↔ ∀ id ∈ ids, id = none ∨ id = some [] := by
  unfold firstId
  rw [List.findSome?_eq_none_iff]
  refine forall₂_congr fun id _ => ?_
  cases id <;> simp

/-- The first id found is not empty, so looking for it again finds it. -/
theorem firstId_firstId (ids : List (Option Text)) : firstId [firstId ids] = firstId ids := by
  have hne (t : Text) (h : firstId ids = some t) : t ≠ [] := by
    obtain ⟨id, -, hid⟩ := List.exists_of_findSome?_eq_some h
    exact of_decide_eq_true (Option.filter_eq_some_iff.1 hid).2
  cases hids : firstId ids with
  | none => rfl
  | some t => simp [firstId, hne t hids]

theorem firstId_of_eq {ids : List (Option Text)} {t : Text} (h : firstId ids = some t) :
    firstId [some t] = some t := by
  rw [← h, firstId_firstId]

/-- An id as a value, undefined if there is none. -/
def idValue : Option Text → Value
  | none => .undefined
  | some t => .string t

/-- A text counts as true if it is not empty. -/
theorem Value.Optional.holds_eq {v : Value} {id : Option Text} (h : v.Optional id) :
    v.holds = (firstId [id]).isSome := by
  cases h with
  | string t => cases t <;> rfl
  | _ => rfl

/-- A text that is not empty stands before a further id. -/
theorem Value.Optional.ite_holds {v : Value} {id : Option Text} (h : v.Optional id)
    (rest : Option Text) :
    (if v.holds then v else idValue rest) = idValue ((firstId [id]).or rest) := by
  cases h with
  | string t => cases t <;> rfl
  | _ => rfl

/-- A text that may be missing has a text, and is the one that it is found to be. -/
theorem Value.Optional.eq_string {v : Value} {id : Option Text} (h : v.Optional id) {t : Text}
    (ht : firstId [id] = some t) : v = .string t := by
  cases h with
  | string t' =>
    cases t' with
    | nil => cases ht
    | cons u rest =>
      cases ht
      rfl
  | _ => cases ht

theorem optional_idValue (id : Option Text) : (idValue id).Optional id := by
  cases id with
  | none => exact .undefined
  | some t => exact .string t

/-- The first of several variables that is set and not empty, if the names stand for nothing
else. -/
theorem Environment.first_eq_idValue (env : Environment) {names : List Text}
    (h : ∀ name ∈ names, kept name = name ∧ Inherited.value? name = none) :
    env.first names = idValue (firstId (names.map env)) := by
  induction names with
  | nil => rfl
  | cons name names ih =>
    obtain ⟨hkept, hinherited⟩ := h name List.mem_cons_self
    have hlookup : env.lookup name = idValue (env name) := by
      rw [lookup, hkept, hinherited]
      cases env name <;> rfl
    have hholds := (optional_idValue (env name)).holds_eq
    have hrest := ih fun name hname => h name (List.mem_cons_of_mem _ hname)
    unfold first at hrest ⊢
    rw [List.map_cons, List.map_cons, List.find?_cons, hlookup, hholds, firstId_cons]
    cases hvalue : env name with
    | none => exact hrest
    | some t =>
      cases t with
      | nil => exact hrest
      | cons u t => rfl

namespace Credential

/-- What a credential is found to know that looks up a text, or nothing. A look-up of the default
credential may also fail. -/
inductive Knows : Credential → Except Fault Value → Option Text → Prop
  | silent (answer : Except Fault Value) : Knows (.given false) answer none
  | given {v : Value} {id : Option Text} (h : v.Optional id) : Knows (.given true) (.ok v) id
  | found {v : Value} {id : Option Text} (h : v.Optional id) : Knows applicationDefault (.ok v) id
  | lost (f : Fault) : Knows applicationDefault (.error f) none

/-- Whether the message that is logged about a look-up of the default credential that fails has a
text. -/
def Shown (credential : Credential) (answer : Except Fault Value) : Prop :=
  ∀ f, credential = .applicationDefault → answer = .error f → ∃ t, f.message.text = .ok t

/-- A look-up that ends well had nothing to log, or could log it. -/
theorem shown_of_located {credential : Credential} {answer : Except Fault Value} {v : Value}
    (h : credential.located answer = .ok v) : credential.Shown answer := by
  rintro f rfl rfl
  cases ht : f.message.text with
  | ok t => exact ⟨t, rfl⟩
  | error e =>
    rw [located, ht] at h
    cases h

theorem Knows.located_eq {credential : Credential} {answer : Except Fault Value}
    {id : Option Text} (h : credential.Knows answer id)
    (hoffers : credential.offersProject = true) :
    (∃ v, credential.located answer = .ok v ∧ v.Optional id) ∨
      id = none ∧ ∃ f e, credential = .applicationDefault ∧ answer = .error f ∧
        f.message.text = .error e ∧ credential.located answer = .error (.platform e) := by
  cases h with
  | silent answer => cases hoffers
  | given h => exact .inl ⟨_, rfl, h⟩
  | found h => exact .inl ⟨_, rfl, h⟩
  | lost f =>
    rw [located]
    cases ht : f.message.text with
    | ok t => exact .inl ⟨_, rfl, .undefined⟩
    | error e => exact .inr ⟨rfl, f, e, rfl, rfl, ht, rfl⟩

theorem Knows.eq_none {credential : Credential} {answer : Except Fault Value} {id : Option Text}
    (h : credential.Knows answer id) (hoffers : credential.offersProject = false) : id = none := by
  cases h with
  | silent answer => rfl
  | _ => cases hoffers

end Credential

namespace TemplateClient

variable {env : Environment} {o : Options}

/-- The ids that are looked at before the credential is asked. -/
def nearIds (env : Environment) (named : Option Text) : List (Option Text) :=
  [named, env "GOOGLE_CLOUD_PROJECT", env "GCLOUD_PROJECT"]

theorem knownProject_eq {named : Option Text} (h : o.projectId.Optional named)
    (env : Environment) : knownProject env o = idValue (firstId (nearIds env named)) := by
  have hvariables : env.first Service.projectVariables =
      idValue (firstId [env "GOOGLE_CLOUD_PROJECT", env "GCLOUD_PROJECT"]) :=
    env.first_eq_idValue (by decide)
  rw [knownProject, hvariables, h.ite_holds, ← firstId_cons, nearIds]

theorem exists_originIn {origin : Option Text} (ho : o.origin.Optional origin)
    (env : Environment) : ∃ base, o.originIn env = .ok base := by
  unfold Options.originIn
  generalize o.origin = v at ho ⊢
  cases ho <;> exact ⟨_, rfl⟩

/-- A project that does not count as true is the configuration error. -/
theorem create_settled_of_not_holds {v : Value} (hv : v.holds = false) (env : Environment)
    (o : Options) : create env (o.settled v) = .error (.library missingProject) := by
  have hprojectId : (o.settled v).projectId = v := rfl
  rw [create, hprojectId, hv]
  rfl

/-- A project that counts as true makes a client. -/
theorem create_settled_of_holds {v : Value} (hv : v.holds = true) {origin : Option Text}
    (ho : o.origin.Optional origin) (env : Environment) :
    ∃ c, create env (o.settled v) = .ok c ∧ c.projectId = v := by
  have hprojectId : (o.settled v).projectId = v := rfl
  obtain ⟨base, hbase⟩ := exists_originIn (o := o.settled v) ho env
  simp only [create, Options.client, hprojectId, hv, hbase]
  exact ⟨_, rfl, rfl⟩

/-! ## What is found -/

variable {s : Surroundings} {named origin : Option Text}

/-- The credential is asked if it can look up the project and no id comes before. -/
theorem seeks_iff (h : o.projectId.Optional named) (env : Environment) :
    seeks env o = true ↔
      firstId (nearIds env named) = none ∧ o.credentialOrDefault.offersProject = true := by
  rw [seeks, knownProject_eq h, (optional_idValue _).holds_eq, firstId_firstId, Bool.and_eq_true,
    Bool.not_eq_true', Option.isSome_eq_false_iff, Option.isNone_iff_eq_none]

/-- Where an id comes before the credential, it is the project. -/
theorem identified_of_near (hnamed : o.projectId.Optional named) {t : Text}
    (hnear : firstId (nearIds env named) = some t) (answer : Except Fault Value) :
    identified env o answer = .ok (.string t) := by
  have hseeks : ¬seeks env o = true := by
    rw [seeks_iff hnamed, hnear]
    rintro ⟨⟨⟩, -⟩
  rw [identified, if_neg hseeks, knownProject_eq hnamed, hnear]
  rfl

/-- Where none does, it is what the credential looks up. -/
theorem identified_of_far (hnamed : o.projectId.Optional named)
    (hnear : firstId (nearIds env named) = none) (answer : Except Fault Value) :
    identified env o answer =
      if o.credentialOrDefault.offersProject then o.credentialOrDefault.located answer
      else .ok .undefined := by
  rw [identified, knownProject_eq hnamed, hnear]
  exact if_congr ((seeks_iff hnamed env).trans (and_iff_right hnear)) rfl rfl

/-- The project that is found is the first id of all, if the search does not fail before. -/
theorem identified_of_knows (hnamed : o.projectId.Optional named) {answer : Option Text}
    (hanswer : o.credentialOrDefault.Knows s.project answer) (env : Environment) :
    (∃ v id, identified env o s.project = .ok v ∧ v.Optional id ∧
      firstId [id] = firstId (nearIds env named ++ [answer]) ∧
      (firstId (nearIds env named) = none → o.credentialOrDefault.Shown s.project)) ∨
    firstId (nearIds env named ++ [answer]) = none ∧
      ∃ f e, o.credentialOrDefault = .applicationDefault ∧ s.project = .error f ∧
        f.message.text = .error e ∧ identified env o s.project = .error (.platform e) := by
  rw [firstId_append]
  cases hnear : firstId (nearIds env named) with
  | some t =>
    exact .inl ⟨.string t, some t, identified_of_near hnamed hnear _, .string t,
      firstId_of_eq hnear, nofun⟩
  | none =>
    rw [identified_of_far hnamed hnear, Option.none_or]
    cases hoffers : o.credentialOrDefault.offersProject with
    | true =>
      rcases hanswer.located_eq hoffers with ⟨v, hv, hoptional⟩ | ⟨rfl, f, e, hc, hf, ht, hlocated⟩
      · exact .inl ⟨v, answer, hv, hoptional, rfl, fun _ => Credential.shown_of_located hv⟩
      · exact .inr ⟨rfl, f, e, hc, hf, ht, hlocated⟩
    | false =>
      rw [hanswer.eq_none hoffers]
      refine .inl ⟨.undefined, none, rfl, .undefined, rfl, fun _ f hc => ?_⟩
      rw [hc] at hoffers
      cases hoffers

/-- The failure of a search that has found no id: the configuration error, or what logging the
failure of the default credential raises. -/
inductive Lacks (credential : Credential) (answer : Except Fault Value) : Fault → Prop
  | missing (h : credential.Shown answer) : Lacks credential answer (.library missingProject)
  | mute {f : Fault} {e : PlatformError} (hc : credential = .applicationDefault)
    (hanswer : answer = .error f) (he : f.message.text = .error e) :
    Lacks credential answer (.platform e)

theorem lacks_iff_of_shown {credential : Credential} {answer : Except Fault Value}
    (h : credential.Shown answer) (f : Fault) :
    Lacks credential answer f ↔ f = .library missingProject := by
  constructor
  · rintro (_ | ⟨hc, hanswer, he⟩)
    · rfl
    · obtain ⟨t, ht⟩ := h _ hc hanswer
      rw [he] at ht
      cases ht
  · rintro rfl
    exact .missing h

theorem lacks_iff_of_mute {credential : Credential} {answer : Except Fault Value} {f : Fault}
    {e : PlatformError} (hc : credential = .applicationDefault) (hanswer : answer = .error f)
    (he : f.message.text = .error e) (g : Fault) :
    Lacks credential answer g ↔ g = .platform e := by
  constructor
  · rintro (h | ⟨-, hanswer', he'⟩)
    · obtain ⟨t, ht⟩ := h f hc hanswer
      rw [he] at ht
      cases ht
    · cases hanswer.symm.trans hanswer'
      cases he.symm.trans he'
      rfl
  · rintro rfl
    exact .mute hc hanswer he

/-- The first id of all makes the client that naming it in the options does, and without any there
is no client. -/
theorem resolved_of_knows (hnamed : o.projectId.Optional named)
    (horigin : o.origin.Optional origin) {answer : Option Text}
    (hanswer : o.credentialOrDefault.Knows s.project answer) (env : Environment) :
    (firstId (nearIds env named ++ [answer]) = none →
      ∃ f, resolved env o s.project = .error f ∧
        ∀ g, Lacks o.credentialOrDefault s.project g ↔ g = f) ∧
    ∀ t, firstId (nearIds env named ++ [answer]) = some t →
      ∃ c, resolved env o s.project = .ok c ∧ create env (o.settled (.string t)) = .ok c ∧
        c.projectId = .string t := by
  rcases identified_of_knows hnamed hanswer env with
    ⟨v, id, hv, hoptional, hid, hshown⟩ | ⟨hnone, f, e, hc, hf, he, hidentified⟩
  · have hholds := hoptional.holds_eq
    simp only [resolved, hv]
    rw [hid] at hholds
    constructor
    · intro hnone
      rw [hnone] at hholds
      have hnear : firstId (nearIds env named) = none :=
        (Option.or_eq_none_iff.1 ((firstId_append _ _).symm.trans hnone)).1
      exact ⟨_, create_settled_of_not_holds hholds env o, lacks_iff_of_shown (hshown hnear)⟩
    · intro t ht
      rw [ht] at hholds
      obtain rfl := hoptional.eq_string (hid.trans ht)
      obtain ⟨c, hc, hprojectId⟩ := create_settled_of_holds hholds horigin env
      exact ⟨c, hc, hc, hprojectId⟩
  · simp only [resolved, hidentified]
    refine ⟨fun _ => ⟨_, rfl, lacks_iff_of_mute hc hf he⟩, fun t ht => ?_⟩
    rw [hnone] at ht
    cases ht

theorem exit_raise (message : Text) (n : Nat) :
    (LibraryError.raise message { exit := .number (.ofNat n) }).exit = .number (.ofNat n) :=
  LibraryError.settle_number (Double.ofNat_ne_nan n) _

/-- Several fetches of one client, each in an environment of its own, one after another. -/
def fetchAll (c : TemplateClient) : List Environment → Interaction (List (Except Fault Template))
  | [] => .done []
  | env :: rest =>
    (c.fetch env).bind fun first => (c.fetchAll rest).bind fun others => .done (first :: others)

/-- The project that a client from the environment is for: the first id that is given and not
empty, of the options, two variables and the credential. The credential is asked once, if it can
look up the project and no other id comes first, and else not at all; nothing is sent and no token
is asked for. Only without any id there is a failure, the configuration error unless that of the
default credential cannot be logged. With an id the client is what naming it in the options makes,
and whatever is fetched with it later looks the same. -/
theorem ofEnvironment_resolves {answer : Option Text} (hnamed : o.projectId.Optional named)
    (horigin : o.origin.Optional origin)
    (hanswer : o.credentialOrDefault.Knows s.project answer) (env : Environment) (p : Progress) :
    let i := ofEnvironment env o
    let near := [named, env "GOOGLE_CLOUD_PROJECT", env "GCLOUD_PROJECT"]
    (i.projectCalls s p =
      if firstId near = none ∧ o.credentialOrDefault.offersProject = true then 1 else 0) ∧
    i.tokenCalls s p = 0 ∧ i.requests s p = [] ∧
    (∀ f, i.result s p = some (.error f) ↔
      (∀ id ∈ near ++ [answer], id = none ∨ id = some []) ∧
        Lacks o.credentialOrDefault s.project f) ∧
    missingProject.kind = .general ∧ missingProject.exit = .number (.ofNat 2) ∧
    ∀ id, firstId (near ++ [answer]) = some id → ∃ c q,
      i.run s p = some (.ok c, q) ∧ c.projectId = .string id ∧
      create env { o with projectId := .string id, credential := some o.credentialOrDefault } =
        .ok c ∧
      ∀ later, LooksSame s (c.fetchAll later) q p := by
  have found := seeks_ofEnvironment env o s
  obtain ⟨hrequests, htokens⟩ := found.idle p
  obtain ⟨hmissing, hresolved⟩ := resolved_of_knows hnamed horigin hanswer env
  refine ⟨?_, htokens, hrequests, fun f => ?_, rfl, exit_raise _ 2,
    fun id hid => ?_⟩
  · rw [found.projectCalls_eq]
    exact if_congr (seeks_iff hnamed env) rfl rfl
  · rw [found.result_eq, ← firstId_eq_none_iff, Option.some.injEq]
    change _ ↔ firstId (nearIds env named ++ [answer]) = none ∧ _
    cases hall : firstId (nearIds env named ++ [answer]) with
    | none =>
      obtain ⟨g, hg, hlacks⟩ := hmissing hall
      rw [hg, hlacks, Except.error.injEq, and_iff_right rfl, eq_comm]
    | some t =>
      obtain ⟨c, hc, -⟩ := hresolved t hall
      rw [hc]
      constructor
      · rintro ⟨⟩
      · rintro ⟨⟨⟩, -⟩
  · obtain ⟨c, hc, hcreate, hprojectId⟩ := hresolved id hid
    obtain ⟨q, hq, hagrees⟩ := found.run_eq p
    rw [hc] at hq
    exact ⟨c, q, hq, hprojectId, hcreate, fun later => looksSame_of_agrees hagrees s _⟩

/-- Surroundings in which only the project matters. -/
def naming (project : Except Fault Value) : Surroundings := { answering 200 [] [] with project }

/-- An empty id in the options and an empty variable leave it to the credential to name the project,
and so does nothing at all; the default credential names none if its look-up fails. -/
theorem ofEnvironment_resolves_last :
    (∃ c q, (ofEnvironment (Environment.empty.set "GOOGLE_CLOUD_PROJECT" [])
        { projectId := .string [], credential := some (.given true) }).run
          (naming (.ok (.string "p"))) {} = some (.ok c, q) ∧ c.projectId = .string "p") ∧
      (ofEnvironment .empty {}).projectCalls
        (naming (.error (.plain "Error" "no project" []))) {} = 1 ∧
      (ofEnvironment .empty {}).result (naming (.error (.plain "Error" "no project" []))) {} =
        some (.error (.library missingProject)) := by
  obtain ⟨-, -, -, -, -, -, hresolved⟩ := @ofEnvironment_resolves
    { projectId := .string [], credential := some (.given true) } (naming (.ok (.string "p")))
    (some []) none (some "p") (.string []) .undefined (.given (.string "p"))
    (Environment.empty.set "GOOGLE_CLOUD_PROJECT" []) {}
  obtain ⟨hcalls, -, -, herror, -⟩ := @ofEnvironment_resolves
    {} (naming (.error (.plain "Error" "no project" []))) none none none .undefined .undefined
    (.lost _) .empty {}
  obtain ⟨c, q, hrun, hprojectId, -⟩ := hresolved "p" (by decide)
  have hshown : Credential.applicationDefault.Shown (.error (.plain "Error" "no project" [])) := by
    rintro f - ⟨⟩
    exact ⟨_, rfl⟩
  exact ⟨⟨c, q, hrun, hprojectId⟩, hcalls, (herror _).2 ⟨by decide, .missing hshown⟩⟩

/-- A failure of the default credential that cannot be logged is not excused. -/
theorem ofEnvironment_of_textless :
    (ofEnvironment .empty {}).result (naming (.error (.library .textless))) {} =
      some (.error (.platform .noText)) := rfl

/-! ## What fails -/

/-- A project makes a client, unless it does not count as true. -/
theorem create_settled_eq_error_iff {v : Value} (ho : o.origin.Optional origin)
    (env : Environment) (f : Fault) :
    create env (o.settled v) = .error f ↔ v.holds = false ∧ f = .library missingProject := by
  cases hv : v.holds with
  | false =>
    rw [create_settled_of_not_holds hv]
    simp [eq_comm]
  | true =>
    obtain ⟨c, hc, -⟩ := create_settled_of_holds hv ho env
    rw [hc]
    simp

/-- Why a credential that is left to name the project names none, and the failure that follows. -/
inductive Fails (credential : Credential) (answer : Except Fault Value) : Fault → Prop
  | silent (hc : credential = .given false) : Fails credential answer (.library missingProject)
  | empty {v : Value} (h : answer = .ok v) (hv : v.holds = false) :
    Fails credential answer (.library missingProject)
  | lost {g : Fault} {t : Text} (hc : credential = .applicationDefault) (h : answer = .error g)
    (ht : g.message.text = .ok t) : Fails credential answer (.library missingProject)
  /-- A failure that is logged needs a message with a text. -/
  | mute {g : Fault} {e : PlatformError} (hc : credential = .applicationDefault)
    (h : answer = .error g) (he : g.message.text = .error e) : Fails credential answer (.platform e)
  /-- A credential that was handed in is not guarded. -/
  | raised {f : Fault} (hc : credential = .given true) (h : answer = .error f) :
    Fails credential answer f

theorem fails_given_false_iff (answer : Except Fault Value) (f : Fault) :
    Fails (.given false) answer f ↔ f = .library missingProject := by
  constructor
  · rintro (_ | _ | ⟨⟨⟩⟩ | ⟨⟨⟩⟩ | ⟨⟨⟩⟩) <;> rfl
  · rintro rfl
    exact .silent rfl

/-- A look-up that was answered fails only where the answer does not count as true. -/
theorem fails_ok_iff {credential : Credential} (hc : credential.offersProject = true) (v : Value)
    (f : Fault) :
    Fails credential (.ok v) f ↔ v.holds = false ∧ f = .library missingProject := by
  constructor
  · rintro (rfl | ⟨⟨⟩, hv⟩ | ⟨-, ⟨⟩⟩ | ⟨-, ⟨⟩⟩ | ⟨-, ⟨⟩⟩)
    · cases hc
    · exact ⟨hv, rfl⟩
  · rintro ⟨hv, rfl⟩
    exact .empty rfl hv

theorem fails_error_given_iff (g f : Fault) : Fails (.given true) (.error g) f ↔ g = f := by
  constructor
  · rintro (⟨⟨⟩⟩ | ⟨⟨⟩, -⟩ | ⟨⟨⟩⟩ | ⟨⟨⟩⟩ | ⟨-, ⟨⟩⟩)
    rfl
  · rintro rfl
    exact .raised rfl rfl

/-- A failure of the default credential ends in the configuration error if it can be logged, else in
what logging it raises. -/
theorem fails_error_applicationDefault_iff (g f : Fault) :
    Fails .applicationDefault (.error g) f ↔
      match g.message.text with
      | .ok _ => f = .library missingProject
      | .error e => f = .platform e := by
  cases ht : g.message.text with
  | ok t =>
    constructor
    · rintro (⟨⟨⟩⟩ | ⟨⟨⟩, -⟩ | _ | ⟨-, ⟨⟩, he⟩ | ⟨⟨⟩, -⟩)
      · rfl
      · rw [ht] at he
        cases he
    · rintro rfl
      exact .lost rfl rfl ht
  | error e =>
    constructor
    · rintro (⟨⟨⟩⟩ | ⟨⟨⟩, -⟩ | ⟨-, ⟨⟩, ht'⟩ | ⟨-, ⟨⟩, he⟩ | ⟨⟨⟩, -⟩)
      · rw [ht] at ht'
        cases ht'
      · cases ht.symm.trans he
        rfl
    · rintro rfl
      exact .mute rfl rfl ht

/-- All failures of a client from the environment. Where an id comes before the credential there are
none. Where none does they are the configuration error, the fault that the look-up of a credential
rejects with that was handed in, and what logging the failure of the default credential raises. -/
theorem ofEnvironment_error_iff (hnamed : o.projectId.Optional named)
    (horigin : o.origin.Optional origin) (env : Environment) (p : Progress) (f : Fault) :
    (ofEnvironment env o).result s p = some (.error f) ↔
      firstId [named, env "GOOGLE_CLOUD_PROJECT", env "GCLOUD_PROJECT"] = none ∧
        Fails o.credentialOrDefault s.project f := by
  rw [(seeks_ofEnvironment env o s).result_eq, Option.some.injEq]
  change _ ↔ firstId (nearIds env named) = none ∧ _
  have created (v : Value) := create_settled_eq_error_iff (v := v) horigin env f
  cases hnear : firstId (nearIds env named) with
  | some t =>
    have hholds : (Value.string t).holds = true := by
      rw [(Value.Optional.string t).holds_eq, firstId_of_eq hnear]
      rfl
    simp only [resolved, identified_of_near hnamed hnear, created, hholds, Bool.true_eq_false,
      false_and, reduceCtorEq]
  | none =>
    simp only [resolved, identified_of_far hnamed hnear, true_and]
    cases hc : o.credentialOrDefault with
    | given offersProject =>
      cases offersProject with
      | false =>
        rw [fails_given_false_iff]
        exact (created .undefined).trans (and_iff_right rfl)
      | true =>
        cases hproject : s.project with
        | ok v =>
          rw [fails_ok_iff rfl]
          exact created v
        | error g =>
          rw [fails_error_given_iff]
          simp [Credential.offersProject, Credential.located]
    | applicationDefault =>
      cases hproject : s.project with
      | ok v =>
        rw [fails_ok_iff rfl]
        exact created v
      | error g =>
        rw [fails_error_applicationDefault_iff]
        cases ht : g.message.text with
        | ok t =>
          simp only [Credential.offersProject, Credential.located, ht]
          exact (created .undefined).trans (and_iff_right rfl)
        | error e => simp [Credential.offersProject, Credential.located, ht, eq_comm]

/-- The default credential excuses a look-up that fails. -/
theorem ofEnvironment_error_iff_lost :
    (ofEnvironment .empty {}).result (naming (.error (.plain "Error" "no project" []))) {} =
      some (.error (.library missingProject)) :=
  (@ofEnvironment_error_iff {} (naming (.error (.plain "Error" "no project" []))) none none
    .undefined .undefined .empty {} _).2 ⟨by decide, .lost rfl rfl rfl⟩

/-- A credential that was handed in does not, and the client neither. -/
theorem ofEnvironment_error_of_given :
    let f : Fault := .plain "Error" "no project" []
    (ofEnvironment .empty { credential := some (.given true) }).result (naming (.error f)) {} =
        some (.error f) ∧
      ∀ e, f ≠ .library e :=
  ⟨rfl, nofun⟩

end TemplateClient

end ConfigClient
