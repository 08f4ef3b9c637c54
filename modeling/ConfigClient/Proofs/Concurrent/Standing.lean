import ConfigClient.Proofs.Concurrent.Ownership

/-!
# How far a request has come

The fate of the request of a call is known from the events of the call: as long as the response has
not arrived it may still be any, and until the body has been read only the body is open. A timer
can cut the fate short.

* `Event.Shows`: what an event tells of the fate of the request.
* `Met`: what becomes of a request if it may be cut short.
* `Standing`: how far the request of a call has come, for a call that sends at most one.
* `Standing.send`, `Standing.answer_send`, `Standing.answer_readBody`, `Standing.keep`: what the
  steps of the call make of it.
-/

namespace ConfigClient

variable {α : Type}

/-! ## What events tell -/

/-- Whether a fate of the request agrees with an event. -/
def Event.Shows : Event → Outcome → Prop
  | ⟨.send _, some (.ok r)⟩, o => ∃ body, o = .responds r body
  | ⟨.send _, some (.error v)⟩, o => o = .rejects v
  | ⟨.readBody, some (.ok t)⟩, o => ∃ r, o = .responds r (.text t)
  | ⟨.readBody, some (.error v)⟩, o => ∃ r, o = .responds r (.rejects v)
  | _, _ => True

/-! ## The request of a call -/

/-- What becomes of a request that met with `o` if it may have been cut short. -/
inductive Met (cut : Prop) : Outcome → Outcome → Prop
  | whole (o : Outcome) : Met cut o o
  | beforeResponse (h : cut) (o : Outcome) : Met cut o (.rejects aborted)
  | beforeBody (h : cut) (r : Response) (body : BodyOutcome) :
    Met cut (.responds r body) (.responds r (.rejects aborted))

theorem Met.mono {cut cut' : Prop} (hcut : cut → cut') {o o' : Outcome} (h : Met cut o o') :
    Met cut' o o' := by
  cases h with
  | whole => exact .whole o
  | beforeResponse h => exact .beforeResponse (hcut h) o
  | beforeBody h r body => exact .beforeBody (hcut h) r body

namespace Flight

/-- Whether a fate of the request agrees with all events of a call. -/
def Agrees (f : Flight α) (o : Outcome) : Prop := ∀ ev ∈ f.events, ev.Shows o

/-- Whether the timer that the request of a call has named has run out. -/
def IsCut (f : Flight α) (expired : List Nat) : Prop := ∃ t ∈ f.signal, t ∈ expired

/-- How far the request of a call has come. -/
inductive Standing (outcome : Nat → Outcome) (cut : Prop) (f : Flight α) : Prop
  | unsent (numbers_eq : f.numbers = []) (unread_eq : f.unread = none)
    (events_eq : f.events.filterMap Event.request? = []) (pending : ∀ r, .send r ∉ f.pending)
    (agrees : ∀ o, f.Agrees o)
  | sent {j : Nat} {r : Request} (numbers_eq : f.numbers = [j]) (unread_eq : f.unread = none)
    (events_eq : f.events.filterMap Event.request? = []) (pending : f.pending = [.send r])
    (agrees : ∀ o, f.Agrees o)
  | arrived {j : Nat} {r : Response} {body : BodyOutcome} (numbers_eq : f.numbers = [j])
    (outcome_eq : outcome j = .responds r body) (unread_eq : f.unread = some body)
    (events_ne : f.events.filterMap Event.request? ≠ []) (pending : ∀ r, .send r ∉ f.pending)
    (agrees : ∀ body', f.Agrees (.responds r body'))
  | ended {j : Nat} {o : Outcome} (numbers_eq : f.numbers = [j]) (met : Met cut (outcome j) o)
    (unread_eq : f.unread = none) (events_ne : f.events.filterMap Event.request? ≠ [])
    (pending : ∀ r, .send r ∉ f.pending) (agrees : f.Agrees o)

/-- Some fate agrees with all that the events tell, and it is the one that the request met with. -/
theorem Standing.exists_agrees {outcome : Nat → Outcome} {cut : Prop} {f : Flight α}
    (h : Standing outcome cut f) :
    ∃ o, f.Agrees o ∧ ∀ j ∈ f.numbers, Met cut (outcome j) o := by
  cases h with
  | unsent numbers_eq unread_eq events_eq pending agrees =>
    refine ⟨.hangs, agrees _, ?_⟩
    rw [numbers_eq]
    rintro j ⟨⟩
  | @sent j r numbers_eq unread_eq events_eq pending agrees =>
    refine ⟨outcome j, agrees _, ?_⟩
    rw [numbers_eq, List.forall_mem_singleton]
    exact .whole _
  | @arrived j r body numbers_eq outcome_eq unread_eq events_ne pending agrees =>
    refine ⟨_, agrees body, ?_⟩
    rw [numbers_eq, List.forall_mem_singleton, outcome_eq]
    exact .whole _
  | ended numbers_eq met unread_eq events_ne pending agrees =>
    refine ⟨_, agrees, ?_⟩
    rw [numbers_eq, List.forall_mem_singleton]
    exact met

/-- A call that waits for its response has sent its request. -/
theorem Standing.sent_of_pending {outcome : Nat → Outcome} {cut : Prop} {f : Flight α}
    {r : Request} (h : Standing outcome cut f) (hr : f.pending = [.send r]) :
    ∃ j, f.numbers = [j] ∧ ∀ o, f.Agrees o := by
  have hmem : .send r ∈ f.pending := hr ▸ List.mem_singleton_self _
  cases h with
  | unsent numbers_eq unread_eq events_eq pending agrees => exact absurd hmem (pending r)
  | sent numbers_eq unread_eq events_eq pending agrees => exact ⟨_, numbers_eq, agrees⟩
  | arrived numbers_eq outcome_eq unread_eq events_ne pending agrees =>
    exact absurd hmem (pending r)
  | ended numbers_eq met unread_eq events_ne pending agrees => exact absurd hmem (pending r)

/-- The response of a call with an unread body has arrived. -/
theorem Standing.arrived_of_unread {outcome : Nat → Outcome} {cut : Prop} {f : Flight α}
    {body : BodyOutcome} (h : Standing outcome cut f) (hu : f.unread = some body) :
    ∃ j r, f.numbers = [j] ∧ outcome j = .responds r body ∧
      f.events.filterMap Event.request? ≠ [] ∧ ∀ body', f.Agrees (.responds r body') := by
  cases h with
  | unsent numbers_eq unread_eq events_eq pending agrees => cases hu.symm.trans unread_eq
  | sent numbers_eq unread_eq events_eq pending agrees => cases hu.symm.trans unread_eq
  | ended numbers_eq met unread_eq events_ne pending agrees => cases hu.symm.trans unread_eq
  | arrived numbers_eq outcome_eq unread_eq events_ne pending agrees =>
    cases hu.symm.trans unread_eq
    exact ⟨_, _, numbers_eq, outcome_eq, events_ne, agrees⟩

/-! ### What a step makes of it -/

theorem pending_of_not_waiting {f : Flight α} (hw : f.waiting = false) : f.pending = [] := by
  rw [pending, hw]

theorem pending_of_waiting {f : Flight α} {e : Effect} {next : e.Answer → Interaction α}
    (hw : f.waiting = true) (hr : f.rest = .ask e next) : f.pending = [e] := by
  rw [pending, hw, hr]

theorem not_sending {f : Flight α} (h : f.pending = []) (r : Request) : .send r ∉ f.pending := by
  rw [h]
  rintro ⟨⟩

theorem not_sending_of_waiting {f : Flight α} {e : Effect} (h : f.pending = [e])
    (he : ∀ r, e ≠ .send r) (r : Request) : .send r ∉ f.pending := by
  rw [h, List.mem_singleton]
  exact (he r).symm

theorem agrees_append {f f' : Flight α} {new : List Event} (he : f'.events = f.events ++ new)
    {o : Outcome} : f'.Agrees o ↔ f.Agrees o ∧ ∀ ev ∈ new, ev.Shows o := by
  rw [Agrees, he, List.forall_mem_append]
  rfl

theorem Standing.mono {outcome : Nat → Outcome} {cut cut' : Prop} {f : Flight α}
    (h : Standing outcome cut f) (hcut : cut → cut') : Standing outcome cut' f := by
  cases h with
  | unsent numbers_eq unread_eq events_eq pending agrees =>
    exact .unsent numbers_eq unread_eq events_eq pending agrees
  | sent numbers_eq unread_eq events_eq pending agrees =>
    exact .sent numbers_eq unread_eq events_eq pending agrees
  | arrived numbers_eq outcome_eq unread_eq events_ne pending agrees =>
    exact .arrived numbers_eq outcome_eq unread_eq events_ne pending agrees
  | ended numbers_eq met unread_eq events_ne pending agrees =>
    exact .ended numbers_eq (met.mono hcut) unread_eq events_ne pending agrees

/-- Events that have nothing to do with the request. -/
theorem Standing.keep {outcome : Nat → Outcome} {cut cut' : Prop} {f f' : Flight α}
    (h : Standing outcome cut f) (hcut : cut → cut') {new : List Event}
    (he : f'.events = f.events ++ new) (hrequest : ∀ ev ∈ new, ev.request? = none)
    (hshows : ∀ ev ∈ new, ∀ o, ev.Shows o) (hn : f'.numbers = f.numbers)
    (hu : f'.unread = f.unread) (hpending : ∀ r, .send r ∉ f.pending)
    (hpending' : ∀ r, .send r ∉ f'.pending) : Standing outcome cut' f' := by
  have hevents : f'.events.filterMap Event.request? = f.events.filterMap Event.request? := by
    rw [he, List.filterMap_append, List.filterMap_eq_nil_iff.2 hrequest, List.append_nil]
  have hagrees {o : Outcome} (ho : f.Agrees o) : f'.Agrees o :=
    (agrees_append he).2 ⟨ho, fun ev hev => hshows ev hev o⟩
  cases h with
  | unsent numbers_eq unread_eq events_eq pending agrees =>
    exact .unsent (hn.trans numbers_eq) (hu.trans unread_eq) (hevents.trans events_eq) hpending'
      fun o => hagrees (agrees o)
  | @sent j r numbers_eq unread_eq events_eq pending agrees =>
    refine absurd ?_ (hpending r)
    rw [pending]
    exact List.mem_singleton_self _
  | arrived numbers_eq outcome_eq unread_eq events_ne pending agrees =>
    exact .arrived (hn.trans numbers_eq) outcome_eq (hu.trans unread_eq)
      (hevents.trans_ne events_ne) hpending' fun body' => hagrees (agrees body')
  | ended numbers_eq met unread_eq events_ne pending agrees =>
    exact .ended (hn.trans numbers_eq) (met.mono hcut) (hu.trans unread_eq)
      (hevents.trans_ne events_ne) hpending' (hagrees agrees)

/-- An answer that has nothing to do with the request. -/
theorem Standing.pass {outcome : Nat → Outcome} {cut cut' : Prop} {f f' : Flight α} {ev : Event}
    (h : Standing outcome cut f) (hcut : cut → cut') (he : f'.events = f.events ++ [ev])
    (hrequest : ev.request? = none) (hshows : ∀ o, ev.Shows o) (hn : f'.numbers = f.numbers)
    (hu : f'.unread = f.unread) (hpending : ∀ r, .send r ∉ f.pending)
    (hpending' : f'.pending = []) : Standing outcome cut' f' :=
  h.keep hcut he (List.forall_mem_singleton.2 hrequest) (List.forall_mem_singleton.2 hshows) hn hu
    hpending (not_sending hpending')

/-- The request is sent. -/
theorem Standing.send {outcome : Nat → Outcome} {cut cut' : Prop} {f f' : Flight α} {j : Nat}
    {r : Request} (h : Standing outcome cut f)
    (hfirst : f.events.filterMap Event.request? = []) (hw : f.pending = [])
    (he : f'.events = f.events) (hn : f'.numbers = f.numbers ++ [j]) (hu : f'.unread = f.unread)
    (hpending : f'.pending = [.send r]) : Standing outcome cut' f' := by
  cases h with
  | unsent numbers_eq unread_eq events_eq pending agrees =>
    refine .sent (j := j) ?_ (hu.trans unread_eq) (he ▸ events_eq) hpending fun o => ?_
    · rw [hn, numbers_eq]
      rfl
    · rw [Agrees, he]
      exact agrees o
  | sent numbers_eq unread_eq events_eq pending agrees =>
    rw [hw] at pending
    cases pending
  | arrived numbers_eq outcome_eq unread_eq events_ne pending agrees =>
    exact absurd hfirst events_ne
  | ended numbers_eq met unread_eq events_ne pending agrees => exact absurd hfirst events_ne

/-- The request is answered: the response arrives, or it never will. -/
theorem Standing.answer_send {token project : Except Fault Value} {outcome : Nat → Outcome}
    {isAborted : Bool} {cut : Prop} {f f' : Flight α} {r : Request}
    {answer : Except Value Response} {unread : Option BodyOutcome}
    (h : Standing outcome cut f) (hcut : isAborted = true → cut) (hpending : f.pending = [.send r])
    (ha : f.reply? token project outcome isAborted (.send r) = some (answer, unread))
    (he : f'.events = f.events ++ [⟨.send r, some answer⟩]) (hn : f'.numbers = f.numbers)
    (hu : f'.unread = unread) (hpending' : f'.pending = []) : Standing outcome cut f' := by
  have hne : f'.events.filterMap Event.request? ≠ [] := by
    rw [he, List.filterMap_append]
    exact List.append_ne_nil_of_right_ne_nil _ (List.cons_ne_nil r [])
  have hnone := not_sending hpending'
  obtain ⟨j, numbers_eq, agrees⟩ := h.sent_of_pending hpending
  have hagrees {o : Outcome} (ho : Event.Shows ⟨.send r, some answer⟩ o) : f'.Agrees o :=
    (agrees_append he).2 ⟨agrees o, List.forall_mem_singleton.2 ho⟩
  have hnumbers := hn.trans numbers_eq
  cases isAborted with
  | true =>
    cases ha
    exact .ended hnumbers (.beforeResponse (hcut rfl) _) hu hne hnone (hagrees rfl)
  | false =>
    simp only [reply?, numbers_eq, List.getLast?_singleton, Option.map_some, Bool.false_eq_true,
      if_false] at ha
    cases ho : outcome j with
    | responds response body =>
      rw [ho] at ha
      cases ha
      exact .arrived hnumbers ho hu hne hnone fun body' => hagrees ⟨body', rfl⟩
    | rejects v =>
      rw [ho] at ha
      cases ha
      exact .ended hnumbers (ho ▸ .whole _) hu hne hnone (hagrees rfl)
    | hangs =>
      rw [ho] at ha
      cases ha

/-- The body is read, or it never will be. -/
theorem Standing.answer_readBody {token project : Except Fault Value} {outcome : Nat → Outcome}
    {isAborted : Bool} {cut : Prop} {f f' : Flight α} {answer : Except Value Text}
    {unread : Option BodyOutcome} (h : Standing outcome cut f) (hcut : isAborted = true → cut)
    (ha : f.reply? token project outcome isAborted .readBody = some (answer, unread))
    (he : f'.events = f.events ++ [⟨.readBody, some answer⟩]) (hn : f'.numbers = f.numbers)
    (hu : f'.unread = unread) (hpending' : f'.pending = []) : Standing outcome cut f' := by
  have hnone := not_sending hpending'
  cases hunread : f.unread with
  | none =>
    simp only [reply?, hunread] at ha
    cases ha
  | some body =>
    obtain ⟨j, r, numbers_eq, outcome_eq, events_ne, agrees⟩ := h.arrived_of_unread hunread
    have hne : f'.events.filterMap Event.request? ≠ [] := by
      rw [he, List.filterMap_append]
      exact List.append_ne_nil_of_left_ne_nil events_ne _
    have hagrees {body' : BodyOutcome}
        (hb : Event.Shows ⟨.readBody, some answer⟩ (.responds r body')) :
        f'.Agrees (.responds r body') :=
      (agrees_append he).2 ⟨agrees body', List.forall_mem_singleton.2 hb⟩
    have hnumbers := hn.trans numbers_eq
    simp only [reply?, hunread] at ha
    cases isAborted with
    | true =>
      cases ha
      refine .ended (o := .responds r (.rejects aborted)) hnumbers ?_ hu hne hnone
        (hagrees ⟨r, rfl⟩)
      rw [outcome_eq]
      exact .beforeBody (hcut rfl) r body
    | false =>
      cases body with
      | text t =>
        cases ha
        exact .ended hnumbers (outcome_eq ▸ .whole _) hu hne hnone (hagrees ⟨r, rfl⟩)
      | rejects v =>
        cases ha
        exact .ended hnumbers (outcome_eq ▸ .whole _) hu hne hnone (hagrees ⟨r, rfl⟩)
      | hangs => cases ha

end Flight

end ConfigClient
