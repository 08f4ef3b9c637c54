import ConfigClient.Proofs.Concurrent.Alone
import ConfigClient.Proofs.Conduct

/-!
# No call waits for another

A call that has not come to its end can go on by itself, unless its own request or the body of its
own response hangs and the timer that the request has named, if any, has not run out. What the other
calls do is of no matter.

* `Flight.Ready`: a call waits only for what takes time, and a body is unread once its response has
  arrived.
* `Scene.ready_of_step`, `Scene.ready_of_play`: every step, and so every run, keeps it.
* `Scene.goesOn_of_sound`: no call waits for another.
-/

namespace ConfigClient

variable {ι α : Type}

namespace Flight

/-- What is known of a call that waits, and of one whose response has just arrived. -/
structure Ready (f : Flight α) : Prop where
  waits : f.waiting = true → ∃ e next, f.rest = .ask e next ∧ e.takesTime = true
  unread : ∀ earlier r response, f.events = earlier ++ [⟨.send r, some (.ok response)⟩] →
    ∃ body, f.unread = some body

theorem Ready.wait {f f' : Flight α} (h : f.Ready) (hevents : f'.events = f.events)
    (hunread : f'.unread = f.unread)
    (hwaits : ∃ e next, f'.rest = .ask e next ∧ e.takesTime = true) : f'.Ready :=
  ⟨fun _ => hwaits, hevents ▸ hunread ▸ h.unread⟩

theorem ready_answered {f : Flight α} {events : List Event} {ev : Event}
    (hwaiting : f.waiting = false) (hevents : f.events = events ++ [ev])
    (hunread : ∀ r response, ev = ⟨.send r, some (.ok response)⟩ → ∃ body, f.unread = some body) :
    f.Ready := by
  constructor
  · intro h
    rw [hwaiting] at h
    cases h
  · intro earlier r response h
    have hlast := (List.append_inj' (hevents.symm.trans h) rfl).2
    exact hunread r response (List.singleton_inj.1 hlast)

/-- A response that arrives leaves its body unread. -/
theorem exists_unread_of_reply? {token project : Except Fault Value} {outcome : Nat → Outcome}
    {isAborted : Bool} {f : Flight α} {r : Request} {response : Response}
    {unread : Option BodyOutcome}
    (h : f.reply? token project outcome isAborted (.send r) = some (.ok response, unread)) :
    ∃ body, unread = some body := by
  simp only [reply?] at h
  split_ifs at h
  · cases h
  · split at h
    · cases h
      exact ⟨_, rfl⟩
    · cases h
    · cases h

end Flight

namespace Scene

variable [DecidableEq ι] {w : Stage ι} {i : ι → Interaction α} {sc sc' : Scene ι α}

omit [DecidableEq ι] in
theorem ready_start (i : ι → Interaction α) (k : ι) : ((start i).flight k).Ready := by
  refine ⟨nofun, fun earlier r response h => ?_⟩
  exact absurd h.symm (List.append_ne_nil_of_right_ne_nil earlier (List.cons_ne_nil _ _))

theorem ready_of_step (h : Step w sc sc') (hs : ∀ k, (sc.flight k).Ready) :
    ∀ k, (sc'.flight k).Ready := by
  cases h with
  | log hw hr => exact flight_set (Flight.ready_answered rfl rfl nofun) fun l _ => hs l
  | startTimer hw hr => exact flight_set (Flight.ready_answered rfl rfl nofun) fun l _ => hs l
  | stopTimer hw hr => exact flight_set (Flight.ready_answered rfl rfl nofun) fun l _ => hs l
  | send hw hr => exact flight_set ((hs _).wait rfl rfl ⟨_, _, hr, rfl⟩) fun l _ => hs l
  | wait hw hr htime he => exact flight_set ((hs _).wait rfl rfl ⟨_, _, hr, htime⟩) fun l _ => hs l
  | answer hw hr ha =>
    refine flight_set (Flight.ready_answered rfl rfl ?_) fun l _ => hs l
    rintro r response ⟨⟩
    exact Flight.exists_unread_of_reply? ha
  | expire hrunning => exact hs

theorem ready_of_play {moves : List (Move ι)} (h : sc.play w moves = some sc')
    (hs : ∀ k, (sc.flight k).Ready) : ∀ k, (sc'.flight k).Ready :=
  keeps_of_play (P := fun sc => ∀ k, (sc.flight k).Ready) (fun _ _ => ready_of_step) h hs

/-- Whether a call has come to its end, can go on, or waits for its own request or for the body of
its own response, which hangs while no timer that the request has named has run out. -/
inductive GoesOn (w : Stage ι) (sc : Scene ι α) (k : ι) : Prop
  | settled (a : α) (h : (sc.flight k).rest = .done a)
  | asks (h : (sc.ask? k).isSome)
  | isAnswered (h : (sc.answer? w k).isSome)
  | hangs (j : Nat) (hnumbers : (sc.flight k).numbers = [j])
    (hending : (w.outcome j).ending false = none) (hcut : ¬(sc.flight k).IsCut sc.expired)

section GoesOn

variable {k : ι}

theorem goesOn_of_reply? {e : Effect} {next : e.Answer → Interaction α}
    (hw : (sc.flight k).waiting = true) (hr : (sc.flight k).rest = .ask e next)
    (h : ((sc.flight k).reply? (w.token k) (w.project k) w.outcome (sc.isAborted k) e).isSome) :
    GoesOn w sc k := by
  apply GoesOn.isAnswered
  simp only [answer?, hw, hr, Option.isSome_map]
  exact h

theorem goesOn_of_send {r : Request} {next : Except Value Response → Interaction α}
    (hs : (sc.flight k).Standing w.outcome ((sc.flight k).IsCut sc.expired))
    (hw : (sc.flight k).waiting = true) (hr : (sc.flight k).rest = .ask (.send r) next) :
    GoesOn w sc k := by
  obtain ⟨j, numbers_eq, -⟩ := hs.sent_of_pending (Flight.pending_of_waiting hw hr)
  cases hcut : sc.isAborted k with
  | true => exact goesOn_of_reply? hw hr (by rw [hcut]; rfl)
  | false =>
    cases ho : w.outcome j with
    | hangs =>
      refine .hangs j numbers_eq (by rw [ho]; rfl) ?_
      rw [← isAborted_iff, hcut]
      exact Bool.false_ne_true
    | _ => exact goesOn_of_reply? hw hr (by simp [Flight.reply?, hcut, numbers_eq, ho])

theorem goesOn_of_readBody {next : Except Value Text → Interaction α} {body : BodyOutcome}
    (hs : (sc.flight k).Standing w.outcome ((sc.flight k).IsCut sc.expired))
    (hunread : (sc.flight k).unread = some body)
    (hw : (sc.flight k).waiting = true) (hr : (sc.flight k).rest = .ask .readBody next) :
    GoesOn w sc k := by
  obtain ⟨j, r, numbers_eq, outcome_eq, -⟩ := hs.arrived_of_unread hunread
  cases hcut : sc.isAborted k with
  | true => exact goesOn_of_reply? hw hr (by simp [Flight.reply?, hcut, hunread])
  | false =>
    cases body with
    | hangs =>
      refine .hangs j numbers_eq (by rw [outcome_eq]; rfl) ?_
      rw [← isAborted_iff, hcut]
      exact Bool.false_ne_true
    | _ => exact goesOn_of_reply? hw hr (by simp [Flight.reply?, hcut, hunread])

end GoesOn

/-- No call waits for another. -/
theorem goesOn_of_sound (hreads : ∀ k, (i k).ReadsAtOnce) (hs : Sound w i sc)
    (hready : ∀ k, (sc.flight k).Ready) (k : ι) : GoesOn w sc k := by
  cases hr : (sc.flight k).rest with
  | done a => exact .settled a hr
  | ask e next =>
    cases hw : (sc.flight k).waiting with
    | false =>
      apply GoesOn.asks
      simp only [ask?, hw, hr]
      cases e <;> rfl
    | true =>
      obtain ⟨e', next', hr', htime⟩ := (hready k).waits hw
      rw [hr] at hr'
      cases hr'
      cases e with
      | accessToken => exact goesOn_of_reply? hw hr rfl
      | projectId => exact goesOn_of_reply? hw hr rfl
      | send r => exact goesOn_of_send (hs.flight k).standing hw hr
      | readBody =>
        -- The response has just arrived in the run of this call alone, and so it has here.
        obtain ⟨o, timer, q, -, -, hretraces, -⟩ := (hs.flight k).exists_retraces
        obtain ⟨answer, tail, htail⟩ :=
          Interaction.exists_history_ask (w.alone k o timer) q .readBody next
        rw [hr] at hretraces
        obtain ⟨earlier, r, response, hevents⟩ :=
          hreads k _ _ _ _ _ (hretraces.history_eq.trans (congrArg _ htail))
        obtain ⟨body, hunread⟩ := (hready k).unread earlier r response hevents
        exact goesOn_of_readBody (hs.flight k).standing hunread hw hr
      | _ => cases htime

end Scene

end ConfigClient
