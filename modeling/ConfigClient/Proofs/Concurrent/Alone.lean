import ConfigClient.Proofs.Concurrent.Standing

/-!
# A call among others and alone

A call that is under way with others does what it would do alone, with the answers of its own
credential, with what becomes of its own request and with the numbers of its own timers. No step of
another call touches it.

* `Retraces`: the events of a call are how its interaction begins when it runs alone.
* `Flight.Sound`, `Scene.Sound`: what is known of one call, and of all.
* `sound_of_step`, `sound_of_play`: every step, and so every run, keeps it.
-/

namespace ConfigClient

variable {ι α : Type}

/-- Surroundings with the credential of one call, one fate for its request and numbers for its
timers. -/
def Stage.alone (w : Stage ι) (k : ι) (o : Outcome) (timer : Nat → Nat) : Surroundings where
  token := w.token k
  project := w.project k
  outcome _ := o
  timer

namespace Interaction

/-- Whether an interaction that runs alone begins with some events and then goes on with `rest`. -/
structure Retraces (s : Surroundings) (i : Interaction α) (events : List Event)
    (rest : Interaction α) (q : Progress) : Prop where
  run_eq : i.run s {} = rest.run s q
  history_eq : i.history s {} = events ++ rest.history s q

theorem Retraces.resume {s : Surroundings} {i : Interaction α} {events : List Event} {e : Effect}
    {next : e.Answer → Interaction α} {q q' : Progress} {answer : e.Answer}
    (h : Retraces s i events (ask e next) q) (ha : s.answer q e = some (answer, q')) :
    Retraces s i (events ++ [⟨e, some answer⟩]) (next answer) q' := by
  obtain ⟨hrun, hhistory⟩ := h
  rw [run, ha] at hrun
  rw [history, ha] at hhistory
  refine ⟨hrun, ?_⟩
  rw [hhistory, List.append_assoc]
  rfl

/-- A question that is asked is the next event. -/
theorem exists_history_ask (s : Surroundings) (q : Progress) (e : Effect)
    (next : e.Answer → Interaction α) :
    ∃ answer tail, (ask e next).history s q = ⟨e, answer⟩ :: tail := by
  rw [history]
  cases s.answer q e with
  | none => exact ⟨none, [], rfl⟩
  | some x => exact ⟨some x.1, _, rfl⟩

end Interaction

namespace Flight

/-- Whether the timers of a call were numbered so, one after another. -/
def Counts (f : Flight α) (timer : Nat → Nat) : Prop := ∀ n t, f.timers[n]? = some t → timer n = t

/-- Whether the progress of a call that runs alone fits in with the call among others: the body that
is unread there is there to be read, and as many timers have been started. -/
structure Fits (f : Flight α) (o : Outcome) (q : Progress) : Prop where
  body : ∀ b, f.unread = some b → ∀ r b', o = .responds r b' → ∃ timer, q.body = some (b', timer)
  started : q.started = f.timers.length

/-- What is known of one of some calls: how far its request has come, and that for every fate which
agrees with its events they are how it begins when it runs alone. -/
structure Sound (w : Stage ι) (k : ι) (i : Interaction α) (expired : List Nat) (f : Flight α) :
    Prop where
  standing : Standing w.outcome (f.IsCut expired) f
  retraces : ∀ o timer, f.Agrees o → f.Counts timer →
    ∃ q, Interaction.Retraces (w.alone k o timer) i f.events f.rest q ∧ f.Fits o q

variable {w : Stage ι} {k : ι} {i : Interaction α} {expired expired' : List Nat}
  {f f' : Flight α}

/-- A call that is not answered. -/
theorem Sound.hold (h : Sound w k i expired f) (hrest : f'.rest = f.rest)
    (hevents : f'.events = f.events) (hunread : f'.unread = f.unread)
    (htimers : f'.timers = f.timers) (hstanding : Standing w.outcome (f'.IsCut expired') f') :
    Sound w k i expired' f' := by
  refine ⟨hstanding, fun o timer ho htimer => ?_⟩
  rw [Agrees, hevents] at ho
  rw [Counts, htimers] at htimer
  obtain ⟨q, hretraces, hfits⟩ := h.retraces o timer ho htimer
  refine ⟨q, hrest ▸ hevents ▸ hretraces, ?_, ?_⟩
  · rw [hunread]
    exact hfits.body
  · rw [htimers]
    exact hfits.started

/-- A call that is answered. -/
theorem Sound.resume (h : Sound w k i expired f) {e : Effect} {next : e.Answer → Interaction α}
    {answer : e.Answer} (hr : f.rest = .ask e next) (hrest : f'.rest = next answer)
    (hevents : f'.events = f.events ++ [⟨e, some answer⟩]) (htimers : f.timers <+: f'.timers)
    (hanswer : ∀ o timer q, Event.Shows ⟨e, some answer⟩ o → f'.Counts timer → f.Fits o q →
      ∃ q', (w.alone k o timer).answer q e = some (answer, q') ∧ f'.Fits o q')
    (hstanding : Standing w.outcome (f'.IsCut expired') f') : Sound w k i expired' f' := by
  refine ⟨hstanding, fun o timer ho htimer => ?_⟩
  obtain ⟨hold, hnew⟩ := (agrees_append hevents).1 ho
  have hcounts : f.Counts timer := by
    intro n t ht
    obtain ⟨hn, rfl⟩ := List.getElem?_eq_some_iff.1 ht
    exact htimer n _ (List.prefix_iff_getElem?.1 htimers n hn)
  obtain ⟨q, hretraces, hfits⟩ := h.retraces o timer hold hcounts
  obtain ⟨q', hq', hfits'⟩ := hanswer o timer q (hnew _ (List.mem_singleton_self _)) htimer hfits
  rw [hr] at hretraces
  refine ⟨q', ?_, hfits'⟩
  rw [hrest, hevents]
  exact hretraces.resume hq'

/-- What a call is answered among others is what it would be answered alone. -/
theorem Fits.answer {o : Outcome} {timer : Nat → Nat} {q : Progress} (h : f.Fits o q) {e : Effect}
    {isAborted : Bool} {answer : e.Answer} {unread : Option BodyOutcome}
    (ha : f.reply? (w.token k) (w.project k) w.outcome isAborted e = some (answer, unread))
    (hshows : Event.Shows ⟨e, some answer⟩ o) (hunread : f'.unread = unread)
    (htimers : f'.timers = f.timers) :
    ∃ q', (w.alone k o timer).answer q e = some (answer, q') ∧ f'.Fits o q' := by
  have hstarted : q.started = f'.timers.length := htimers ▸ h.started
  cases e with
  | accessToken =>
    cases ha
    exact ⟨_, rfl, hunread ▸ h.body, hstarted⟩
  | projectId =>
    cases ha
    exact ⟨_, rfl, hunread ▸ h.body, hstarted⟩
  | send r =>
    cases answer with
    | ok response =>
      obtain ⟨body, rfl⟩ := hshows
      refine ⟨_, rfl, ?_, hstarted⟩
      rintro b - r' b' ⟨⟩
      exact ⟨r.timer, rfl⟩
    | error v =>
      obtain rfl : o = .rejects v := hshows
      refine ⟨_, rfl, ?_, hstarted⟩
      rintro b - r' b' ⟨⟩
  | readBody =>
    have hbody : ∀ r b', o = .responds r b' → ∃ timer, q.body = some (b', timer) := by
      cases hf : f.unread with
      | none =>
        simp only [reply?, hf] at ha
        cases ha
      | some b => exact h.body b hf
    have hfits' : f'.Fits o q := ⟨fun b _ => hbody, hstarted⟩
    cases answer with
    | ok t =>
      obtain ⟨r, ho⟩ := hshows
      obtain ⟨_, hq⟩ := hbody r _ ho
      refine ⟨q, ?_, hfits'⟩
      simp only [Surroundings.answer, Surroundings.readBody, hq]
    | error v =>
      obtain ⟨r, ho⟩ := hshows
      obtain ⟨_, hq⟩ := hbody r _ ho
      refine ⟨q, ?_, hfits'⟩
      simp only [Surroundings.answer, Surroundings.readBody, hq]
  | _ => cases ha

/-- A call that another one's step has nothing to do with. -/
theorem Sound.frame (h : Sound w k i expired f) (hexpired : expired ⊆ expired') :
    Sound w k i expired' f := by
  refine h.hold rfl rfl rfl rfl (h.standing.mono ?_)
  rintro ⟨t, ht, hcut⟩
  exact ⟨t, ht, hexpired hcut⟩

theorem exists_counts (f : Flight α) : ∃ timer, f.Counts timer := by
  refine ⟨fun n => f.timers[n]?.getD 0, fun n t ht => ?_⟩
  simp only [ht, Option.getD_some]

/-- For every call there are a fate of its request that its events agree with and that the request
may have met with, and numbers of its timers. -/
theorem Sound.exists_retraces (h : Sound w k i expired f) :
    ∃ o timer q, (∀ j ∈ f.numbers, Met (f.IsCut expired) (w.outcome j) o) ∧ f.Counts timer ∧
      Interaction.Retraces (w.alone k o timer) i f.events f.rest q ∧ f.Fits o q := by
  obtain ⟨o, ho, hmet⟩ := h.standing.exists_agrees
  obtain ⟨timer, htimer⟩ := f.exists_counts
  obtain ⟨q, hretraces, hfits⟩ := h.retraces o timer ho htimer
  exact ⟨o, timer, q, hmet, htimer, hretraces, hfits⟩

/-- An interaction with at most one request has sent none when it asks for it. -/
theorem Sound.first (h : Sound w k i expired f) (hi : ∀ s, (i.requests s {}).length ≤ 1)
    {r : Request} {next : Except Value Response → Interaction α}
    (hr : f.rest = .ask (.send r) next) : f.events.filterMap Event.request? = [] := by
  obtain ⟨o, timer, q, -, -, hretraces, -⟩ := h.exists_retraces
  obtain ⟨answer, tail, htail⟩ :=
    Interaction.exists_history_ask (w.alone k o timer) q (.send r) next
  have hone := hi (w.alone k o timer)
  rw [Interaction.requests, hretraces.history_eq, hr, htail, List.filterMap_append,
    List.length_append] at hone
  have hsend : 0 < ((⟨.send r, answer⟩ :: tail).filterMap Event.request?).length :=
    Nat.succ_pos _
  exact List.length_eq_zero_iff.1 (by omega)

/-! ### The steps of a call -/

section Steps

variable (h : Sound w k i expired f)
include h

theorem Sound.log {message : Text} {next : Unit → Interaction α} (hw : f.waiting = false)
    (hr : f.rest = .ask (.log message) next) :
    Sound w k i expired (f.resume (e := .log message) next ()) := by
  refine h.resume hr rfl rfl (List.prefix_refl _) ?_ ?_
  · intro o timer q _ _ hfits
    exact ⟨_, rfl, hfits.body, hfits.started⟩
  · exact h.standing.pass id rfl rfl (fun _ => trivial) rfl rfl
      (not_sending (pending_of_not_waiting hw)) rfl

theorem Sound.startTimer {next : Nat → Interaction α} (hw : f.waiting = false)
    (hr : f.rest = .ask .startTimer next) (number : Nat) :
    Sound w k i expired
      { f.resume (e := .startTimer) next number with timers := f.timers ++ [number] } := by
  refine h.resume hr rfl rfl (List.prefix_append _ _) ?_ ?_
  · intro o timer q _ hcounts hfits
    have hnumber : timer q.started = number := hcounts _ _ (by simp [hfits.started])
    refine ⟨{ q with started := q.started + 1, running := number :: q.running }, ?_, hfits.body, ?_⟩
    · simp only [Surroundings.answer, Surroundings.startTimer, Stage.alone, hnumber]
    · simp [hfits.started]
  · exact h.standing.pass id rfl rfl (fun _ => trivial) rfl rfl
      (not_sending (pending_of_not_waiting hw)) rfl

theorem Sound.stopTimer {number : Nat} {next : Unit → Interaction α} (hw : f.waiting = false)
    (hr : f.rest = .ask (.stopTimer number) next) :
    Sound w k i expired (f.resume (e := .stopTimer number) next ()) := by
  refine h.resume hr rfl rfl (List.prefix_refl _) ?_ ?_
  · intro o timer q _ _ hfits
    exact ⟨_, rfl, hfits.body, hfits.started⟩
  · exact h.standing.pass id rfl rfl (fun _ => trivial) rfl rfl
      (not_sending (pending_of_not_waiting hw)) rfl

theorem Sound.send (hi : ∀ s, (i.requests s {}).length ≤ 1) {r : Request}
    {next : Except Value Response → Interaction α} (hw : f.waiting = false)
    (hr : f.rest = .ask (.send r) next) (number : Nat) :
    Sound w k i expired
      { f with waiting := true, numbers := f.numbers ++ [number], signal := r.timer } := by
  refine h.hold rfl rfl rfl rfl ?_
  exact h.standing.send (h.first hi hr) (pending_of_not_waiting hw) rfl rfl rfl
    (pending_of_waiting rfl hr)

theorem Sound.wait {e : Effect} {next : e.Answer → Interaction α} (hw : f.waiting = false)
    (hr : f.rest = .ask e next) (he : ∀ r, e ≠ .send r) :
    Sound w k i expired { f with waiting := true } := by
  refine h.hold rfl rfl rfl rfl ?_
  refine h.standing.keep id (List.append_nil _).symm nofun nofun rfl rfl
    (not_sending (pending_of_not_waiting hw)) ?_
  exact not_sending_of_waiting (pending_of_waiting rfl hr) he

theorem Sound.answer {e : Effect} {next : e.Answer → Interaction α} {answer : e.Answer}
    {isAborted : Bool} {unread : Option BodyOutcome} (hcut : isAborted = true → f.IsCut expired)
    (hw : f.waiting = true) (hr : f.rest = .ask e next)
    (ha : f.reply? (w.token k) (w.project k) w.outcome isAborted e = some (answer, unread)) :
    Sound w k i expired { f.resume next answer with unread } := by
  refine h.resume hr rfl rfl (List.prefix_refl _)
    (fun o timer q hshows _ hfits => hfits.answer ha hshows rfl rfl) ?_
  have hpending := pending_of_waiting hw hr
  cases e with
  | accessToken =>
    cases ha
    exact h.standing.pass id rfl rfl (fun _ => trivial) rfl rfl
      (not_sending_of_waiting hpending fun _ => nofun) rfl
  | projectId =>
    cases ha
    exact h.standing.pass id rfl rfl (fun _ => trivial) rfl rfl
      (not_sending_of_waiting hpending fun _ => nofun) rfl
  | send r => exact h.standing.answer_send hcut hpending ha rfl rfl rfl rfl
  | readBody => exact h.standing.answer_readBody hcut ha rfl rfl rfl rfl
  | _ => cases ha

end Steps

end Flight

namespace Scene

variable [DecidableEq ι] {w : Stage ι} {i : ι → Interaction α} {sc sc' : Scene ι α}

/-- What is known of some calls that are under way together. -/
structure Sound (w : Stage ι) (i : ι → Interaction α) (sc : Scene ι α) : Prop where
  flight : ∀ k, (sc.flight k).Sound w k (i k) sc.expired
  numbers : Issued (Flight.numbers ∘ sc.flight) sc.sent
  timers : Issued (Flight.timers ∘ sc.flight) sc.started

omit [DecidableEq ι] in
theorem sound_start (w : Stage ι) (i : ι → Interaction α) : Sound w i (start i) where
  flight k := by
    exact ⟨.unsent rfl rfl rfl nofun fun o => nofun, fun o _ _ _ => ⟨{}, ⟨rfl, rfl⟩, nofun, rfl⟩⟩
  numbers := issued_none
  timers := issued_none

omit [DecidableEq ι] in
theorem isAborted_iff {k : ι} :
    sc.isAborted k = true ↔ (sc.flight k).IsCut sc.expired := by
  simp only [isAborted, Flight.IsCut, Option.any_eq_true, List.contains_iff_mem, Option.mem_def]

/-- Every step keeps what is known of the calls. -/
theorem sound_of_step (hi : ∀ k s, ((i k).requests s {}).length ≤ 1) (h : Step w sc sc')
    (hs : Sound w i sc) : Sound w i sc' := by
  refine ⟨?_, h.issued_numbers hs.numbers, h.issued_timers hs.timers⟩
  have same (l : ι) : (sc.flight l).Sound w l (i l) sc.expired := hs.flight l
  cases h with
  | log hw hr => exact flight_set ((same _).log hw hr) fun l _ => same l
  | startTimer hw hr => exact flight_set ((same _).startTimer hw hr _) fun l _ => same l
  | stopTimer hw hr => exact flight_set ((same _).stopTimer hw hr) fun l _ => same l
  | send hw hr => exact flight_set ((same _).send (hi _) hw hr _) fun l _ => same l
  | wait hw hr _ he => exact flight_set ((same _).wait hw hr he) fun l _ => same l
  | answer hw hr ha =>
    exact flight_set ((same _).answer isAborted_iff.1 hw hr ha) fun l _ => same l
  | expire hrunning => exact fun l => (same l).frame (List.subset_cons_self _ _)

/-- Every run keeps what is known of the calls. -/
theorem sound_of_play (hi : ∀ k s, ((i k).requests s {}).length ≤ 1) {moves : List (Move ι)}
    (h : sc.play w moves = some sc') (hs : Sound w i sc) : Sound w i sc' :=
  keeps_of_play (fun _ _ hstep => sound_of_step hi hstep) h hs

end Scene

end ConfigClient
