import ConfigClient.Proofs.Concurrent.Scene

/-!
# Whose requests and timers

Requests and timers are numbered over all calls. Each number belongs to the one call that has sent
the request or started the timer, and none is left out.

* `Issued`: numbers below a count, each of them given to one owner.
* `Step.issued_numbers`, `Step.issued_timers`: every step keeps to that.
* `Flight.Tended`, `tended_of_step`: a call that looks after its timers does so among others, too:
  its request names a timer of its own, and no timer of it runs that it does not hold.
-/

namespace ConfigClient

variable {ι α : Type} [DecidableEq ι]

/-- Whether numbers have been given out: all those below a count, and each of them once. -/
structure Issued (own : ι → List Nat) (count : Nat) : Prop where
  owned_iff : ∀ j, j < count ↔ ∃ k, j ∈ own k
  unique : ∀ j k l, j ∈ own k → j ∈ own l → k = l

omit [DecidableEq ι] in
theorem issued_none : Issued (fun _ : ι => []) 0 := by
  constructor
  · intro j
    constructor
    · rintro ⟨⟩
    · rintro ⟨k, ⟨⟩⟩
  · rintro j k l ⟨⟩

theorem mem_update_append {own : ι → List Nat} {k l : ι} {j m : Nat} :
    j ∈ Function.update own k (own k ++ [m]) l ↔ j ∈ own l ∨ (l = k ∧ j = m) := by
  by_cases hl : l = k
  · subst hl
    simp
  · simp [hl]

/-- The next number is given to some owner. -/
theorem Issued.issue {own : ι → List Nat} {count : Nat} (h : Issued own count) (k : ι) :
    Issued (Function.update own k (own k ++ [count])) (count + 1) := by
  have hlt {m : Nat} {l : ι} (hm : m ∈ own l) : m < count := (h.owned_iff m).2 ⟨l, hm⟩
  constructor
  · intro j
    simp only [mem_update_append]
    constructor
    · intro hj
      by_cases hnew : j = count
      · exact ⟨k, .inr ⟨rfl, hnew⟩⟩
      · obtain ⟨l, hl⟩ := (h.owned_iff j).1 (by omega)
        exact ⟨l, .inl hl⟩
    · rintro ⟨l, hl | ⟨-, rfl⟩⟩
      · have := hlt hl
        omega
      · omega
  · intro j l l' hl hl'
    rw [mem_update_append] at hl hl'
    rcases hl with hl | ⟨rfl, rfl⟩ <;> rcases hl' with hl' | ⟨rfl, hj⟩
    · exact h.unique j l l' hl hl'
    · subst hj
      exact absurd (hlt hl) (Nat.lt_irrefl _)
    · exact absurd (hlt hl') (Nat.lt_irrefl _)
    · rfl

section Flights

variable {g : Flight α → List Nat} {flight : ι → Flight α} {count : Nat} {k : ι} {f : Flight α}

theorem Issued.keep (h : Issued (g ∘ flight) count) (hf : g f = g (flight k)) :
    Issued (g ∘ Function.update flight k f) count := by
  rw [Function.comp_update, hf]
  exact (Function.update_eq_self k (g ∘ flight)).symm ▸ h

theorem Issued.renew (h : Issued (g ∘ flight) count) (hf : g f = g (flight k) ++ [count]) :
    Issued (g ∘ Function.update flight k f) (count + 1) := by
  rw [Function.comp_update, hf]
  exact h.issue k

end Flights

namespace Scene

/-- A step numbers the request that it sends. -/
theorem Step.issued_numbers {w : Stage ι} {sc sc' : Scene ι α} (h : Step w sc sc')
    (hi : Issued (Flight.numbers ∘ sc.flight) sc.sent) :
    Issued (Flight.numbers ∘ sc'.flight) sc'.sent := by
  cases h with
  | send hw hr => exact hi.renew rfl
  | expire hrunning => exact hi
  | _ => exact hi.keep rfl

/-- A step numbers the timer that it starts. -/
theorem Step.issued_timers {w : Stage ι} {sc sc' : Scene ι α} (h : Step w sc sc')
    (hi : Issued (Flight.timers ∘ sc.flight) sc.started) :
    Issued (Flight.timers ∘ sc'.flight) sc'.started := by
  cases h with
  | startTimer hw hr => exact hi.renew rfl
  | expire hrunning => exact hi
  | _ => exact hi.keep rfl

/-- To know something of all calls after one has changed. -/
theorem flight_set {sc : Scene ι α} {P : ι → Flight α → Prop} {k : ι} {f : Flight α} (hk : P k f)
    (hl : ∀ l ≠ k, P l (sc.flight l)) (l : ι) : P l ((sc.set k f).flight l) := by
  change P l (Function.update sc.flight k f l)
  by_cases h : l = k
  · subst h
    rwa [Function.update_self]
  · rw [Function.update_of_ne h]
    exact hl l h

end Scene

/-! ## Timers -/

namespace Flight

/-- Whether a call looks after its timers: it still does for those that it holds, of its own timers
only these run, and its last request has named one of its own if any. -/
structure Tended (running : List Nat) (f : Flight α) : Prop where
  exists_held : ∃ held, f.rest.Tends (fun held _ => held = []) held ∧ held ⊆ f.timers ∧
    ∀ t ∈ f.timers, t ∈ running → t ∈ held
  signal_mem : ∀ t ∈ f.signal, t ∈ f.timers

variable {running running' : List Nat} {f f' : Flight α}

/-- A call that goes on without any timer. -/
theorem Tended.go (h : Tended running f) (htimers : f'.timers = f.timers)
    (hsignal : ∀ t ∈ f'.signal, t ∈ f.timers)
    (hrest : ∀ held, held ⊆ f.timers → f.rest.Tends (fun held _ => held = []) held →
      f'.rest.Tends (fun held _ => held = []) held)
    (hrunning : ∀ t ∈ f.timers, t ∈ running' → t ∈ running) : Tended running' f' := by
  obtain ⟨held, htends, hown, hruns⟩ := h.exists_held
  refine ⟨⟨held, hrest held hown htends, htimers ▸ hown, ?_⟩, htimers ▸ hsignal⟩
  rw [htimers]
  exact fun t ht hr => hruns t ht (hrunning t ht hr)

/-- A call that another one's step has nothing to do with. -/
theorem Tended.frame (h : Tended running f)
    (hrunning : ∀ t ∈ f.timers, t ∈ running' → t ∈ running) : Tended running' f :=
  h.go rfl h.signal_mem (fun _ _ => id) hrunning

theorem Tended.startTimer (h : Tended running f) {next : Nat → Interaction α}
    (hr : f.rest = .ask .startTimer next) (timer : Nat) :
    Tended (timer :: running)
      { f.resume (e := .startTimer) next timer with timers := f.timers ++ [timer] } := by
  obtain ⟨held, htends, hown, hruns⟩ := h.exists_held
  rw [hr] at htends
  refine ⟨⟨timer :: held, htends timer, ?_, fun t ht hrunning => ?_⟩, fun t ht => ?_⟩
  · exact List.cons_subset.2 ⟨List.mem_append_right _ (List.mem_singleton_self timer),
      fun t ht => List.mem_append_left _ (hown ht)⟩
  · rcases List.mem_append.1 ht with ht | ht
    · rcases List.mem_cons.1 hrunning with rfl | hrunning
      · exact List.mem_cons_self
      · exact List.mem_cons_of_mem _ (hruns t ht hrunning)
    · rw [List.mem_singleton.1 ht]
      exact List.mem_cons_self
  · exact List.mem_append_left _ (h.signal_mem t ht)

theorem Tended.stopTimer (h : Tended running f) {timer : Nat} {next : Unit → Interaction α}
    (hr : f.rest = .ask (.stopTimer timer) next) :
    Tended (running.filter (· ≠ timer)) (f.resume (e := .stopTimer timer) next ()) := by
  obtain ⟨held, htends, hown, hruns⟩ := h.exists_held
  rw [hr] at htends
  refine ⟨⟨_, htends, List.Subset.trans List.filter_sublist.subset hown, fun t ht hrunning => ?_⟩,
    h.signal_mem⟩
  obtain ⟨hrunning, hne⟩ := List.mem_filter.1 hrunning
  exact List.mem_filter.2 ⟨hruns t ht hrunning, hne⟩

/-- The request that a call sends names a timer that the call holds, if any. -/
theorem Tended.send (h : Tended running f) {r : Request}
    {next : Except Value Response → Interaction α} (hr : f.rest = .ask (.send r) next) :
    ∀ t ∈ r.timer, t ∈ f.timers := by
  obtain ⟨held, htends, hown, -⟩ := h.exists_held
  rw [hr] at htends
  exact fun t ht => hown (htends.1 t ht)

/-- What is asked and takes time leaves the timers as they are. -/
theorem tends_of_reply? {token project : Except Fault Value} {outcome : Nat → Outcome}
    {isAborted : Bool} {e : Effect} {next : e.Answer → Interaction α}
    {reply : e.Answer × Option BodyOutcome} {held : List Nat}
    (ha : f.reply? token project outcome isAborted e = some reply)
    (h : (Interaction.ask e next).Tends (fun held _ => held = []) held) :
    (next reply.1).Tends (fun held _ => held = []) held := by
  cases e with
  | send r => exact h.2 reply.1
  | readBody => exact h reply.1
  | accessToken => exact h reply.1
  | projectId => exact h reply.1
  | _ => cases ha

end Flight

namespace Scene

/-- A step of any call leaves all timers looked after. -/
theorem tended_of_step {w : Stage ι} {sc sc' : Scene ι α} (h : Step w sc sc')
    (hi : Issued (Flight.timers ∘ sc.flight) sc.started)
    (hs : ∀ k, (sc.flight k).Tended sc.running) : ∀ k, (sc'.flight k).Tended sc'.running := by
  cases h with
  | log hw hr =>
    refine flight_set ((hs _).go rfl (hs _).signal_mem ?_ fun _ _ => id) fun l _ => hs l
    exact fun held _ htends => by rwa [hr] at htends
  | startTimer hw hr =>
    refine flight_set ((hs _).startTimer hr _) fun l _ => (hs l).frame fun t ht hrunning => ?_
    have hlt : t < sc.started := (hi.owned_iff t).2 ⟨l, ht⟩
    exact (List.mem_cons.1 hrunning).resolve_left (Nat.ne_of_lt hlt)
  | stopTimer hw hr =>
    exact flight_set ((hs _).stopTimer hr) fun l _ =>
      (hs l).frame fun t _ hrunning => (List.mem_filter.1 hrunning).1
  | send hw hr =>
    exact flight_set ((hs _).go rfl ((hs _).send hr) (fun _ _ => id) fun _ _ => id) fun l _ => hs l
  | wait hw hr htime he =>
    exact flight_set ((hs _).go rfl (hs _).signal_mem (fun _ _ => id) fun _ _ => id) fun l _ => hs l
  | answer hw hr ha =>
    refine flight_set ((hs _).go rfl (hs _).signal_mem ?_ fun _ _ => id) fun l _ => hs l
    exact fun held _ htends => Flight.tends_of_reply? ha (by rwa [hr] at htends)
  | expire hrunning => exact fun l => (hs l).frame fun t _ hr => (List.mem_filter.1 hr).1

/-- Every run leaves all timers looked after. -/
theorem tended_of_play {w : Stage ι} {moves : List (Move ι)} {sc sc' : Scene ι α}
    (h : sc.play w moves = some sc') (hi : Issued (Flight.timers ∘ sc.flight) sc.started)
    (hs : ∀ k, (sc.flight k).Tended sc.running) : ∀ k, (sc'.flight k).Tended sc'.running :=
  (keeps_of_play (P := fun sc => Issued (Flight.timers ∘ sc.flight) sc.started ∧
      ∀ k, (sc.flight k).Tended sc.running)
    (fun _ _ hstep h => ⟨hstep.issued_timers h.1, tended_of_step hstep h.1 h.2⟩) h ⟨hi, hs⟩).2

end Scene

end ConfigClient
