import ConfigClient.Proofs.Concurrent.Progress

/-!
# One client and many calls

However the steps of some fetches of one client come in between one another, each of them does what
it would do alone, with the answer of its own credential and with what becomes of its own request.

* `TemplateClient.AsksInOrder`: what a fetch has asked for, from the first question on.
* `TemplateClient.ServesApart`: what is known of all fetches together.
* `TemplateClient.servesApart_of_play`: it holds after all moves, in any order.
-/

namespace ConfigClient

variable {ι α : Type}

/-! ## The questions of one call -/

/-- The request that is sent, if one is. -/
def Effect.request? : Effect → Option Request
  | .send r => some r
  | _ => none

theorem Event.filterMap_effect (events : List Event) :
    (events.map effect).filterMap Effect.request? = events.filterMap request? := by
  rw [List.filterMap_map]
  refine List.filterMap_congr fun ev _ => ?_
  obtain ⟨e, answer⟩ := ev
  cases e <;> rfl

namespace Flight

variable {w : Stage ι} {k : ι} {i : Interaction α} {expired : List Nat} {f : Flight α}

/-- What a call has asked for is what it asks for first when it runs alone. -/
theorem Sound.asked_isPrefix (h : Sound w k i expired f) :
    ∃ o timer, f.asked <+: (i.history (w.alone k o timer) {}).map Event.effect := by
  obtain ⟨o, timer, q, -, -, hretraces, -⟩ := h.exists_retraces
  refine ⟨o, timer, ?_⟩
  rw [hretraces.history_eq, List.map_append]
  refine (List.prefix_append_right_inj _).2 ?_
  cases hw : f.waiting with
  | false =>
    rw [pending_of_not_waiting hw]
    exact List.nil_prefix
  | true =>
    cases hr : f.rest with
    | done a =>
      rw [pending, hw, hr]
      exact List.nil_prefix
    | ask e next =>
      obtain ⟨answer, tail, htail⟩ := Interaction.exists_history_ask (w.alone k o timer) q e next
      rw [pending_of_waiting hw hr, htail]
      exact ⟨tail.map Event.effect, rfl⟩

/-- A call that sends at most one request has as many numbers as it has sent requests. -/
theorem Standing.length_numbers {outcome : Nat → Outcome} {cut : Prop} (h : Standing outcome cut f)
    (hle : (f.asked.filterMap Effect.request?).length ≤ 1) :
    f.numbers.length = (f.asked.filterMap Effect.request?).length := by
  have hasked : f.asked.filterMap Effect.request? =
      f.events.filterMap Event.request? ++ f.pending.filterMap Effect.request? := by
    rw [asked, List.filterMap_append, Event.filterMap_effect]
  have hnone (hp : ∀ r, .send r ∉ f.pending) : f.pending.filterMap Effect.request? = [] := by
    refine List.filterMap_eq_nil_iff.2 fun e he => ?_
    cases e with
    | send r => exact absurd he (hp r)
    | _ => rfl
  rw [hasked] at hle ⊢
  cases h with
  | unsent numbers_eq unread_eq events_eq pending agrees =>
    rw [numbers_eq, events_eq, hnone pending]
    rfl
  | sent numbers_eq unread_eq events_eq pending agrees =>
    rw [numbers_eq, events_eq, pending]
    rfl
  | arrived numbers_eq outcome_eq unread_eq events_ne pending agrees =>
    rw [hnone pending, List.append_nil] at hle ⊢
    rw [numbers_eq]
    exact Nat.le_antisymm (List.length_pos_iff.2 events_ne) hle
  | ended numbers_eq met unread_eq events_ne pending agrees =>
    rw [hnone pending, List.append_nil] at hle ⊢
    rw [numbers_eq]
    exact Nat.le_antisymm (List.length_pos_iff.2 events_ne) hle

end Flight

namespace TemplateClient

/-- Whether a call has asked for things in their order: for its token at most once and before
anything else, and for at most one request, with headers that were prepared with that token. Where
they cannot be prepared, be it for the headers, the URL or the token, it has sent nothing. -/
structure AsksInOrder (c : TemplateClient) (token : Except Fault Value) (asked : List Effect) :
    Prop where
  token_first : ∃ n later, asked = List.replicate n .accessToken ++ later ∧ n ≤ 1 ∧
    (later ≠ [] → n = c.http.asksFor commonHeaders) ∧ ∀ e ∈ later, e.sparesCredential = true
  requests_le_one : (asked.filterMap Effect.request?).length ≤ 1
  prepared : ∀ r, .send r ∈ asked → ∃ path, c.path = .ok path ∧ r.url = c.http.url path ∧
    c.http.prepared c.credential token commonHeaders = .ok r.headers
  unsent : ∀ f, c.http.prepared c.credential token commonHeaders = .error f →
    asked.filterMap Effect.request? = []

/-- A fetch asks for things in their order. -/
theorem asksInOrder_of_isPrefix {c : TemplateClient} {env : Environment} {s : Surroundings}
    {asked : List Effect} (h : asked <+: ((c.fetch env).history s {}).map Event.effect) :
    c.AsksInOrder s.token asked := by
  have hone := Client.asksFor_le_one c.http commonHeaders
  have hrequests : asked.filterMap Effect.request? <+: (c.fetch env).requests s {} := by
    rw [Interaction.requests, ← Event.filterMap_effect]
    exact h.filterMap _
  have hprepared {r : Request} (hr : r ∈ asked.filterMap Effect.request?) :=
    mem_requests_fetch (hrequests.subset hr)
  constructor
  · obtain ⟨n, later, hhistory, hle, hn, hlater⟩ := c.history_fetch env s {}
    obtain ⟨tail, htail⟩ := h
    rw [hhistory, List.map_append, List.map_replicate] at htail
    rcases List.append_eq_append_iff.1 htail with ⟨missing, htokens, -⟩ | ⟨more, hasked, hmore⟩
    · obtain ⟨hlength, hasked, -⟩ := List.append_eq_replicate_iff.1 htokens.symm
      refine ⟨_, [], hasked.trans (List.append_nil _).symm, ?_, (absurd rfl ·), fun e he => ?_⟩
      · omega
      · cases he
    · refine ⟨_, more, hasked, hle.trans hone, fun hne => hn ?_, fun e he => ?_⟩
      · rintro rfl
        exact hne (List.append_eq_nil_iff.1 hmore.symm).1
      · have hmem : e ∈ later.map Event.effect := hmore ▸ List.mem_append_left _ he
        obtain ⟨ev, hev, rfl⟩ := List.mem_map.1 hmem
        exact hlater ev hev
  · exact hrequests.length_le.trans (c.length_requests_fetch_le env s {})
  · intro r hr
    exact hprepared (List.mem_filterMap.2 ⟨_, hr, rfl⟩)
  · intro f hf
    refine List.eq_nil_iff_forall_not_mem.2 fun r hr => ?_
    obtain ⟨path, -, -, hheaders⟩ := hprepared hr
    rw [hheaders] at hf
    cases hf

variable [DecidableEq ι]

/-- Whether the calls of a client that are under way together keep out of each other's way. -/
structure ServesApart (c : TemplateClient) (env : ι → Environment) (w : Stage ι)
    (sc : Scene ι (Except Fault Template)) : Prop where
  asksInOrder : ∀ k, c.AsksInOrder (w.token k) (sc.flight k).asked
  /-- Each request, and so what becomes of it, belongs to one call. -/
  numbers_issued : Issued (Flight.numbers ∘ sc.flight) sc.sent
  length_numbers : ∀ k, (sc.flight k).numbers.length =
    ((sc.flight k).asked.filterMap Effect.request?).length
  /-- Each timer belongs to one call. -/
  timers_issued : Issued (Flight.timers ∘ sc.flight) sc.started
  /-- The request of a call names no timer of another one. -/
  signal_mem : ∀ k, ∀ t ∈ (sc.flight k).signal, t ∈ (sc.flight k).timers
  disarmed : ∀ k a, (sc.flight k).rest = .done a → ∀ t ∈ (sc.flight k).timers, t ∉ sc.running
  /-- A call does what it would do alone, with its own token, with the numbers of its own timers and
  with what has become of its own request, which only a timer of its own can have cut short. -/
  alone : ∀ k, ∃ o timer,
    (∀ j ∈ (sc.flight k).numbers, Met ((sc.flight k).IsCut sc.expired) (w.outcome j) o) ∧
      (sc.flight k).Counts timer ∧
      (sc.flight k).events <+: (c.fetch (env k)).history (w.alone k o timer) {} ∧
      ∀ a, (sc.flight k).rest = .done a → (c.fetch (env k)).result (w.alone k o timer) {} = some a
  goesOn : ∀ k, sc.GoesOn w k

/-- One client serves any number of calls apart from each other, in whatever order they go on. -/
theorem servesApart_of_play (c : TemplateClient) (env : ι → Environment) {w : Stage ι}
    {moves : List (Move ι)} {sc : Scene ι (Except Fault Template)}
    (h : (Scene.start fun k => c.fetch (env k)).play w moves = some sc) :
    c.ServesApart env w sc := by
  have sound : Scene.Sound w (fun k => c.fetch (env k)) sc :=
    Scene.sound_of_play (fun k s => c.length_requests_fetch_le (env k) s {}) h
      (Scene.sound_start ..)
  have ready : ∀ k, (sc.flight k).Ready :=
    Scene.ready_of_play h (Scene.ready_start _)
  have tended : ∀ k, (sc.flight k).Tended sc.running :=
    Scene.tended_of_play h issued_none fun k =>
      ⟨⟨[], c.tends_fetch (env k), List.Subset.refl _, nofun⟩, nofun⟩
  have inOrder (k : ι) : c.AsksInOrder (w.token k) (sc.flight k).asked := by
    obtain ⟨o, timer, ho⟩ := (sound.flight k).asked_isPrefix
    exact asksInOrder_of_isPrefix ho
  refine ⟨inOrder, sound.numbers, fun k => ?_, sound.timers, fun k => (tended k).signal_mem, ?_,
    fun k => ?_, ?_⟩
  · exact (sound.flight k).standing.length_numbers (inOrder k).requests_le_one
  · intro k a hdone t ht hrunning
    obtain ⟨held, htends, -, hruns⟩ := (tended k).exists_held
    rw [hdone] at htends
    obtain rfl : held = [] := htends
    cases hruns t ht hrunning
  · obtain ⟨o, timer, q, hmet, hcounts, hretraces, -⟩ := (sound.flight k).exists_retraces
    refine ⟨o, timer, hmet, hcounts, ⟨_, hretraces.history_eq.symm⟩, fun a hdone => ?_⟩
    have hrun := hretraces.run_eq
    rw [hdone] at hrun
    rw [Interaction.result, hrun]
    rfl
  · exact Scene.goesOn_of_sound (fun k => c.readsAtOnce_fetch (env k)) sound ready

/-! ### Two calls -/

/-- A sample with a time limit. -/
def timedSample : TemplateClient := { sample with timeout := .number (.ofNat 5) }

/-- Two calls. Of the requests the first hangs and the others are answered. -/
def twoCalls : Stage Bool where
  token isFirst := .ok (.string (if isFirst then "first" else "second"))
  project _ := .ok .undefined
  outcome
    | 0 => .hangs
    | _ => .responds ⟨.ofNat 200, []⟩ (.text "null")

/-- One call sends its request and waits until its timer has run out. The other is answered in the
meantime. -/
def twoMoves : List (Move Bool) :=
  [.ask true, .ask false, .answer false, .answer true, .ask true, .ask true, .ask true,
    .ask false, .ask false, .ask false, .answer false, .expire 0, .answer true, .ask false,
    .ask true, .ask true, .ask true, .answer false, .ask false, .ask false, .ask false]

theorem servesApart_of_play_twoMoves :
    ∃ sc, (Scene.start fun _ => timedSample.fetch .empty).play twoCalls twoMoves = some sc ∧
      sc.sent = 2 ∧ sc.running = [] ∧ timedSample.ServesApart (fun _ => .empty) twoCalls sc := by
  have hplay : ((Scene.start fun _ => timedSample.fetch .empty).play twoCalls twoMoves).map
      (fun sc => (sc.sent, sc.running)) = some (2, []) := by decide +kernel
  obtain ⟨sc, h, hsc⟩ := Option.map_eq_some_iff.1 hplay
  obtain ⟨hsent, hrunning⟩ := Prod.mk.inj hsc
  exact ⟨sc, h, hsent, hrunning, servesApart_of_play _ _ h⟩

end TemplateClient

end ConfigClient
