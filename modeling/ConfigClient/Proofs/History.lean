import ConfigClient.Client
import ConfigClient.Interaction
import Mathlib.Tactic.SplitIfs

/-!
# Histories

What an interaction does in its surroundings can be told as a list of events: each question it asks,
with the answer unless none ever comes. The history exists also where the interaction waits for ever
and has no result.

* `Interaction.history`: the events of an interaction.
* `Interaction.requests`, `Interaction.messages`, `Interaction.replies`: the requests it sends, the
  messages it logs and the responses that it reads in full.
* `run_bind`, `history_bind`: two interactions one after the other.
* `progress_of_run`: what is left in the progress is what the history tells.
* `IsQuiet`, `Settles`: interactions without traffic, and those whose result needs no answers.
-/

namespace ConfigClient

/-- A question of an interaction, and the answer if one came. -/
structure Event where
  effect : Effect
  answer : Option effect.Answer

namespace Event

/-! ## Reading a history -/

/-- The request that an event sends. -/
def request? : Event → Option Request
  | ⟨.send r, _⟩ => some r
  | _ => none

/-- The message that an event logs. -/
def message? : Event → Option Text
  | ⟨.log message, _⟩ => some message
  | _ => none

/-- The response that an arrived body completes. -/
def completed (unread : Option Response) (answer : Option (Except Value Text)) :
    List FullResponse :=
  match unread, answer with
  | some response, some (.ok body) => [⟨response, body⟩]
  | _, _ => []

/-- The responses that are read in full, given the one that has arrived and is still unread. -/
def repliesAfter (unread : Option Response) : List Event → List FullResponse
  | [] => []
  | ⟨.send _, answer⟩ :: rest => repliesAfter (answer.bind Except.toOption) rest
  | ⟨.readBody, answer⟩ :: rest => completed unread answer ++ repliesAfter none rest
  | _ :: rest => repliesAfter unread rest

/-- Whether an event is no part of the traffic with the network. -/
def isQuiet : Event → Bool
  | ⟨.send _, _⟩ => false
  | ⟨.readBody, _⟩ => false
  | _ => true

theorem request?_of_isQuiet {ev : Event} (h : ev.isQuiet) : ev.request? = none := by
  obtain ⟨effect, answer⟩ := ev
  cases effect <;> first | rfl | cases h

theorem repliesAfter_cons_of_isQuiet {ev : Event} (h : ev.isQuiet) (unread : Option Response)
    (rest : List Event) : repliesAfter unread (ev :: rest) = repliesAfter unread rest := by
  obtain ⟨effect, answer⟩ := ev
  cases effect <;> first | rfl | cases h

theorem repliesAfter_quiet_append {h : List Event} (hq : ∀ ev ∈ h, ev.isQuiet)
    (unread : Option Response) (rest : List Event) :
    repliesAfter unread (h ++ rest) = repliesAfter unread rest := by
  induction h with
  | nil => rfl
  | cons ev h ih =>
    rw [List.cons_append, repliesAfter_cons_of_isQuiet (hq ev (by simp))]
    exact ih fun ev hev => hq ev (by simp [hev])

theorem repliesAfter_of_quiet {h : List Event} (hq : ∀ ev ∈ h, ev.isQuiet)
    (unread : Option Response) : repliesAfter unread h = [] := by
  rw [← List.append_nil h, repliesAfter_quiet_append hq]
  rfl

theorem repliesAfter_append_quiet (h : List Event) {rest : List Event}
    (hq : ∀ ev ∈ rest, ev.isQuiet) (unread : Option Response) :
    repliesAfter unread (h ++ rest) = repliesAfter unread h := by
  induction h generalizing unread with
  | nil => exact repliesAfter_of_quiet hq unread
  | cons ev h ih =>
    obtain ⟨effect, answer⟩ := ev
    cases effect <;> simp only [List.cons_append, repliesAfter, ih]

end Event

namespace Interaction

variable {α β : Type}

/-- The events of an interaction; the last one may still be without its answer. -/
def history (s : Surroundings) (p : Progress) : Interaction α → List Event
  | done _ => []
  | ask e next =>
    match s.answer p e with
    | none => [⟨e, none⟩]
    | some (answer, p) => ⟨e, some answer⟩ :: (next answer).history s p

/-- The result of an interaction, none if it waits for ever. -/
def result (s : Surroundings) (p : Progress) (i : Interaction α) : Option α :=
  (i.run s p).map Prod.fst

/-- The requests that an interaction sends. -/
def requests (s : Surroundings) (p : Progress) (i : Interaction α) : List Request :=
  (i.history s p).filterMap Event.request?

/-- The messages that an interaction logs. -/
def messages (s : Surroundings) (p : Progress) (i : Interaction α) : List Text :=
  (i.history s p).filterMap Event.message?

/-- The responses that an interaction reads in full. -/
def replies (s : Surroundings) (p : Progress) (i : Interaction α) : List FullResponse :=
  Event.repliesAfter none (i.history s p)

/-! ## One interaction after another -/

theorem bind_eq (i : Interaction α) (f : α → Interaction β) : i >>= f = i.bind f := rfl

theorem bind_assoc {γ : Type} (i : Interaction α) (f : α → Interaction β)
    (g : β → Interaction γ) : (i.bind f).bind g = i.bind fun a => (f a).bind g := by
  induction i with
  | done a => rfl
  | ask e next ih =>
    simp only [bind]
    exact congrArg (ask e) (funext ih)

theorem run_bind (s : Surroundings) (p : Progress) (i : Interaction α)
    (f : α → Interaction β) :
    (i.bind f).run s p = (i.run s p).bind fun x => (f x.1).run s x.2 := by
  induction i generalizing p with
  | done a => rfl
  | ask e next ih =>
    simp only [bind, run]
    cases s.answer p e with
    | none => rfl
    | some x => exact ih x.1 x.2

theorem history_bind (s : Surroundings) (p : Progress) (i : Interaction α)
    (f : α → Interaction β) :
    (i.bind f).history s p =
      i.history s p ++ (i.run s p).elim [] fun x => (f x.1).history s x.2 := by
  induction i generalizing p with
  | done a => rfl
  | ask e next ih =>
    simp only [bind, history, run]
    cases s.answer p e with
    | none => rfl
    | some x => simp only [ih x.1 x.2, List.cons_append]

theorem messages_bind (s : Surroundings) (p : Progress) (i : Interaction α)
    (f : α → Interaction β) :
    (i.bind f).messages s p =
      i.messages s p ++ (i.run s p).elim [] fun x => (f x.1).messages s x.2 := by
  unfold messages
  rw [history_bind, List.filterMap_append]
  cases i.run s p <;> rfl

/-! ## What the progress keeps of a history -/

/-- Whether an interaction never takes part in the traffic with the network. -/
def IsQuiet (i : Interaction α) : Prop := ∀ s p, ∀ ev ∈ i.history s p, ev.isQuiet

theorem isQuiet_done (a : α) : (done a).IsQuiet := by
  intro s p ev hev
  cases hev

theorem isQuiet_perform {e : Effect} (h : ∀ answer, Event.isQuiet ⟨e, answer⟩) :
    (perform e).IsQuiet := by
  intro s p ev hev
  simp only [perform, history] at hev
  cases hx : s.answer p e with
  | none =>
    rw [hx] at hev
    rw [List.mem_singleton.mp hev]
    exact h none
  | some x =>
    rw [hx] at hev
    rw [List.mem_singleton.mp hev]
    exact h (some x.1)

theorem IsQuiet.bind {i : Interaction α} {f : α → Interaction β} (hi : i.IsQuiet)
    (hf : ∀ a, (f a).IsQuiet) : (i.bind f).IsQuiet := by
  intro s p ev hev
  rw [history_bind, List.mem_append] at hev
  rcases hev with hev | hev
  · exact hi s p ev hev
  · cases hr : i.run s p with
    | none => rw [hr] at hev; cases hev
    | some x => rw [hr] at hev; exact hf x.1 s x.2 ev hev

theorem requests_of_isQuiet {i : Interaction α} (h : i.IsQuiet) (s : Surroundings)
    (p : Progress) : i.requests s p = [] := by
  unfold requests
  rw [List.filterMap_eq_nil_iff]
  exact fun ev hev => Event.request?_of_isQuiet (h s p ev hev)

/-- The traffic of two interactions of which the first is quiet. -/
theorem traffic_bind_of_isQuiet_left {s : Surroundings} {p q : Progress} {i : Interaction α}
    {a : α} (h : i.IsQuiet) (hr : i.run s p = some (a, q)) (f : α → Interaction β) :
    (i.bind f).requests s p = (f a).requests s q ∧ (i.bind f).replies s p = (f a).replies s q := by
  have hh : (i.bind f).history s p = i.history s p ++ (f a).history s q := by
    rw [history_bind, hr]
    rfl
  unfold requests replies
  rw [hh, List.filterMap_append, Event.repliesAfter_quiet_append (h s p)]
  exact ⟨by rw [show (i.history s p).filterMap Event.request? = [] from requests_of_isQuiet h s p,
    List.nil_append], rfl⟩

/-- The traffic of two interactions of which the second is quiet. -/
theorem traffic_bind_of_isQuiet_right {i : Interaction α} {f : α → Interaction β}
    (h : ∀ a, (f a).IsQuiet) (s : Surroundings) (p : Progress) :
    (i.bind f).requests s p = i.requests s p ∧ (i.bind f).replies s p = i.replies s p := by
  unfold requests replies
  rw [history_bind]
  cases i.run s p with
  | none => simp only [Option.elim_none, List.append_nil, and_self]
  | some x =>
    simp only [Option.elim_some]
    rw [List.filterMap_append, Event.repliesAfter_append_quiet _ (h x.1 s x.2)]
    exact ⟨by rw [show ((f x.1).history s x.2).filterMap Event.request? = [] from
      requests_of_isQuiet (h x.1) s x.2, List.append_nil], rfl⟩

/-! ## Interactions that need no answers -/

/-- An interaction that has no traffic, logs some messages and ends with a fixed result whatever its
surroundings are. -/
structure Settles (i : Interaction α) (logged : List Text) (a : α) : Prop where
  quiet : i.IsQuiet
  messages_eq : ∀ s p, i.messages s p = logged
  run_eq : ∀ s p, ∃ q, i.run s p = some (a, q)

theorem settles_done (a : α) : (done a).Settles [] a :=
  ⟨isQuiet_done a, fun _ _ => rfl, fun _ p => ⟨p, rfl⟩⟩

theorem settles_log (message : Text) : (log message).Settles [message] () :=
  ⟨isQuiet_perform fun _ => rfl, fun _ _ => rfl, fun _ _ => ⟨_, rfl⟩⟩

theorem settles_stopTimer (timer : Nat) : (perform (.stopTimer timer)).Settles [] () :=
  ⟨isQuiet_perform fun _ => rfl, fun _ _ => rfl, fun _ _ => ⟨_, rfl⟩⟩

theorem Settles.bind {i : Interaction α} {f : α → Interaction β} {logged logged' : List Text}
    {a : α} {b : β} (hi : i.Settles logged a) (hf : (f a).Settles logged' b) :
    (i.bind f).Settles (logged ++ logged') b := by
  refine ⟨?_, ?_, ?_⟩
  · intro s p ev hev
    obtain ⟨q, hq⟩ := hi.run_eq s p
    rw [history_bind, hq, List.mem_append] at hev
    rcases hev with hev | hev
    · exact hi.quiet s p ev hev
    · exact hf.quiet s q ev hev
  · intro s p
    obtain ⟨q, hq⟩ := hi.run_eq s p
    rw [messages_bind, hq, hi.messages_eq s p]
    exact congrArg (logged ++ ·) (hf.messages_eq s q)
  · intro s p
    obtain ⟨q, hq⟩ := hi.run_eq s p
    rw [run_bind, hq]
    exact hf.run_eq s q

/-- What can be seen of two interactions of which the first is quiet and comes to an end. -/
theorem observe_bind_of_isQuiet {s : Surroundings} {p q : Progress} {i : Interaction α} {a : α}
    (h : i.IsQuiet) (hr : i.run s p = some (a, q)) (f : α → Interaction β) :
    (i.bind f).requests s p = (f a).requests s q ∧ (i.bind f).replies s p = (f a).replies s q ∧
      (i.bind f).messages s p = i.messages s p ++ (f a).messages s q ∧
      (i.bind f).result s p = (f a).result s q := by
  have traffic := traffic_bind_of_isQuiet_left h hr f
  refine ⟨traffic.1, traffic.2, ?_, ?_⟩
  · rw [messages_bind, hr]
    rfl
  · unfold result
    rw [run_bind, hr]
    rfl

/-- What can be seen of two interactions of which the second always settles. -/
theorem observe_bind_of_settles {i : Interaction α} {f : α → Interaction β}
    {logged : α → List Text} {g : α → β} (h : ∀ a, (f a).Settles (logged a) (g a))
    (s : Surroundings) (p : Progress) :
    (i.bind f).requests s p = i.requests s p ∧ (i.bind f).replies s p = i.replies s p ∧
      (i.bind f).messages s p = i.messages s p ++ (i.result s p).elim [] logged ∧
      (i.bind f).result s p = (i.result s p).map g := by
  have traffic := traffic_bind_of_isQuiet_right (i := i) (fun a => (h a).quiet) s p
  refine ⟨traffic.1, traffic.2, ?_, ?_⟩
  · rw [messages_bind]
    unfold result
    cases i.run s p with
    | none => rfl
    | some x => exact congrArg (i.messages s p ++ ·) ((h x.1).messages_eq s x.2)
  · unfold result
    rw [run_bind]
    cases i.run s p with
    | none => rfl
    | some x =>
      obtain ⟨q, hq⟩ := (h x.1).run_eq s x.2
      simp only [Option.bind_some, hq, Option.map_some]

/-! ## Timers -/

/-- Whether an interaction that holds some timers looks after them: a request names only a timer
that is held, and how the interaction ends fits the timers that are held then. -/
def Tends (post : List Nat → α → Prop) (held : List Nat) : Interaction α → Prop
  | done a => post held a
  | ask (.send r) next => (∀ t ∈ r.timer, t ∈ held) ∧ ∀ answer, (next answer).Tends post held
  | ask .startTimer next => ∀ timer, (next timer).Tends post (timer :: held)
  | ask (.stopTimer timer) next => (next ()).Tends post (held.filter (· ≠ timer))
  | ask .readBody next => ∀ answer, (next answer).Tends post held
  | ask .accessToken next => ∀ answer, (next answer).Tends post held
  | ask .projectId next => ∀ answer, (next answer).Tends post held
  | ask (.log _) next => (next ()).Tends post held

theorem Tends.bind {post : List Nat → α → Prop} {post' : List Nat → β → Prop} {held : List Nat}
    {i : Interaction α} {f : α → Interaction β} (hi : i.Tends post held)
    (hf : ∀ held a, post held a → (f a).Tends post' held) : (i.bind f).Tends post' held := by
  induction i generalizing held with
  | done a => exact hf held a hi
  | ask e next ih =>
    cases e with
    | send r => exact ⟨hi.1, fun answer => ih answer (hi.2 answer)⟩
    | startTimer => exact fun timer => ih timer (hi timer)
    | stopTimer timer => exact ih () hi
    | log message => exact ih () hi
    | _ => exact fun answer => ih answer (hi answer)

/-- Whether an interaction can be left alone with timers of its caller: it names none, and it starts
none that it does not stop. -/
abbrev LeavesTimers (i : Interaction α) : Prop := ∀ held, i.Tends (fun after _ => after = held) held

theorem LeavesTimers.bind {i : Interaction α} {f : α → Interaction β} (hi : i.LeavesTimers)
    (hf : ∀ a, (f a).LeavesTimers) : (i.bind f).LeavesTimers := by
  intro held
  refine (hi held).bind ?_
  rintro _ a rfl
  exact hf a _

end Interaction

/-! ## Attempts -/

namespace Attempt

variable {α β γ : Type}

theorem andThen_assoc (i : Attempt α) (f : α → Attempt β) (g : β → Attempt γ) :
    (i.andThen f).andThen g = i.andThen fun a => (f a).andThen g := by
  unfold andThen
  rw [Interaction.bind_assoc]
  congr 1
  funext x
  cases x <;> rfl

/-- What can be seen of two attempts of which the first is quiet and succeeds. -/
theorem observe_andThen_of_ok {s : Surroundings} {p q : Progress} {i : Attempt α} {a : α}
    (h : i.IsQuiet) (hr : i.run s p = some (.ok a, q)) (next : α → Attempt β) :
    (i.andThen next).requests s p = (next a).requests s q ∧
      (i.andThen next).replies s p = (next a).replies s q ∧
      (i.andThen next).messages s p = i.messages s p ++ (next a).messages s q ∧
      (i.andThen next).result s p = (next a).result s q :=
  Interaction.observe_bind_of_isQuiet h hr _

/-- What can be seen of two attempts of which the first is quiet and fails. -/
theorem observe_andThen_of_error {s : Surroundings} {p q : Progress} {i : Attempt α} {f : Fault}
    (h : i.IsQuiet) (hr : i.run s p = some (.error f, q)) (next : α → Attempt β) :
    (i.andThen next).requests s p = [] ∧ (i.andThen next).replies s p = [] ∧
      (i.andThen next).messages s p = i.messages s p ∧
      (i.andThen next).result s p = some (.error f) := by
  have observed : (i.andThen next).requests s p = (fail f : Attempt β).requests s q ∧
      (i.andThen next).replies s p = (fail f : Attempt β).replies s q ∧
      (i.andThen next).messages s p = i.messages s p ++ (fail f : Attempt β).messages s q ∧
      (i.andThen next).result s p = (fail f : Attempt β).result s q :=
    Interaction.observe_bind_of_isQuiet h hr _
  obtain ⟨h1, h2, h3, h4⟩ := observed
  exact ⟨h1, h2, h3.trans (List.append_nil _), h4⟩

end Attempt

end ConfigClient
