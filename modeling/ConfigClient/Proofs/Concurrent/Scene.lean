import ConfigClient.Proofs.History
import Mathlib.Logic.Function.Basic

/-!
# Calls under way together

Several interactions are under way at once, and nothing is fixed about the order in which they go
on. Logging and timers do not make a call wait. For everything else it asks, waits, and is answered
later: by its own credential, or with what becomes of its own request. Requests are numbered in the
order in which they are sent, over all calls, and so are timers. A timer that runs out aborts the
requests that name it.

* `Stage`: what the calls are answered.
* `Flight`, `Scene`: a call under way, and all of them with what they share.
* `Move`, `Scene.step?`, `Scene.play`: one move of one call or timer, and some after another.
* `Step`: the ways in which a scene can change.
* `keeps_of_play`: what every step keeps, every run keeps.
-/

namespace ConfigClient

/-- What some calls that are under way together are answered. -/
structure Stage (ι : Type) where
  /-- How the credential of a call answers a question for a token. -/
  token : ι → Except Fault Value
  /-- How the credential of a call answers a question for its project. -/
  project : ι → Except Fault Value
  /-- What becomes of the requests of all calls, in the order in which they are sent. -/
  outcome : Nat → Outcome

/-- Whether a call has to wait for an answer. -/
def Effect.takesTime : Effect → Bool
  | .log _ => false
  | .startTimer => false
  | .stopTimer _ => false
  | _ => true

/-! ## A call -/

/-- A call under way. -/
structure Flight (α : Type) where
  /-- What is still to be done. -/
  rest : Interaction α
  /-- Whether the next question has been asked and has no answer yet. -/
  waiting : Bool := false
  /-- The questions that have been answered. -/
  events : List Event := []
  /-- The numbers of its requests. -/
  numbers : List Nat := []
  /-- The numbers of its timers. -/
  timers : List Nat := []
  /-- The timer that its last request has named. -/
  signal : Option Nat := none
  /-- The body of the response that arrived last, until it has been read. -/
  unread : Option BodyOutcome := none

namespace Flight

variable {α : Type}

/-- The question that a call waits for, if it waits. -/
def pending (f : Flight α) : List Effect :=
  match f.waiting, f.rest with
  | true, .ask e _ => [e]
  | _, _ => []

/-- What a call has asked for so far. -/
def asked (f : Flight α) : List Effect := f.events.map Event.effect ++ f.pending

/-- A call that goes on with an answer. -/
def resume (f : Flight α) {e : Effect} (next : e.Answer → Interaction α) (answer : e.Answer) :
    Flight α :=
  { f with rest := next answer, waiting := false, events := f.events ++ [⟨e, some answer⟩] }

/-- What a call that waits is answered, with what it leaves unread; none as long as it has to wait.
-/
def reply? (token project : Except Fault Value) (outcome : Nat → Outcome) (isAborted : Bool)
    (f : Flight α) : (e : Effect) → Option (e.Answer × Option BodyOutcome)
  | .accessToken => some (token, f.unread)
  | .projectId => some (project, f.unread)
  | .send _ =>
    if isAborted then some (.error aborted, none)
    else match f.numbers.getLast?.map outcome with
      | some (.responds r body) => some (.ok r, some body)
      | some (.rejects v) => some (.error v, none)
      | _ => none
  | .readBody =>
    match isAborted, f.unread with
    | _, none => none
    | true, some _ => some (.error aborted, none)
    | false, some (.text t) => some (.ok t, none)
    | false, some (.rejects v) => some (.error v, none)
    | false, some .hangs => none
  | _ => none

end Flight

/-! ## All calls -/

/-- Calls that are under way together, and what they share. -/
structure Scene (ι α : Type) where
  /-- Each of the calls. -/
  flight : ι → Flight α
  /-- How many requests have been sent. -/
  sent : Nat := 0
  /-- How many timers have been started. -/
  started : Nat := 0
  /-- The timers that run. -/
  running : List Nat := []
  /-- The timers that have run out. -/
  expired : List Nat := []

/-- What can happen next. -/
inductive Move (ι : Type) where
  /-- A call asks its next question. -/
  | ask (k : ι)
  /-- A call is answered. -/
  | answer (k : ι)
  /-- A timer runs out. -/
  | expire (timer : Nat)

namespace Scene

variable {ι α : Type} [DecidableEq ι]

/-- The start of some calls. -/
def start (i : ι → Interaction α) : Scene ι α where
  flight k := { rest := i k }

/-- A scene in which one call has changed. -/
def set (sc : Scene ι α) (k : ι) (f : Flight α) : Scene ι α :=
  { sc with flight := Function.update sc.flight k f }

/-- A call asks its next question. Logging and timers answer at once. -/
def ask? (sc : Scene ι α) (k : ι) : Option (Scene ι α) :=
  let f := sc.flight k
  match f.waiting, f.rest with
  | false, .ask (.log _) next => some (sc.set k (f.resume next ()))
  | false, .ask .startTimer next =>
    some { sc.set k { f.resume next sc.started with timers := f.timers ++ [sc.started] } with
      started := sc.started + 1
      running := sc.started :: sc.running }
  | false, .ask (.stopTimer timer) next =>
    some { sc.set k (f.resume next ()) with running := sc.running.filter (· ≠ timer) }
  | false, .ask (.send r) _ =>
    some { sc.set k { f with
        waiting := true
        numbers := f.numbers ++ [sc.sent]
        signal := r.timer } with
      sent := sc.sent + 1 }
  | false, .ask _ _ => some (sc.set k { f with waiting := true })
  | _, _ => none

/-- Whether the timer that the request of a call has named has run out. -/
def isAborted (sc : Scene ι α) (k : ι) : Bool := (sc.flight k).signal.any sc.expired.contains

/-- A call is answered, if there is an answer. -/
def answer? (w : Stage ι) (sc : Scene ι α) (k : ι) : Option (Scene ι α) :=
  let f := sc.flight k
  match f.waiting, f.rest with
  | true, .ask e next =>
    (f.reply? (w.token k) (w.project k) w.outcome (sc.isAborted k) e).map fun (answer, unread) =>
      sc.set k { f.resume next answer with unread }
  | _, _ => none

/-- A timer runs out, if it runs. -/
def expire? (sc : Scene ι α) (timer : Nat) : Option (Scene ι α) :=
  if timer ∈ sc.running then
    some { sc with
      running := sc.running.filter (· ≠ timer)
      expired := timer :: sc.expired }
  else none

/-- The scene after a move, none if the move cannot be made. -/
def step? (w : Stage ι) (sc : Scene ι α) : Move ι → Option (Scene ι α)
  | .ask k => sc.ask? k
  | .answer k => sc.answer? w k
  | .expire timer => sc.expire? timer

/-- The scene after some moves. -/
def play (w : Stage ι) (sc : Scene ι α) (moves : List (Move ι)) : Option (Scene ι α) :=
  moves.foldlM (step? w) sc

/-! ## How a scene changes -/

/-- The changes of a scene: a call asks something or is answered, or a timer runs out. All other
calls stay as they are. -/
inductive Step (w : Stage ι) (sc : Scene ι α) : Scene ι α → Prop
  | log {k : ι} {message : Text} {next : Unit → Interaction α}
    (hw : (sc.flight k).waiting = false) (hr : (sc.flight k).rest = .ask (.log message) next) :
    Step w sc (sc.set k ((sc.flight k).resume (e := .log message) next ()))
  | startTimer {k : ι} {next : Nat → Interaction α}
    (hw : (sc.flight k).waiting = false) (hr : (sc.flight k).rest = .ask .startTimer next) :
    Step w sc
      { sc.set k { (sc.flight k).resume (e := .startTimer) next sc.started with
          timers := (sc.flight k).timers ++ [sc.started] } with
        started := sc.started + 1
        running := sc.started :: sc.running }
  | stopTimer {k : ι} {timer : Nat} {next : Unit → Interaction α}
    (hw : (sc.flight k).waiting = false)
    (hr : (sc.flight k).rest = .ask (.stopTimer timer) next) :
    Step w sc
      { sc.set k ((sc.flight k).resume (e := .stopTimer timer) next ()) with
        running := sc.running.filter (· ≠ timer) }
  | send {k : ι} {r : Request} {next : Except Value Response → Interaction α}
    (hw : (sc.flight k).waiting = false) (hr : (sc.flight k).rest = .ask (.send r) next) :
    Step w sc
      { sc.set k { sc.flight k with
          waiting := true
          numbers := (sc.flight k).numbers ++ [sc.sent]
          signal := r.timer } with
        sent := sc.sent + 1 }
  | wait {k : ι} {e : Effect} {next : e.Answer → Interaction α}
    (hw : (sc.flight k).waiting = false) (hr : (sc.flight k).rest = .ask e next)
    (htime : e.takesTime = true) (he : ∀ r, e ≠ .send r) :
    Step w sc (sc.set k { sc.flight k with waiting := true })
  | answer {k : ι} {e : Effect} {next : e.Answer → Interaction α} {answer : e.Answer}
    {unread : Option BodyOutcome}
    (hw : (sc.flight k).waiting = true) (hr : (sc.flight k).rest = .ask e next)
    (ha : (sc.flight k).reply? (w.token k) (w.project k) w.outcome (sc.isAborted k) e =
      some (answer, unread)) :
    Step w sc (sc.set k { (sc.flight k).resume next answer with unread })
  | expire {timer : Nat} (hrunning : timer ∈ sc.running) :
    Step w sc { sc with
      running := sc.running.filter (· ≠ timer)
      expired := timer :: sc.expired }

theorem step_of_step? {w : Stage ι} {sc sc' : Scene ι α} {m : Move ι}
    (h : sc.step? w m = some sc') : Step w sc sc' := by
  cases m with
  | ask k =>
    simp only [step?, ask?] at h
    split at h
    · rename_i message next hw hr
      cases h
      exact .log hw hr
    · rename_i next hw hr
      cases h
      exact .startTimer hw hr
    · rename_i timer next hw hr
      cases h
      exact .stopTimer hw hr
    · rename_i r next hw hr
      cases h
      exact .send hw hr
    · rename_i e next hlog hstart hstop hsend hw hr
      cases h
      refine .wait hw hr ?_ ?_
      · cases e with
        | log message => exact absurd HEq.rfl (hlog message next rfl)
        | startTimer => exact absurd HEq.rfl (hstart next rfl)
        | stopTimer timer => exact absurd HEq.rfl (hstop timer next rfl)
        | _ => rfl
      · rintro r rfl
        exact hsend r next rfl HEq.rfl
    · cases h
  | answer k =>
    simp only [step?, answer?] at h
    split at h
    · rename_i e next hw hr
      obtain ⟨⟨answer, unread⟩, ha, rfl⟩ := Option.map_eq_some_iff.1 h
      exact .answer hw hr ha
    · cases h
  | expire timer =>
    simp only [step?, expire?] at h
    split_ifs at h with hrunning
    cases h
    exact .expire hrunning

/-- What every step keeps, every run keeps. -/
theorem keeps_of_play {w : Stage ι} {P : Scene ι α → Prop}
    (hstep : ∀ sc sc', Step w sc sc' → P sc → P sc') {moves : List (Move ι)} {sc sc' : Scene ι α}
    (h : sc.play w moves = some sc') (hs : P sc) : P sc' := by
  induction moves generalizing sc with
  | nil =>
    cases h
    exact hs
  | cons m moves ih =>
    obtain ⟨sc₁, hm, h⟩ := Option.bind_eq_some_iff.1 h
    exact ih h (hstep sc sc₁ (step_of_step? hm) hs)

end Scene

end ConfigClient
