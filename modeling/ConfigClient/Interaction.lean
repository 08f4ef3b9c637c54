import ConfigClient.Headers

/-!
# Interactions and what surrounds them

A computation that needs a credential, a network, a timer and a log, and a fixed behaviour of these
under which it can be run.
-/

namespace ConfigClient

/-! ## Interactions

Requests need a credential, a network, a timer and a log. A computation that uses them is a tree: it
ends with a result, or it asks for one thing and goes on with the answer. What gives the answers is
kept apart, so that one computation can run alone or beside others.

* `Effect`: what can be asked for, with `Effect.Answer` the type of the answer.
* `Interaction`: a computation that asks, a monad.
* `Attempt`: an interaction that may fail with a fault.
-/

/-- A request as it is handed to the network. -/
structure Request where
  url : Text
  headers : Headers
  /-- Whether it goes through a proxy. -/
  proxied : Bool
  /-- The timer that aborts it when it runs out, if there is one. -/
  timer : Option Nat

/-- A response of which the body is still to be read. -/
structure Response where
  status : Double
  headers : Headers

/-- What an interaction can ask for. Timers have numbers, so that what is aborted or stopped is what
was meant to be. -/
inductive Effect where
  /-- Log a message for debugging. -/
  | log (message : Text)
  /-- Ask the credential for an access token. -/
  | accessToken
  /-- Ask the credential for the project it belongs to. -/
  | projectId
  /-- Start a timer. The answer is its number. -/
  | startTimer
  | stopTimer (timer : Nat)
  /-- Send a request and wait for the response. -/
  | send (r : Request)
  /-- Read the body of the response that arrived last. -/
  | readBody

/-- The type of the answer. A credential rejects with an error, the network with any value. -/
@[reducible] def Effect.Answer : Effect → Type
  | log _ => Unit
  | accessToken => Except Fault Value
  | projectId => Except Fault Value
  | startTimer => Nat
  | stopTimer _ => Unit
  | send _ => Except Value Response
  | readBody => Except Value Text

/-- A computation that asks for things: it is done, or it asks for one and goes on with the answer.
-/
inductive Interaction (α : Type) where
  | done (result : α)
  | ask (e : Effect) (next : e.Answer → Interaction α)

namespace Interaction

variable {α β : Type}

/-- An interaction followed by another, which goes on with the result of the first. -/
def bind : Interaction α → (α → Interaction β) → Interaction β
  | done a, f => f a
  | ask e next, f => ask e fun answer => (next answer).bind f

/-- Interactions follow one another. -/
instance : Monad Interaction where
  pure := done
  bind := bind

/-- Ask for one thing and end with the answer. -/
def perform (e : Effect) : Interaction e.Answer := ask e done

/-- Log a message for debugging. -/
def log (message : Text) : Interaction Unit := perform (.log message)

end Interaction

/-- An interaction that may fail with a fault. -/
abbrev Attempt (α : Type) := Interaction (Except Fault α)

namespace Attempt

variable {α β : Type}

/-- A success without any effect. -/
def succeed (a : α) : Attempt α := .done (.ok a)

/-- A failure without any effect. -/
def fail (f : Fault) : Attempt α := .done (.error f)

/-- A failure of the library. -/
def raise (e : LibraryError) : Attempt α := fail (.library e)

/-- An attempt followed by another, which is left out if the first one fails. -/
def andThen (a : Attempt α) (next : α → Attempt β) : Attempt β :=
  Interaction.bind a fun
    | .ok result => next result
    | .error f => fail f

/-- An attempt that logs a message first. -/
def afterLog (message : Text) (a : Attempt α) : Attempt α :=
  Interaction.bind (Interaction.log message) fun _ => a

/-- A computation without effects. -/
def ofExcept : Except PlatformError α → Attempt α
  | .ok a => succeed a
  | .error e => fail (.platform e)

end Attempt

/-! ## Surroundings of an interaction

An interaction that runs alone is answered by a credential and a network whose behaviour is fixed in
advance: one answer of the credential, and for the first, the second and each further request what
becomes of it.

* `Surroundings`: the answers of the credential and the fate of each request.
* `Progress`: what has happened so far.
* `Interaction.run`: the result of an interaction and the progress it made, none if it waits for
  something that never happens.
-/

/-- How reading a body ends. -/
inductive BodyOutcome where
  | text (t : Text)
  | rejects (v : Value)
  /-- Only an abort ends the wait. -/
  | hangs

/-- What becomes of a request. -/
inductive Outcome where
  | responds (r : Response) (body : BodyOutcome)
  | rejects (v : Value)
  /-- Only an abort ends the wait. -/
  | hangs

/-- What answers an interaction that runs alone. -/
structure Surroundings where
  /-- How the credential answers a question for a token. -/
  token : Except Fault Value
  /-- How the credential answers a question for its project. -/
  project : Except Fault Value
  /-- What becomes of the requests, in the order in which they are sent. -/
  outcome : Nat → Outcome
  /-- The numbers of the timers, in the order in which they are started. -/
  timer : Nat → Nat := id

/-- What an interaction has done so far, and what is under way. -/
structure Progress where
  /-- The requests sent. -/
  requests : List Request := []
  /-- The messages logged. -/
  messages : List Text := []
  /-- How often the credential was asked for a token. -/
  tokenCalls : Nat := 0
  /-- How often the credential was asked for its project. -/
  projectCalls : Nat := 0
  /-- How many timers have been started. -/
  started : Nat := 0
  /-- The timers that run. -/
  running : List Nat := []
  /-- The body of the response that arrived last, with the timer that aborts its request. -/
  body : Option (BodyOutcome × Option Nat) := none

/-- The error of a request that a timer has aborted. -/
def aborted : Value := .fault (.plain "AbortError" "The user aborted a request." [])

namespace Surroundings

/-- A wait that only a timer can end. -/
def wait (p : Progress) (timer : Option Nat) {α : Type} : Option (Except Value α × Progress) :=
  if timer.any p.running.contains then some (.error aborted, p) else none

/-- A request meets the fate that was fixed for its number. -/
def send (s : Surroundings) (p : Progress) (r : Request) :
    Option (Except Value Response × Progress) :=
  let sent := { p with requests := p.requests ++ [r], body := none }
  match s.outcome p.requests.length with
  | .responds response body => some (.ok response, { sent with body := some (body, r.timer) })
  | .rejects v => some (.error v, sent)
  | .hangs => wait sent r.timer

/-- The body of the response that arrived last meets the fate that was fixed for it. -/
def readBody (p : Progress) : Option (Except Value Text × Progress) :=
  match p.body with
  | some (.text t, _) => some (.ok t, p)
  | some (.rejects v, _) => some (.error v, p)
  | some (.hangs, timer) => wait p timer
  | none => none

/-- A timer starts under the number that was fixed for it. -/
def startTimer (s : Surroundings) (p : Progress) : Nat × Progress :=
  let timer := s.timer p.started
  (timer, { p with started := p.started + 1, running := timer :: p.running })

/-- A timer stops. -/
def stopTimer (p : Progress) (timer : Nat) : Progress :=
  { p with running := p.running.filter (· ≠ timer) }

/-- The answer to an effect and the progress after it. -/
def answer (s : Surroundings) (p : Progress) : (e : Effect) → Option (e.Answer × Progress)
  | .log message => some ((), { p with messages := p.messages ++ [message] })
  | .accessToken => some (s.token, { p with tokenCalls := p.tokenCalls + 1 })
  | .projectId => some (s.project, { p with projectCalls := p.projectCalls + 1 })
  | .startTimer => some (s.startTimer p)
  | .stopTimer timer => some ((), stopTimer p timer)
  | .send r => s.send p r
  | .readBody => readBody p

end Surroundings

namespace Interaction

variable {α : Type}

/-- Run an interaction to its end. -/
def run (s : Surroundings) (p : Progress) : Interaction α → Option (α × Progress)
  | done a => some (a, p)
  | ask e next =>
    match s.answer p e with
    | none => none
    | some (answer, p) => (next answer).run s p

end Interaction

end ConfigClient
