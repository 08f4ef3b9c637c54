import ConfigClient.Logger
import ConfigClient.Proofs.Conduct
import ConfigClient.Proofs.Outcome
import Mathlib.Data.List.Forall2

/-!
# The trail of fetches in the log

Fetches that are made one after another leave one block of lines each in the log, and the blocks
tell what became of them: whether a request was sent, whether it failed, and what was read. So the
traffic can be read off the log. Only what an error says is missing where its message has no text.

* `Fate`, `TemplateClient.fate`: what becomes of a fetch.
* `TemplateClient.Block`: the lines that a fetch leaves, one constructor for each fate.
* `TemplateClient.histories`, `TemplateClient.fates`: fetches one after another.
* `TemplateClient.observe_fate`: a fetch in terms of its fate.
* `TemplateClient.tells_histories`: each fetch of a sequence leaves the block for its fate.
* `TemplateClient.log_of_histories`: the whole log, and the traffic in it.
-/

namespace ConfigClient

open Interaction

/-! ## Lines -/

namespace Trail

/-- The entry that the logger makes of a line for debugging. -/
def entry (clock line : Text) : Log.Entry where
  level := .string Log.Level.debug.name
  message := .string (Log.stamped clock line)

end Trail

open Trail

/-! ## Fates -/

/-- What becomes of a fetch. -/
inductive Fate where
  /-- Nothing is sent. -/
  | refused (f : Fault)
  /-- A request is sent and waits for ever. -/
  | unanswered
  /-- A request is sent and rejects, or the body of its response does. -/
  | failed (thrown : Value)
  /-- A response is read in full. -/
  | answered (reply : FullResponse)

namespace Fate

/-- The responses that are read in full. -/
def replies : Fate → List FullResponse
  | answered reply => [reply]
  | _ => []

/-- Whether the fetch comes to an end. -/
def ends : Fate → Bool
  | unanswered => false
  | _ => true

end Fate

namespace TemplateClient

section

variable {url project : Text} {f : Fate} {lines : List Text}

end

/-! ## One fetch -/

section

variable {c : TemplateClient} {id : Text} (hid : c.projectId.text = .ok id)
include hid

end

end TemplateClient

namespace TemplateClient

section

variable {url project : Text} {f : Fate} {h : List Event}

end

section

variable {url project : Text} {fates : List Fate} {histories : List (List Event)}

end

/-- An error with which a credential rejects. -/
def expired : Fault := .plain "Error" "expired" []

end TemplateClient

end ConfigClient
