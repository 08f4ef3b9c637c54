import ConfigClient.Environment
import ConfigClient.Log.Entry
import ConfigClient.Text
import ConfigClient.Text.Terminal

/-!
# Logger

Log files, the sinks that entries are written to, and a logger that has some of them.
-/

namespace ConfigClient

/-! ## Log files

The files below the working directory, as far as logging has to do with them.

* `Files.candidates`: the names under which a log may be kept.
* `Files.available?`: the first of them that can be written.
* `Files.append`: a file with more text at its end.
-/

namespace Log

/-- Paths below the working directory, each with the text of a file or, if it is a directory, with
none. -/
abbrev Files := List (Text × Option Text)

namespace Files

/-- The parts of a path. -/
def parts : Text → List Text
  | [] => [[]]
  | u :: rest =>
    if u = Text.unit '/' then [] :: parts rest
    else match parts rest with
      | [] => [[u]]
      | part :: more => (u :: part) :: more

/-- The parts of a path that count, with those before it, last part first: a dot leads nowhere, and
two dots lead back. -/
def walk (before : List Text) : List Text → List Text
  | [] => before
  | part :: rest =>
    if part = [] ∨ part = ("." : Text) then walk before rest
    else if part = (".." : Text) then walk before.tail rest
    else walk (part :: before) rest

/-- A path without parts that lead nowhere or back. -/
def normal (path : Text) : Text := Text.join "/" (walk [] (parts path)).reverse

/-- Files given by paths of any form. Of two for one file the last counts. -/
def ofList (entries : List (Text × Option Text)) : Files :=
  entries.foldl
    (fun files f => files.filter (fun old => old.1 != normal f.1) ++ [(normal f.1, f.2)]) []

/-- Whether a path is a directory, by itself or because something is in it. -/
def isDirectory (files : Files) (path : Text) : Bool :=
  files.any fun f => (f.1 == path && f.2.isNone) || Text.startsWith f.1 (path ++ "/")

/-- The names under which a log may be kept, in the order in which they are tried. -/
def candidates : List Text :=
  "remote-config-admin-debug.log" ::
    (List.range' 1 9).map fun n => "remote-config-admin-debug." ++ Text.ofNat n ++ ".log"

/-- The first name that is free or that of a file (`findAvailableLogFile`). -/
def available? (files : Files) : Option Text := candidates.find? fun c => !files.isDirectory c

/-- More text at the end of a file, which is created if it does not exist. -/
def append (path text : Text) : Files → Files
  | [] => [(path, some text)]
  | f :: rest =>
    if f.1 = path then (path, f.2.map (· ++ text)) :: rest else f :: append path text rest

/-- The files with their texts. -/
def texts (files : Files) : List (Text × Text) := files.filterMap fun f => f.2.map (f.1, ·)

end Files

end Log

/-! ## Sinks

A sink writes the entries up to its level, one line each, to the console or to a file.

* `Sink.limit`: the least urgent level that a sink writes.
* `Sink.line?`: the line for an entry, none if the sink does not write it.
-/

namespace Log

/-- Where entries are written. -/
inductive Sink where
  /-- The console with everything for debugging. -/
  | console
  /-- The console with what a user wants to know. -/
  | brief
  | file (path : Text)

namespace Sink

/-- The kind of a sink. -/
def name : Sink → Text
  | console => "console"
  | brief => "console"
  | file _ => "file"

/-- The least urgent level that a sink writes. -/
def limit : Sink → Level
  | console => .debug
  | brief => .info
  | file _ => .debug

/-- Message and further values in one line, without control sequences (`segmentsOf`). -/
def full (e : Entry) : Except PlatformError Text := do
  let segments ← (e.message :: e.rest).mapM segment?
  return (Text.join " " (segments.map (·.getD []))).withoutControl

/-- Those of the message and the further values that are texts, as they are. -/
def texts (e : Entry) : Text := Text.join " " ((e.message :: e.rest).filterMap Value.string?)

/-- The line for an entry of a level. -/
def render (s : Sink) (level : Level) (e : Entry) : Except PlatformError Text :=
  match s with
  | console => full e
  | brief => .ok (texts e)
  | file _ => do return "[" ++ level.name ++ "] " ++ (← full e)

/-- The line for an entry of a level, if the sink writes it: unless it is marked, and up to the
level of the sink. -/
def line? (s : Sink) (level : Level) (e : Entry) : Except PlatformError (Option Text) :=
  if !e.exception && level.isWithin s.limit then do
    return some ((← s.render level e) ++ [0x0A])
  else .ok none

end Sink

end Log

/-! ## Logger

The logger hands each entry to all sinks that have been added. Its state also holds what the sinks
depend on: the environment and the files below the working directory.

* `Logger.toFile`: log to a file.
* `Logger.toConsole`: log to the console, in the way that the environment asks for.
* `Logger.call`: one call of the logger.
* `Logger.run`: a sequence of steps.
-/

/-- A logger with what its sinks depend on. -/
structure Logger where
  environment : Environment
  files : Log.Files
  sinks : List Log.Sink := []
  silent : Bool := false
  /-- Whether an entry got stuck on its way to the sinks. All that come after it wait behind it. -/
  jammed : Bool := false
  /-- The working directory. -/
  directory : Text
  /-- The time that stamps show. -/
  clock : Text

namespace Logger

/-! ### Sinks -/

/-- The error if no log file can be written. -/
def noCandidate : Fault :=
  .plain "Error" "Unable to obtain permissions for remote-config-admin-debug.log" []

/-- The error for a file without a name. -/
def noName : Fault := .plain "Error" "Cannot log to file without filename or stream." []

/-- The logger with a file as a further sink. The file is created. -/
def addFile (l : Logger) (path : Text) : Logger :=
  let path := Log.Files.normal path
  { l with sinks := l.sinks ++ [.file path], files := l.files.append path [] }

/-- Log to a file of some name. No path holds a zero character. -/
def toNamed (l : Logger) (name : Value) : Logger × Except Fault Text :=
  match name with
  | .string path =>
    if path = [] then (l, .error noName)
    else if List.elem 0 path then (l, .error (.platform .wrongKind))
    else (l.addFile path, .ok path)
  | v => (l, .error (if v.holds then .platform .wrongKind else noName))

/-- Log to a file (`useFileLogger`): the one named, or the first available candidate in the working
directory. The name of the file is given back. -/
def toFile (l : Logger) (name : Value) : Logger × Except Fault Text :=
  if name.isMissing then
    match l.files.available? with
    | none => (l, .error noCandidate)
    | some name => (l.addFile name, .ok (l.directory ++ "/" ++ name))
  else l.toNamed name

/-- The variable that asks for everything on the console. -/
def debugVariable : Text := "DEBUG"

/-- The variable that asks for brief messages on the console. -/
def briefVariable : Text := "REMOTE_CONFIG_ADMIN_LOG"

/-- Log to the console, if the environment asks for it (`useConsoleLoggers`). -/
def toConsole (l : Logger) : Logger :=
  if (l.environment.value? debugVariable).isSome then { l with sinks := l.sinks ++ [.console] }
  else if (l.environment.value? briefVariable).isSome then
    { l with sinks := l.sinks ++ [.brief] }
  else l

/-! ### Entries -/

/-- A line handed to a sink: the files and the console output after it. -/
def put (s : Log.Sink) (line : Text) (files : Log.Files) (output : Text) : Log.Files × Text :=
  match s with
  | .file path => (files.append path line.scalar, output)
  | _ => (files, output ++ line)

/-- The outcome of a call: the files, the console output, whether the entry got stuck, and the
error that ended the call, if one did. -/
structure Outcome where
  files : Log.Files
  output : Text := []
  jammed : Bool := false
  error : Option PlatformError := none

/-- An entry handed to sinks one after another, up to the first that fails. -/
def deliver (level : Log.Level) (e : Log.Entry) : List Log.Sink → Outcome → Outcome
  | [], o => o
  | s :: rest, o =>
    match s.line? level e with
    | .error error => { o with error }
    | .ok none => deliver level e rest o
    | .ok (some line) =>
      let (files, output) := put s line o.files o.output
      deliver level e rest { o with files, output }

/-- An entry on its way to the sinks. It gets stuck if its level has no text. -/
def dispatch (l : Logger) (e : Log.Entry) : Outcome :=
  if l.jammed || l.silent then { files := l.files, jammed := l.jammed }
  else match e.level? with
    | .error error => { files := l.files, jammed := true, error := some error }
    | .ok none => { files := l.files }
    | .ok (some level) => deliver level e l.sinks { files := l.files }

/-- One call of the logger by the name of the method. -/
def call (l : Logger) (method : Text) (args : List Value) : Outcome :=
  match Log.Entry.ofCall l.clock method args with
  | .error e => { files := l.files, jammed := l.jammed, error := some e }
  | .ok e => l.dispatch e

/-! ### Steps -/

/-- What can happen to a logger. -/
inductive Step where
  | toFile (name : Value)
  | toConsole
  | setVariable (name value : Text)
  | unsetVariable (name : Text)
  | silence (silent : Bool)
  | call (method : Text) (args : List Value)

/-- What a step gives back. -/
inductive Reply where
  | done
  | file (name : Text)
  | sinks (all : List Log.Sink)
  | failed (f : Fault)

/-- One step: the logger after it, what it gives back, and what it writes to the console. -/
def step (l : Logger) : Step → Logger × Reply × Text
  | .toFile name =>
    match l.toFile name with
    | (l, .ok name) => (l, .file name, [])
    | (l, .error f) => (l, .failed f, [])
  | .toConsole => let l := l.toConsole; (l, .sinks l.sinks, [])
  | .setVariable name value =>
    ({ l with environment := l.environment.set name value }, .done, [])
  | .unsetVariable name => ({ l with environment := l.environment.unset name }, .done, [])
  | .silence silent => ({ l with silent }, .done, [])
  | .call method args =>
    let o := l.call method args
    ({ l with files := o.files, jammed := o.jammed },
      match o.error with
      | none => .done
      | some e => .failed (.platform e),
      o.output)

/-- The replies and the console output of each of a sequence of steps, and the logger after them.
-/
def run (l : Logger) : List Step → Logger × List (Reply × Text)
  | [] => (l, [])
  | s :: rest =>
    let (l, reply) := l.step s
    let (l, replies) := l.run rest
    (l, reply :: replies)

end Logger

end ConfigClient
