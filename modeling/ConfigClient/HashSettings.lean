import ConfigClient.Fault
import ConfigClient.Environment

/-!
# Hash settings for imported users

Users are imported with the hashes of their passwords, and the import says how these were made: by
an algorithm that was applied for some number of rounds. Nothing is hashed here.

* `HashAlgorithm`: the algorithms that are applied repeatedly, with the rounds that each allows.
* `HashSettings.create`: the settings for an algorithm by name.
* `HashSettings.makers`: the functions that make settings for one algorithm each.
* `HashSettings.uploadOptions`: the part of an import request that holds them.
-/

namespace ConfigClient

/-- The algorithms that are applied repeatedly (`RepeatableHashAlgorithm`). -/
inductive HashAlgorithm where
  | md5
  | sha1
  | sha256
  | sha512
  | pbkdfSha1
  | pbkdf2Sha256
  deriving DecidableEq

namespace HashAlgorithm

/-- All algorithms. -/
def all : List HashAlgorithm := [md5, sha1, sha256, sha512, pbkdfSha1, pbkdf2Sha256]

/-- The name that an import request has for an algorithm. -/
def name : HashAlgorithm → Text
  | md5 => "MD5"
  | sha1 => "SHA1"
  | sha256 => "SHA256"
  | sha512 => "SHA512"
  | pbkdfSha1 => "PBKDF_SHA1"
  | pbkdf2Sha256 => "PBKDF2_SHA256"

/-- The algorithm with a name, if it is one. -/
def ofName? (t : Text) : Option HashAlgorithm := all.find? fun a => a.name == t

/-- The least and the greatest number of rounds (`ROUNDS_BOUNDS`). -/
def bounds : HashAlgorithm → Nat × Nat
  | md5 => (0, 8192)
  | sha1 => (1, 8192)
  | sha256 => (1, 8192)
  | sha512 => (1, 8192)
  | pbkdfSha1 => (0, 120000)
  | pbkdf2Sha256 => (0, 120000)

end HashAlgorithm

/-- The settings of an import (`UserImportHash`). The algorithm is named by a text or by what has
the text of a name. -/
structure HashSettings where
  /-- What names the algorithm. -/
  algorithm : Value
  /-- How often the algorithm is applied. -/
  rounds : Double

namespace HashSettings

/-- What limits the rounds of an algorithm. -/
inductive Limit where
  | between (min max : Nat)
  | unlimited

/-- The limit that goes with a name. What every record answers to, the table of algorithms answers
to without bounds; any other name that is no algorithm has no entry. -/
def limit? (name : Text) : Option Limit :=
  match HashAlgorithm.ofName? name with
  | some a => some (.between a.bounds.1 a.bounds.2)
  | none => (Inherited.value? name).map fun _ => .unlimited

/-- Whether a limit leaves room for a number of rounds. -/
def Limit.allows : Limit → Double → Bool
  | .between min max, x => Double.le (.ofNat min) x && Double.le x (.ofNat max)
  | .unlimited, _ => true

/-- A limit as an error shows it. -/
def Limit.text : Limit → Text
  | .between min max => Text.ofNat min ++ ".." ++ Text.ofNat max
  | .unlimited => "undefined..undefined"

/-- The error for rounds that are not a whole number within the limit. -/
def invalidRounds (name : Text) (limit : Limit) : LibraryError :=
  .raise ("Must provide valid rounds(" ++ limit.text ++ ") for hash algorithm " ++ name) {}

/-- The whole number of rounds in the options, if it is within the limit. -/
def rounds? (limit : Limit) (options : Value) : Option Double :=
  match options.field "rounds" with
  | .number x => if x.isWhole && limit.allows x then some x else none
  | _ => none

/-- The name of an algorithm and the limit of its rounds. -/
def find (algorithm : Value) : Except PlatformError (Text × Limit) := do
  let name ← algorithm.text
  match limit? name with
  | some limit => return (name, limit)
  | none => .error .wrongKind

/-- The settings for an algorithm by name, with the rounds that the options give (`repeatableHash`).
-/
def create (algorithm options : Value) : Except Fault HashSettings :=
  match find algorithm with
  | .error e => .error (.platform e)
  | .ok (name, limit) =>
    if options.isMissing then .error (.platform .wrongKind)
    else match rounds? limit options with
      | some rounds => .ok ⟨algorithm, rounds⟩
      | none => .error (.library (invalidRounds name limit))

/-- The settings for one algorithm. -/
def make (a : HashAlgorithm) (options : Value) : Except Fault HashSettings :=
  create (.string a.name) options

/-- The settings for MD5. -/
def md5 : Value → Except Fault HashSettings := make .md5

/-- The settings for SHA-1. -/
def sha1 : Value → Except Fault HashSettings := make .sha1

/-- The settings for SHA-256. -/
def sha256 : Value → Except Fault HashSettings := make .sha256

/-- The settings for SHA-512. -/
def sha512 : Value → Except Fault HashSettings := make .sha512

/-- The settings for PBKDF with SHA-1. -/
def pbkdfSha1 : Value → Except Fault HashSettings := make .pbkdfSha1

/-- The settings for PBKDF2 with SHA-256. -/
def pbkdf2Sha256 : Value → Except Fault HashSettings := make .pbkdf2Sha256

/-- The functions that make settings for one algorithm each, by the names that they are exported
under. -/
def makers : List (Text × (Value → Except Fault HashSettings)) :=
  [("md5", md5), ("sha1", sha1), ("sha256", sha256), ("sha512", sha512),
    ("pbkdfSha1", pbkdfSha1), ("pbkdf2Sha256", pbkdf2Sha256)]

/-- Settings as a value. -/
def value (h : HashSettings) : Value :=
  .object [("hashAlgorithm", h.algorithm), ("rounds", .number h.rounds)]

/-- The fields of settings that an import request carries (`toUploadAccountOptions`). -/
def uploadOptions (settings : Value) : Except PlatformError Value :=
  if settings.isMissing then .error .wrongKind
  else .ok (.object
    [("hashAlgorithm", settings.field "hashAlgorithm"), ("rounds", settings.field "rounds")])

end HashSettings

end ConfigClient
