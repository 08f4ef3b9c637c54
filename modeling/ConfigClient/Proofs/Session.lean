import ConfigClient.Environment
import Mathlib.Tactic.SplitIfs

/-!
# What a session records

A session reads an environment that changes over time. Only setting and unsetting variables changes
it, and what is recorded are the names that replaced a default, one by one as they were asked for.
What a name stands for is the value of the variable, if it is set and not empty. If it is not set at
all the environment still answers, like every record, to the names that all records have.

* `Environment.found?`, `Environment.offered?`: what is found under a name, and what of it replaces
  a default.
* `Environment.first_eq`, `Environment.override_eq`: the two ways to read the environment.
* `Session.IsFirst`, `Session.IsChoice`, `Session.Answers`: the replies.
* `Session.step_overridden`, `Session.exists_getElem?_run`: one step and a whole run.
* `Session.run_bookkeeping`: the environment, the record and the reply after every step of a run.
* `Session.run_of_inherited_name`: names that are answered to although no variable has them.
-/

namespace ConfigClient

namespace Environment

/-! ## Names -/

/-- What stands for a name that no variable has. -/
def spare? (env : Environment) (name : Text) : Option Value :=
  if env (kept name) = none then Inherited.value? name else none

/-- What is found under a name: the value of a variable that is set and not empty, or else what
stands for a name that no variable has. -/
def found? (env : Environment) (name : Text) : Option Value :=
  ((env.value? name).map .string).or (env.spare? name)

/-- Whether a value is an operation that takes parameters. -/
def takesParameters : Value → Bool
  | .operation _ parameters _ => parameters ≠ 0
  | _ => false

/-- What of it replaces a default. Where no variable has the name only an operation that takes
parameters does. -/
def offered? (env : Environment) (name : Text) : Option Value :=
  ((env.value? name).map .string).or ((env.spare? name).filter takesParameters)

/-- What every record answers to is an operation or an object. -/
theorem inherited_cases {name : Text} {v : Value} (h : Inherited.value? name = some v) :
    (∃ parameters reply, v = .operation name parameters reply) ∨ v = .object [] := by
  unfold Inherited.value? at h
  split at h
  · cases h
    exact .inl ⟨_, _, rfl⟩
  · split_ifs at h
    cases h
    exact .inr rfl

/-- What is found is what the name stands for, if that counts as true. -/
theorem found?_eq (env : Environment) (name : Text) :
    env.found? name = (some (env.lookup name)).filter Value.holds := by
  unfold found? spare? lookup value?
  cases env (kept name) with
  | some t => cases t <;> rfl
  | none =>
    cases h : Inherited.value? name with
    | none => rfl
    | some v =>
      obtain ⟨parameters, reply, rfl⟩ | rfl := inherited_cases h <;> rfl

/-- What is offered is what the name stands for, if that replaces a default. -/
theorem offered?_eq (env : Environment) (name : Text) :
    env.offered? name = (some (env.lookup name)).filter replaces := by
  unfold offered? spare? lookup value?
  cases env (kept name) with
  | some t => cases t <;> rfl
  | none =>
    cases h : Inherited.value? name with
    | none => rfl
    | some v =>
      obtain ⟨parameters, reply, rfl⟩ | rfl := inherited_cases h <;> rfl

theorem found?_ne_empty (env : Environment) (name : Text) :
    env.found? name ≠ some (.string []) := by
  rw [found?_eq]
  intro h
  obtain ⟨-, hholds⟩ := Option.filter_eq_some_iff.1 h
  cases hholds

/-! ## Reading the environment -/

/-- The first of several names under which something is found. -/
theorem first_eq (env : Environment) (names : List Text) :
    env.first names = (names.findSome? env.found?).getD .undefined := by
  unfold first
  congr 1
  induction names with
  | nil => rfl
  | cons name names ih =>
    rw [List.map_cons, List.find?_cons, List.findSome?_cons, found?_eq, ih]
    cases h : (env.lookup name).holds <;> simp [Option.filter, h]

/-- What a coercion makes of a value, none if it fails. -/
def coerced (coerce : Option Coercion) (default v : Value) : Option Value :=
  match coerce with
  | none => some v
  | some f => f v default

/-- What replaces a default: what is offered, if the coercion does not fail. -/
theorem override_eq (env : Environment) (name : Text) (default : Value)
    (coerce : Option Coercion) :
    env.override name default coerce =
      ((env.offered? name).bind (coerced coerce default)).getD default := by
  unfold override counts
  rw [offered?_eq]
  cases h : replaces (env.lookup name) with
  | false => simp [Option.filter, h]
  | true => cases coerce <;> simp [Option.filter, h, coerced]

/-- What a step leaves of the environment. -/
def after (env : Environment) : Session.Step → Environment
  | .set name value => env.set name value
  | .unset name => env.unset name
  | .first _ => env
  | .override _ _ _ => env

end Environment

namespace Session

open Environment

/-! ## Replies -/

/-- Whether a value is what the first of several names stands for under which something is found.
That is never the empty text. -/
structure IsFirst (env : Environment) (names : List Text) (v : Value) : Prop where
  eq_found : v = (names.findSome? env.found?).getD .undefined
  ne_empty : v ≠ .string []

/-- Whether a value is what is chosen in the place of a default: what is offered, coerced if a
coercion is given. The default itself is chosen if nothing is offered or the coercion fails; nothing
else leads to it but an offer that comes out the same. -/
structure IsChoice (env : Environment) (name : Text) (default : Value) (coerce : Option Coercion)
    (v : Value) : Prop where
  default_iff : v = default ↔
    env.offered? name = none ∨ ∃ offer, env.offered? name = some offer ∧
      (coerced coerce default offer = none ∨ coerced coerce default offer = some default)
  eq_coerced : ∀ offer result, env.offered? name = some offer →
    coerced coerce default offer = some result → v = result

/-- What a step is replied in an environment. -/
inductive Answers (env : Environment) : Step → Reply → Prop
  | set (name value : Text) : Answers env (.set name value) .done
  | unset (name : Text) : Answers env (.unset name) .done
  | first {names : List Text} {v : Value} (h : IsFirst env names v) :
    Answers env (.first names) (.found v)
  | override {name : Text} {default v : Value} {coerce : Option Coercion}
    (h : IsChoice env name default coerce v) :
    Answers env (.override name default coerce) (.chosen v)

theorem isFirst_first (env : Environment) (names : List Text) :
    IsFirst env names (env.first names) where
  eq_found := env.first_eq names
  ne_empty := by
    rw [first_eq]
    cases h : names.findSome? env.found? with
    | none => simp
    | some v =>
      obtain ⟨name, -, hfound⟩ := List.exists_of_findSome?_eq_some h
      rintro rfl
      exact env.found?_ne_empty name hfound

theorem isChoice_override (env : Environment) (name : Text) (default : Value)
    (coerce : Option Coercion) :
    IsChoice env name default coerce (env.override name default coerce) := by
  rw [override_eq]
  cases hoffer : env.offered? name with
  | none => exact ⟨by simp [hoffer], by simp [hoffer]⟩
  | some offer =>
    refine ⟨?_, fun offer' result hoffer' hresult => ?_⟩
    · cases hresult : coerced coerce default offer <;> simp [hoffer, hresult]
    · cases hoffer.symm.trans hoffer'
      rw [Option.bind_some, hresult, Option.getD_some]

theorem answers_step (s : Session) (step : Step) : Answers s.environment step (s.step step).2 := by
  cases step with
  | set name value => exact .set name value
  | unset name => exact .unset name
  | first names => exact .first (isFirst_first s.environment names)
  | override name default coerce =>
    exact .override (isChoice_override s.environment name default coerce)

/-! ## The record -/

/-- The steps with the environment that each of them meets. -/
def moments (env : Environment) : List Step → List (Environment × Step)
  | [] => []
  | step :: rest => (env, step) :: moments (env.after step) rest

/-- The name that is recorded at a moment: one that replaces a default, whether or not the coercion
fails. -/
def recorded? : Environment × Step → Option Text
  | (env, .override name _ _) => if (env.offered? name).isSome then some name else none
  | _ => none

theorem step_environment (s : Session) (step : Step) :
    (s.step step).1.environment = s.environment.after step := by
  cases step <;> rfl

theorem step_overridden (s : Session) (step : Step) :
    (s.step step).1.overridden = s.overridden ++ (recorded? (s.environment, step)).toList := by
  cases step with
  | override name default coerce =>
    have hsome : (s.environment.offered? name).isSome = s.environment.counts name := by
      rw [offered?_eq, counts]
      cases h : replaces (s.environment.lookup name) <;> simp [Option.filter, h]
    simp only [Session.step, recorded?, hsome]
    split_ifs <;> rfl
  | _ => simp [Session.step, recorded?]

theorem filterMap_moments_append (env : Environment) (before : List Step) (step : Step) :
    (moments env (before ++ [step])).filterMap recorded? =
      (moments env before).filterMap recorded? ++
        (recorded? (before.foldl Environment.after env, step)).toList := by
  induction before generalizing env with
  | nil => cases h : recorded? (env, step) <;> simp [moments, h]
  | cons head before ih =>
    simp only [List.cons_append, moments, List.foldl_cons]
    rw [List.filterMap_cons, List.filterMap_cons, ih]
    cases recorded? (env, head) <;> rfl

/-! ## Runs -/

/-- Where a run stands before one of its steps: the environment has met the changes so far, and the
names recorded so far stand behind those from before the run. -/
theorem exists_getElem?_run (s : Session) (before after : List Step) (step : Step) :
    ∃ now : Session, (s.run (before ++ step :: after))[before.length]? = some (now.step step) ∧
      now.environment = before.foldl Environment.after s.environment ∧
      now.overridden = s.overridden ++ (moments s.environment before).filterMap recorded? := by
  induction before generalizing s with
  | nil => exact ⟨s, rfl, rfl, by simp [moments]⟩
  | cons head before ih =>
    obtain ⟨now, hrun, henvironment, hoverridden⟩ := ih (s.step head).1
    rw [step_environment] at henvironment hoverridden
    refine ⟨now, ?_, henvironment, ?_⟩
    · simpa [run] using hrun
    · rw [hoverridden, step_overridden, moments, List.filterMap_cons, List.append_assoc]
      cases recorded? (s.environment, head) <;> rfl

/-- After every step of a run that starts with nothing recorded: the environment has met the changes
so far and nothing else, the record lists the names that have replaced a default so far, in order
and with repetitions, and the reply is the one for the environment at that moment. -/
theorem run_bookkeeping (env : Environment) (before after : List Step) (step : Step) :
    ∃ s reply, (run { environment := env } (before ++ step :: after))[before.length]? =
        some (s, reply) ∧
      s.environment = (before ++ [step]).foldl Environment.after env ∧
      s.overridden = (moments env (before ++ [step])).filterMap recorded? ∧
      Answers (before.foldl Environment.after env) step reply := by
  obtain ⟨now, hrun, henvironment, hoverridden⟩ :=
    exists_getElem?_run { environment := env } before after step
  refine ⟨(now.step step).1, (now.step step).2, hrun, ?_, ?_, ?_⟩
  · rw [step_environment, henvironment, List.foldl_append]
    rfl
  · rw [step_overridden, hoverridden, henvironment, filterMap_moments_append]
    rfl
  · rw [← henvironment]
    exact answers_step now step

/-- Names that every record has are answered to although no variable has them. -/
theorem run_of_inherited_name :
    Environment.empty.value? "hasOwnProperty" = none ∧
      run { environment := .empty } [.override "hasOwnProperty" (.string "d") none] =
        [(⟨.empty, ["hasOwnProperty"]⟩,
          .chosen (.operation "hasOwnProperty" 1 (some (.bool false))))] ∧
      Environment.empty.value? "toString" = none ∧
      run { environment := .empty } [.first ["toString"]] =
        [(⟨.empty, []⟩,
          .found (.operation "toString" 0 (some (.string "[object Object]"))))] :=
  ⟨rfl, rfl, rfl, rfl⟩

end Session

end ConfigClient
