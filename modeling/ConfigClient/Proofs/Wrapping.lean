import Mathlib.Data.List.Induction
import ConfigClient.Proofs.ErrorCode

/-!
# Errors in several layers

An error becomes an error of a request by being built anew around it. What it says is kept in every
layer, since the defaults of an error never replace what an error holds, and so is the response that
it was built from. The layers can be taken off one by one.

* `LibraryError.Alike`: what all layers share.
* `LibraryError.IsPresent`, `LibraryError.Settled`: what every error is and no layer loses.
* `LibraryError.withCodes`, `LibraryError.behind`: layers put on and taken off.
* `TemplateClient.iterate_again`: reporting an error again and again only adds layers with the code
  that it was first reported with.
* `TemplateClient.withCodes_create`: any number of layers around any error.
-/

namespace ConfigClient

namespace LibraryError

/-! ## One layer -/

/-- Two errors that say the same and hold the same, as it is outside of them. They may differ in
their kinds, their children and the errors behind them. -/
structure Alike (e e' : LibraryError) : Prop where
  message_eq : e.held e.message = e'.held e'.message
  context_eq : e.held e.context = e'.held e'.context
  exit_eq : e.held e.exit = e'.held e'.exit
  status_eq : e.held e.status = e'.held e'.status

theorem Alike.refl (e : LibraryError) : e.Alike e := ⟨rfl, rfl, rfl, rfl⟩

theorem Alike.symm {e e' : LibraryError} (h : e.Alike e') : e'.Alike e :=
  ⟨h.message_eq.symm, h.context_eq.symm, h.exit_eq.symm, h.status_eq.symm⟩

theorem Alike.trans {e e' e'' : LibraryError} (h : e.Alike e') (h' : e'.Alike e'') :
    e.Alike e'' where
  message_eq := h.message_eq.trans h'.message_eq
  context_eq := h.context_eq.trans h'.context_eq
  exit_eq := h.exit_eq.trans h'.exit_eq
  status_eq := h.status_eq.trans h'.status_eq

/-- A response is read from the context alone. -/
theorem Alike.response?_eq {e e' : LibraryError} (h : e.Alike e') : e.response? = e'.response? := by
  rw [response?, response?, h.context_eq]

/-- Whether a value is there, so that no default replaces it. -/
def IsPresent (v : Value) : Prop := ∀ default, settle v default = v

theorem isPresent_number {x : Double} (hx : x ≠ .nan) : IsPresent (.number x) := settle_number hx

/-- A default that is a number is there itself. -/
theorem isPresent_settle (v : Value) {x : Double} (hx : x ≠ .nan) :
    IsPresent (settle v (.number x)) := by
  cases v with
  | undefined => exact isPresent_number hx
  | null => exact isPresent_number hx
  | number y =>
    cases y with
    | nan => exact isPresent_number hx
    | _ => exact fun _ => rfl
  | _ => exact fun _ => rfl

/-- What an error holds is still there outside of it. -/
theorem IsPresent.held {v : Value} (h : IsPresent v) (e : LibraryError) : IsPresent (e.held v) := by
  cases v with
  | holder level =>
    have hheld : e.held (.holder level) =
        if level = 0 then (Value.fault (.library e)).closed else .holder level := rfl
    rw [hheld]
    split_ifs
    · exact fun _ => rfl
    · exact fun _ => rfl
  | undefined => exact h
  | null => exact h
  | number x => exact h
  | _ => exact fun _ => rfl

/-- An error whose exit code and status no default replaces. -/
structure Settled (e : LibraryError) : Prop where
  exit : IsPresent e.exit
  status : IsPresent e.status

/-- Every error is settled once it is built. -/
theorem settled_create (kind : Kind) (message : Value) (options : Options) (stack : Text) :
    (create kind message options stack).Settled where
  exit := isPresent_settle options.exit (Double.ofNat_ne_nan 1)
  status := isPresent_settle options.status (Double.ofNat_ne_nan 500)

/-- An exit code that is a number is taken as it is. -/
theorem exit_create {options : Options} {x : Double} (h : options.exit = .number x) (hx : x ≠ .nan)
    (kind : Kind) (message : Value) (stack : Text) :
    (create kind message options stack).exit = .number x := by
  rw [create, h]
  exact settle_number hx _

theorem settled_withCode (base : LibraryError) (code : Value) : (base.withCode code).Settled :=
  settled_create _ _ _ _

theorem Settled.withCode_alike {base : LibraryError} (h : base.Settled) (code : Value) :
    (base.withCode code).Alike base where
  message_eq := held_held base _ base.message
  context_eq := held_held base _ base.context
  exit_eq := by
    have hexit : (base.withCode code).exit = base.held base.exit := h.exit.held base _
    rw [hexit, held_held]
  status_eq := by
    have hstatus : (base.withCode code).status = base.held base.status := h.status.held base _
    rw [hstatus, held_held]

/-! ## Several layers -/

/-- An error with one layer for each code, the last one outermost. -/
def withCodes (base : LibraryError) (codes : List Value) : LibraryError := codes.foldl withCode base

theorem withCodes_concat (base : LibraryError) (codes : List Value) (code : Value) :
    base.withCodes (codes ++ [code]) = (base.withCodes codes).withCode code :=
  List.foldl_append ..

theorem Settled.withCodes_alike {base : LibraryError} (h : base.Settled) (codes : List Value) :
    (base.withCodes codes).Alike base := by
  induction codes generalizing base with
  | nil => exact .refl base
  | cons code codes ih => exact (ih (settled_withCode base code)).trans (h.withCode_alike code)

/-- The error so many layers down, if all of them are errors of the library. -/
def behind : Nat → LibraryError → Option LibraryError
  | 0, e => some e
  | n + 1, e =>
    match e.cause with
    | .fault (.library base) => behind n base
    | _ => none

/-- The layers come off again. -/
theorem behind_withCodes (base : LibraryError) (codes : List Value) :
    behind codes.length (base.withCodes codes) = some base := by
  -- The layer that comes off first is the one of the last code.
  induction codes using List.reverseRecOn with
  | nil => rfl
  | append_singleton codes code ih =>
    rw [withCodes_concat, List.length_append]
    exact ih

end LibraryError

namespace TemplateClient

open LibraryError

/-! ## Reporting an error again -/

/-- The code that the error of a request for an error carries. -/
def codeFor (e : LibraryError) : Value := ErrorCode.reported (heldCode (.library e))

/-- An error of the library as the error of a request. -/
def again (e : LibraryError) : LibraryError := requestError (.library e)

theorem again_eq (e : LibraryError) : again e = e.withCode (codeFor e) := rfl

theorem codeFor_of_alike {e e' : LibraryError} (h : e.Alike e') : codeFor e = codeFor e' := by
  have hcontent : heldContent (.library e) = heldContent (.library e') := by
    rw [heldContent, heldContent, h.response?_eq]
  rw [codeFor, codeFor, heldCode, heldCode, hcontent]

/-- Reporting an error again and again adds layers that all carry the same code. -/
theorem iterate_again {base : LibraryError} (h : base.Settled) (n : Nat) :
    again^[n] base = base.withCodes (List.replicate n (codeFor base)) := by
  induction n with
  | zero => rfl
  | succ n ih =>
    rw [Function.iterate_succ_apply', ih, again_eq, codeFor_of_alike (h.withCodes_alike _),
      List.replicate_succ', withCodes_concat]

/-- An error in any number of layers. The outermost is an error of a request with the last code, it
says and holds what the error says and holds, and so many layers down is the error. This goes for
the errors of requests that the client makes as well: reported again, any number of times, they stay
what they were, with the code that was found first. -/
theorem withCodes_create (kind : Kind) (message : Value) (options : LibraryError.Options)
    (stack : Text) (codes : List Value) (code : Value) :
    let base := LibraryError.create kind message options stack
    let e := base.withCodes (codes ++ [code])
    e.kind = .request code ∧ e.Alike base ∧ e.response? = base.response? ∧
      behind (codes.length + 1) e = some base ∧
      ∀ n, (again^[n] (again base)).code = (again base).code ∧
        (again^[n] (again base)).Alike (again base) := by
  intro base e
  have hbase : base.Settled := settled_create kind message options stack
  have he : e.Alike base := hbase.withCodes_alike (codes ++ [code])
  have hkind : e.kind = .request code :=
    congrArg LibraryError.kind (withCodes_concat base codes code)
  have hbehind : behind (codes ++ [code]).length e = some base := behind_withCodes base _
  rw [List.length_append] at hbehind
  refine ⟨hkind, he, he.response?_eq, hbehind, fun n => ?_⟩
  have hn : again^[n] (again base) =
      base.withCodes (List.replicate n (codeFor base) ++ [codeFor base]) := by
    rw [← Function.iterate_succ_apply, iterate_again hbase, List.replicate_succ']
  rw [hn, again_eq base]
  have hcode := congrArg LibraryError.code
    (withCodes_concat base (List.replicate n (codeFor base)) (codeFor base))
  exact ⟨hcode, (hbase.withCodes_alike _).trans (hbase.withCode_alike _).symm⟩

/-- Options with the exit code 0 and a response. -/
def heldOptions : LibraryError.Options where
  exit := .number (.ofNat 0)
  context := HttpError.context (HttpError.record (.ofNat 404) (some "gone")) []

/-- Two layers around an error with such options. -/
theorem withCodes_create_twice :
    let base := LibraryError.create .general (.string "m") heldOptions []
    let e := base.withCodes [.string "INTERNAL", .undefined]
    e.kind = .request .undefined ∧ (Fault.library e).message = .string "m" ∧
      e.held e.exit = .number (.ofNat 0) ∧
      e.response? = some (HttpError.record (.ofNat 404) (some "gone")) ∧
      behind 2 e = some base := by
  intro base e
  obtain ⟨hkind, halike, hresponse, hbehind, -⟩ :=
    withCodes_create .general (.string "m") heldOptions [] [.string "INTERNAL"] .undefined
  have hexit : base.exit = .number (.ofNat 0) :=
    exit_create rfl (Double.ofNat_ne_nan 0) _ _ _
  have hbase : base.held base.exit = .number (.ofNat 0) := by rw [hexit, held_number]
  have hcontext : base.response? = some (HttpError.record (.ofNat 404) (some "gone")) :=
    @HttpError.response?_of_context base (.ofNat 404) (some "gone") [] rfl
  exact ⟨hkind, halike.message_eq, halike.exit_eq.trans hbase, hresponse.trans hcontext, hbehind⟩

end TemplateClient

end ConfigClient
