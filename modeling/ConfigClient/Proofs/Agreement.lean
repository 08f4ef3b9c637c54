import ConfigClient.Proofs.Token

/-!
# What a run depends on

Of what has happened before, the answers of the surroundings depend only on the number of requests,
on the timers and on the body that is still to be read. A run looks the same whatever else has
happened.

* `Progress.Agrees`: what two progresses have in common for such runs.
* `Surroundings.answer_agrees`: one answer.
* `Interaction.history_agrees`, `Interaction.run_agrees`: a whole run.
* `Interaction.LooksSame`: all that can be seen of a run.
-/

namespace ConfigClient

/-! ## One answer -/

/-- Whether as much has happened as far as an answer can depend on it. -/
structure Progress.Agrees (p q : Progress) : Prop where
  length_eq : p.requests.length = q.requests.length
  started_eq : p.started = q.started
  running_eq : p.running = q.running
  body_eq : p.body = q.body

theorem Progress.Agrees.refl (p : Progress) : p.Agrees p := ⟨rfl, rfl, rfl, rfl⟩

theorem Progress.Agrees.trans {p q r : Progress} (hpq : p.Agrees q) (hqr : q.Agrees r) :
    p.Agrees r :=
  ⟨hpq.length_eq.trans hqr.length_eq, hpq.started_eq.trans hqr.started_eq,
    hpq.running_eq.trans hqr.running_eq, hpq.body_eq.trans hqr.body_eq⟩

/-- Whether two steps end alike: neither does, or both do with the same result and in agreement. -/
def EndsAlike {α : Type} : Option (α × Progress) → Option (α × Progress) → Prop :=
  Option.Rel fun x y => x.1 = y.1 ∧ x.2.Agrees y.2

namespace Surroundings

variable {p q : Progress}

theorem wait_agrees {α : Type} (h : p.Agrees q) (timer : Option Nat) :
    EndsAlike (wait p timer : Option (Except Value α × Progress)) (wait q timer) := by
  unfold wait
  rw [h.running_eq]
  split_ifs
  · exact .some ⟨rfl, h⟩
  · exact .none

theorem send_agrees (h : p.Agrees q) (s : Surroundings) (r : Request) :
    EndsAlike (s.send p r) (s.send q r) := by
  have sent (body : Option (BodyOutcome × Option Nat)) :
      Progress.Agrees { p with requests := p.requests ++ [r], body }
        { q with requests := q.requests ++ [r], body } := by
    refine ⟨?_, h.started_eq, h.running_eq, rfl⟩
    rw [List.length_append, List.length_append, h.length_eq]
  unfold send
  rw [h.length_eq]
  cases s.outcome q.requests.length with
  | responds response body => exact .some ⟨rfl, sent (some (body, r.timer))⟩
  | rejects v => exact .some ⟨rfl, sent none⟩
  | hangs => exact wait_agrees (sent none) r.timer

theorem readBody_agrees (h : p.Agrees q) : EndsAlike (readBody p) (readBody q) := by
  unfold readBody
  rw [h.body_eq]
  cases q.body with
  | none => exact .none
  | some body =>
    obtain ⟨body, timer⟩ := body
    cases body with
    | text t => exact .some ⟨rfl, h⟩
    | rejects v => exact .some ⟨rfl, h⟩
    | hangs => exact wait_agrees h timer

/-- One answer is the same, and the agreement lasts. -/
theorem answer_agrees (h : p.Agrees q) (s : Surroundings) (e : Effect) :
    EndsAlike (s.answer p e) (s.answer q e) := by
  cases e with
  | send r => exact send_agrees h s r
  | readBody => exact readBody_agrees h
  | startTimer =>
    refine .some ⟨congrArg s.timer h.started_eq, h.length_eq, congrArg (· + 1) h.started_eq, ?_,
      h.body_eq⟩
    simp only [startTimer, h.started_eq, h.running_eq]
  | stopTimer timer =>
    refine .some ⟨rfl, h.length_eq, h.started_eq, ?_, h.body_eq⟩
    simp only [stopTimer, h.running_eq]
  | _ => exact .some ⟨rfl, h.length_eq, h.started_eq, h.running_eq, h.body_eq⟩

end Surroundings

/-! ## A whole run -/

namespace Interaction

variable {α : Type} {p q : Progress}

theorem history_agrees (h : p.Agrees q) (s : Surroundings) (i : Interaction α) :
    i.history s p = i.history s q := by
  induction i generalizing p q with
  | done a => rfl
  | ask e next ih =>
    have step := Surroundings.answer_agrees h s e
    unfold history
    generalize s.answer p e = x at step ⊢
    generalize s.answer q e = y at step ⊢
    cases step with
    | none => rfl
    | some hxy =>
      obtain ⟨hanswer, hagrees⟩ := hxy
      simp only [hanswer]
      rw [ih _ hagrees]

theorem run_agrees (h : p.Agrees q) (s : Surroundings) (i : Interaction α) :
    EndsAlike (i.run s p) (i.run s q) := by
  induction i generalizing p q with
  | done a => exact .some ⟨rfl, h⟩
  | ask e next ih =>
    have step := Surroundings.answer_agrees h s e
    unfold run
    generalize s.answer p e = x at step ⊢
    generalize s.answer q e = y at step ⊢
    cases step with
    | none => exact .none
    | some hxy =>
      obtain ⟨hanswer, hagrees⟩ := hxy
      simp only [hanswer]
      exact ih _ hagrees

theorem result_agrees (h : p.Agrees q) (s : Surroundings) (i : Interaction α) :
    i.result s p = i.result s q := by
  have ends := run_agrees h s i
  unfold result
  generalize i.run s p = x at ends ⊢
  generalize i.run s q = y at ends ⊢
  cases ends with
  | none => rfl
  | some hxy => exact congrArg some hxy.1

/-- Whether a run looks the same after one progress and after another: it sends and reads the same,
logs the same, asks for as many tokens and ends in the same way. -/
structure LooksSame (s : Surroundings) (i : Interaction α) (p q : Progress) : Prop where
  requests_eq : i.requests s p = i.requests s q
  replies_eq : i.replies s p = i.replies s q
  messages_eq : i.messages s p = i.messages s q
  tokenCalls_eq : i.tokenCalls s p = i.tokenCalls s q
  result_eq : i.result s p = i.result s q

theorem looksSame_of_agrees (h : p.Agrees q) (s : Surroundings) (i : Interaction α) :
    LooksSame s i p q where
  requests_eq := congrArg (List.filterMap Event.request?) (history_agrees h s i)
  replies_eq := congrArg (Event.repliesAfter none) (history_agrees h s i)
  messages_eq := congrArg (List.filterMap Event.message?) (history_agrees h s i)
  tokenCalls_eq := congrArg (List.countP Event.isTokenCall) (history_agrees h s i)
  result_eq := result_agrees h s i

end Interaction

end ConfigClient
