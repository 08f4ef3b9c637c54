import ConfigClient.Json
import Mathlib.Tactic.SplitIfs

/-!
# Members of an object

* `get?_insert`: what a member's value is after an insertion.
* `get?_of_perm`: the order of members with distinct keys does not matter for their values.
* `insert_map`: an insertion goes along with a change of all values.
* `Ordered`: members with distinct keys in the order in which an object keeps them.
* `Ordered.insert`: insertion keeps members ordered.
* `insert_of_ordered`: a member that belongs to the end of an ordered list is put there.
* `insert_replace`, `insert_new`: where an inserted member stands.
-/

namespace ConfigClient

namespace Members

variable {α : Type}

/-! ## Look-up -/

@[simp] theorem get?_nil (key : Text) : get? ([] : Members α) key = none := rfl

theorem get?_cons (m : Text × α) (ms : Members α) (key : Text) :
    get? (m :: ms) key = if key = m.1 then some m.2 else get? ms key := by
  obtain ⟨k, v⟩ := m
  unfold get?
  rw [List.lookup_cons]
  by_cases h : key = k
  · subst h
    simp
  · rw [beq_false_of_ne h]
    simp [h]

theorem has_cons (m : Text × α) (ms : Members α) (key : Text) :
    has (m :: ms) key = (m.1 == key || ms.has key) := rfl

theorem mem_of_get? {ms : Members α} {key : Text} {value : α} (h : get? ms key = some value) :
    (key, value) ∈ ms := by
  induction ms with
  | nil => cases h
  | cons m ms ih =>
    rw [get?_cons] at h
    split_ifs at h with hk
    · cases h
      rw [hk]
      exact List.mem_cons_self
    · exact List.mem_cons_of_mem _ (ih h)

/-- A new member is found and the others stay as they are. -/
theorem get?_place {key : Text} {value : α} {ms : Members α} (h : ms.has key = false)
    (k : Text) : get? (place key value ms) k = if k = key then some value else get? ms k := by
  induction ms with
  | nil => rw [place, get?_cons]
  | cons m ms ih =>
    rw [has_cons, Bool.or_eq_false_iff] at h
    have hne : m.1 ≠ key := fun heq => by simp [heq] at h
    rw [place]
    split_ifs with hb hk hk
    · rw [get?_cons, if_pos hk]
    · rw [get?_cons, if_neg hk]
    · rw [get?_cons, if_neg (by rw [hk]; exact hne.symm), ih h.2, if_pos hk]
    · rw [get?_cons, get?_cons, ih h.2, if_neg hk]

/-- A member whose value is replaced where it stands. -/
theorem get?_replace (key : Text) (value : α) (ms : Members α) (k : Text) :
    get? (ms.map fun m => if m.1 == key then (key, value) else m) k =
      if k = key then (get? ms key).map fun _ => value else get? ms k := by
  induction ms with
  | nil => simp
  | cons m ms ih =>
    rw [List.map_cons, get?_cons, get?_cons, get?_cons, ih]
    by_cases hm : m.1 = key
    · simp only [hm, beq_self_eq_true, ite_true, Option.map_some]
      split_ifs <;> rfl
    · simp only [beq_false_of_ne hm, Bool.false_eq_true, ite_false]
      by_cases hk : k = key
      · simp only [hk, if_neg (Ne.symm hm), ite_true]
      · simp only [hk, ite_false]

theorem isSome_get? (ms : Members α) (key : Text) : (get? ms key).isSome = has ms key := by
  induction ms with
  | nil => rfl
  | cons m ms ih =>
    rw [get?_cons, has_cons, ← ih]
    by_cases hm : key = m.1
    · simp [hm]
    · simp [hm, beq_false_of_ne (Ne.symm hm)]

/-- An inserted member is found and the others stay as they are. -/
theorem get?_insert (ms : Members α) (key : Text) (value : α) (k : Text) :
    get? (insert ms key value) k = if k = key then some value else get? ms k := by
  unfold insert
  cases h : has ms key with
  | false => exact get?_place h k
  | true =>
    rw [← isSome_get?, Option.isSome_iff_exists] at h
    obtain ⟨old, hold⟩ := h
    simp only [ite_true, get?_replace, hold, Option.map_some]

/-- With distinct keys a member is found under its key. -/
theorem get?_of_mem {ms : Members α} (hd : (ms.map Prod.fst).Nodup) {m : Text × α}
    (h : m ∈ ms) : get? ms m.1 = some m.2 := by
  induction ms with
  | nil => cases h
  | cons n ms ih =>
    rw [List.map_cons, List.nodup_cons] at hd
    rw [get?_cons]
    cases h with
    | head => rw [if_pos rfl]
    | tail _ hm =>
      have hne : m.1 ≠ n.1 := by
        intro heq
        exact hd.1 (heq ▸ List.mem_map_of_mem hm)
      rw [if_neg hne, ih hd.2 hm]

/-- What is found under a key does not depend on the order of members with distinct keys. -/
theorem get?_of_perm {ms ns : Members α} (hp : ms.Perm ns) (hd : (ns.map Prod.fst).Nodup)
    (key : Text) : get? ms key = get? ns key := by
  have hd' : (ms.map Prod.fst).Nodup := (hp.map Prod.fst).nodup_iff.2 hd
  cases h : get? ns key with
  | some v => exact get?_of_mem hd' (hp.symm.subset (mem_of_get? h))
  | none =>
    cases h' : get? ms key with
    | none => rfl
    | some v =>
      have hmem := get?_of_mem hd (hp.subset (mem_of_get? h'))
      rw [h] at hmem
      cases hmem

/-! ## A change of all values -/

section Map

variable {β : Type} (f : α → β)

theorem get?_map (ms : Members α) (key : Text) :
    get? (ms.map fun m => (m.1, f m.2)) key = (get? ms key).map f := by
  induction ms with
  | nil => rfl
  | cons m ms ih =>
    rw [List.map_cons, get?_cons, get?_cons, ih]
    split_ifs <;> rfl

theorem has_map (ms : Members α) (key : Text) :
    has (ms.map fun m => (m.1, f m.2)) key = has ms key := List.any_map

theorem place_map (key : Text) (value : α) (ms : Members α) :
    place key (f value) (ms.map fun m => (m.1, f m.2)) =
      (place key value ms).map fun m => (m.1, f m.2) := by
  induction ms with
  | nil => rfl
  | cons m ms ih =>
    rw [List.map_cons, place, place]
    split_ifs with hb
    · rfl
    · rw [ih, List.map_cons]

/-- A member may be inserted before or after all values are changed. -/
theorem insert_map (ms : Members α) (key : Text) (value : α) :
    insert (ms.map fun m => (m.1, f m.2)) key (f value) =
      (insert ms key value).map fun m => (m.1, f m.2) := by
  unfold insert
  rw [has_map]
  split_ifs with hhas
  · rw [List.map_map, List.map_map]
    refine List.map_congr_left fun m _ => ?_
    simp only [Function.comp_apply]
    split_ifs <;> rfl
  · exact place_map f key value ms

end Map

/-! ## Order -/

/-- Whether members have distinct keys and stand in the order in which an object keeps them. -/
def Ordered (ms : Members α) : Prop :=
  ms.Pairwise fun m n => m.1 ≠ n.1 ∧ standsBefore n.1 m.1 = false

instance (ms : Members α) : Decidable (Ordered ms) :=
  inferInstanceAs (Decidable (ms.Pairwise fun m n => m.1 ≠ n.1 ∧ standsBefore n.1 m.1 = false))

/-- Members whose names are no array indices may stand in any order. -/
theorem ordered_of_names {ms : Members α} (hd : (ms.map Prod.fst).Nodup)
    (hn : ∀ m ∈ ms, arrayIndex? m.1 = none) : Ordered ms := by
  have hne : ms.Pairwise fun m n => m.1 ≠ n.1 := List.pairwise_map.1 hd
  refine hne.imp_of_mem fun {m n} _ hmem hmn => ⟨hmn, ?_⟩
  rw [standsBefore, hn n hmem]

theorem standsBefore_trans {a b c : Text} (hab : standsBefore a b = true)
    (hbc : standsBefore b c = true) : standsBefore a c = true := by
  unfold standsBefore at *
  cases ha : arrayIndex? a with
  | none => simp [ha] at hab
  | some i =>
    cases hb : arrayIndex? b with
    | none => simp [hb] at hbc
    | some j =>
      cases hc : arrayIndex? c with
      | none => rfl
      | some k =>
        simp only [ha, hb, hc, decide_eq_true_eq] at hab hbc ⊢
        omega

theorem standsBefore_asymm {a b : Text} (h : standsBefore a b = true) :
    standsBefore b a = false := by
  unfold standsBefore at *
  cases ha : arrayIndex? a with
  | none => simp [ha] at h
  | some i =>
    cases hb : arrayIndex? b with
    | none => rfl
    | some j =>
      simp only [ha, hb, decide_eq_true_eq, decide_eq_false_iff_not] at h ⊢
      omega

/-- Members whose keys are the same in the same places are ordered together. -/
theorem Ordered.of_keys {β : Type} {ms : Members α} {ns : Members β} (h : Ordered ms)
    (hkeys : ns.map Prod.fst = ms.map Prod.fst) : Ordered ns := by
  have lift {γ : Type} {l : Members γ} : Ordered l ↔
      (l.map Prod.fst).Pairwise fun k j => k ≠ j ∧ standsBefore j k = false := by
    rw [List.pairwise_map]
    rfl
  rw [lift] at h ⊢
  rwa [hkeys]

theorem Ordered.nodup {ms : Members α} (h : Ordered ms) : (ms.map Prod.fst).Nodup :=
  List.pairwise_map.2 (h.imp fun hmn => hmn.1)

theorem mem_place {key : Text} {value : α} {ms : Members α} {m : Text × α}
    (h : m ∈ place key value ms) : m = (key, value) ∨ m ∈ ms := by
  induction ms with
  | nil => exact .inl (List.mem_singleton.1 h)
  | cons n ms ih =>
    rw [place] at h
    split_ifs at h with hb
    · exact List.mem_cons.1 h
    · rcases List.mem_cons.1 h with rfl | h
      · exact .inr List.mem_cons_self
      · exact (ih h).imp_right (List.mem_cons_of_mem _)

/-- What is there after an insertion was inserted or was there before. -/
theorem mem_insert {key : Text} {value : α} {ms : Members α} {m : Text × α}
    (h : m ∈ insert ms key value) : m = (key, value) ∨ m ∈ ms := by
  unfold insert at h
  split_ifs at h with hhas
  · obtain ⟨n, hn, rfl⟩ := List.mem_map.1 h
    split_ifs with hkey
    · exact .inl rfl
    · exact .inr hn
  · exact mem_place h

theorem Ordered.place {key : Text} {value : α} {ms : Members α} (h : Ordered ms)
    (hnew : ∀ m ∈ ms, m.1 ≠ key) : Ordered (place key value ms) := by
  induction ms with
  | nil => exact List.pairwise_singleton _ _
  | cons m ms ih =>
    obtain ⟨hm, hms⟩ := List.pairwise_cons.1 h
    rw [Members.place]
    split_ifs with hb
    · -- What follows `m` does not stand before it, so it does not stand before the new key either.
      refine List.pairwise_cons.2 ⟨fun n hn => ⟨(hnew n hn).symm, ?_⟩, h⟩
      rcases List.mem_cons.1 hn with rfl | hn
      · exact standsBefore_asymm hb
      · rw [Bool.eq_false_iff]
        intro hbefore
        have hnm := standsBefore_trans hbefore hb
        rw [(hm n hn).2] at hnm
        cases hnm
    · refine List.pairwise_cons.2 ⟨fun n hn => ?_, ih hms fun n hn => hnew n (.tail _ hn)⟩
      rcases mem_place hn with rfl | hn
      · exact ⟨hnew m List.mem_cons_self, Bool.eq_false_iff.2 hb⟩
      · exact hm n hn

/-- Insertion keeps members ordered. -/
theorem Ordered.insert {ms : Members α} (h : Ordered ms) (key : Text) (value : α) :
    Ordered (insert ms key value) := by
  unfold Members.insert
  split_ifs with hhas
  · refine h.of_keys ?_
    rw [List.map_map]
    refine List.map_congr_left fun m _ => ?_
    simp only [Function.comp_apply]
    split_ifs with hkey
    · exact (beq_iff_eq.1 hkey).symm
    · rfl
  · refine h.place fun m hm hkey => hhas ?_
    exact List.any_eq_true.2 ⟨m, hm, beq_iff_eq.2 hkey⟩

theorem place_at_end {key : Text} {value : α} {ms : Members α}
    (h : ∀ m ∈ ms, standsBefore key m.1 = false) : place key value ms = ms ++ [(key, value)] := by
  induction ms with
  | nil => rfl
  | cons m ms ih =>
    rw [place, h m List.mem_cons_self, ih fun n hn => h n (List.mem_cons_of_mem _ hn)]
    rfl

/-- A member that comes last in the order is inserted at the end. -/
theorem insert_of_ordered {ms : Members α} {key : Text} {value : α}
    (h : Ordered (ms ++ [(key, value)])) : insert ms key value = ms ++ [(key, value)] := by
  have last : ∀ m ∈ ms, m.1 ≠ key ∧ standsBefore key m.1 = false := fun m hm =>
    (List.pairwise_append.mp h).2.2 m hm (key, value) (List.mem_singleton_self _)
  have hnew : has ms key = false := by
    rw [has, List.any_eq_false]
    intro m hm
    simpa using (last m hm).1
  unfold insert
  rw [hnew]
  exact place_at_end fun m hm => (last m hm).2

/-- With distinct keys a member whose key is there replaces the old one in its place. -/
theorem insert_replace {before after : Members α} {key : Text} {old : α}
    (hd : ((before ++ (key, old) :: after).map Prod.fst).Nodup) (value : α) :
    insert (before ++ (key, old) :: after) key value = before ++ (key, value) :: after := by
  have hhas : has (before ++ (key, old) :: after) key = true :=
    List.any_eq_true.2 ⟨(key, old), by simp, beq_self_eq_true key⟩
  rw [List.map_append, List.map_cons, List.perm_middle.nodup_iff, List.nodup_cons,
    List.mem_append] at hd
  have other {ms : Members α} (h : key ∉ ms.map Prod.fst) :
      (ms.map fun m => if m.1 == key then (key, value) else m) = ms := by
    refine (List.map_congr_left fun m hm => if_neg ?_).trans (List.map_id' ms)
    rw [beq_iff_eq]
    rintro rfl
    exact h (List.mem_map_of_mem hm)
  rw [insert, if_pos hhas, List.map_append, List.map_cons, other fun h => hd.1 (.inl h),
    other fun h => hd.1 (.inr h)]
  simp only [beq_self_eq_true, if_true]

/-- A member whose key is new and no array index is inserted at the end. -/
theorem insert_new {ms : Members α} {key : Text} (hnew : get? ms key = none)
    (hkey : arrayIndex? key = none) (value : α) : insert ms key value = ms ++ [(key, value)] := by
  have hhas : has ms key = false := by rw [← isSome_get?, hnew, Option.isSome_none]
  unfold insert
  rw [hhas]
  exact place_at_end fun m _ => by rw [standsBefore, hkey]

end Members

end ConfigClient
