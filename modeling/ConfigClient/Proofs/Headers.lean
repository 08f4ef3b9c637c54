import ConfigClient.Headers
import ConfigClient.Proofs.Members
import Mathlib.Data.List.Nodup

/-!
# Headers

Headers built from pairs of a name and a value answer, for a name in any case, with the values of
all pairs of that name in their order.

* `values?_append`, `values?_set`: the values of each name after an operation.
* `Distinct`: each name has one entry, which every operation keeps.
* `Headers.valuesFor`, `get?_of_appendAll?`: what is found in headers built from pairs.
* `filter_of_get?`: the only entry of a name.
-/

namespace ConfigClient

namespace Headers

/-! ## Look-up -/

theorem get?_update (key : Text) (f : List Text → List Text) (h : Headers) (k : Text) :
    Members.get? (h.update key f) k =
      if k = key then some (f ((Members.get? h key).getD [])) else Members.get? h k := by
  induction h with
  | nil => rw [update, Members.get?_cons]; rfl
  | cons entry h ih =>
    rw [update]
    by_cases hkey : entry.1 = key
    · rw [if_pos hkey, Members.get?_cons, Members.get?_cons, Members.get?_cons,
        if_pos hkey.symm, hkey]
      split_ifs <;> rfl
    · rw [if_neg hkey, Members.get?_cons, Members.get?_cons, Members.get?_cons, ih,
        if_neg (Ne.symm hkey)]
      by_cases hk : k = key
      · rw [if_pos hk, if_pos hk, if_neg (by rw [hk]; exact Ne.symm hkey)]
      · rw [if_neg hk, if_neg hk]

theorem values?_append (h : Headers) (name value key : Text) :
    (h.append name value).values? key =
      if key.lower = name.lower then some ((h.values? name).getD [] ++ [value])
      else h.values? key :=
  get?_update _ _ _ _

theorem values?_set (h : Headers) (name value key : Text) :
    (h.set name value).values? key =
      if key.lower = name.lower then some [value] else h.values? key :=
  get?_update _ _ _ _

/-! ## One entry for each name -/

/-- Whether each name has one entry. -/
def Distinct (h : Headers) : Prop := (h.map Prod.fst).Nodup

theorem distinct_nil : Distinct [] := List.nodup_nil

/-- An update adds no name but the one it is about. -/
theorem mem_names_update {key k : Text} {f : List Text → List Text} {h : Headers}
    (hk : k ∈ (h.update key f).map Prod.fst) : k = key ∨ k ∈ h.map Prod.fst := by
  induction h with
  | nil => exact .inl (List.mem_singleton.1 hk)
  | cons entry h ih =>
    rw [update] at hk
    split_ifs at hk with hkey
    · rw [List.map_cons, List.mem_cons] at hk
      exact hk.imp_right (List.mem_cons_of_mem _)
    · rw [List.map_cons, List.mem_cons] at hk
      rcases hk with hk | hk
      · exact .inr (by rw [hk]; exact List.mem_cons_self)
      · exact (ih hk).imp_right (List.mem_cons_of_mem _)

theorem Distinct.update {h : Headers} (hd : h.Distinct) (key : Text)
    (f : List Text → List Text) : (h.update key f).Distinct := by
  induction h with
  | nil => exact List.nodup_singleton _
  | cons entry h ih =>
    obtain ⟨hnot, hrest⟩ := List.nodup_cons.1 hd
    rw [Headers.update]
    split_ifs with hkey
    · exact List.nodup_cons.2 ⟨hkey ▸ hnot, hrest⟩
    · refine List.nodup_cons.2 ⟨fun hmem => ?_, ih hrest⟩
      rcases mem_names_update hmem with h | h
      · exact hkey h
      · exact hnot h

theorem Distinct.append {h : Headers} (hd : h.Distinct) (name value : Text) :
    (h.append name value).Distinct := hd.update _ _

theorem Distinct.set {h : Headers} (hd : h.Distinct) (name value : Text) :
    (h.set name value).Distinct := hd.update _ _

/-- The only entry of a name that has values. -/
theorem filter_of_get? {h : Headers} (hd : h.Distinct) {key : Text} {values : List Text}
    (hv : Members.get? h key = some values) :
    h.filter (fun entry => entry.1 = key) = [(key, values)] := by
  induction h with
  | nil => cases hv
  | cons entry h ih =>
    obtain ⟨hnot, hrest⟩ := List.nodup_cons.1 hd
    rw [Members.get?_cons] at hv
    split_ifs at hv with hkey
    · subst hkey
      cases hv
      have hnone : h.filter (fun other => other.1 = entry.1) = [] := by
        rw [List.filter_eq_nil_iff]
        intro other hmem heq
        rw [decide_eq_true_eq] at heq
        exact hnot (heq ▸ List.mem_map_of_mem hmem)
      rw [List.filter_cons_of_pos (by simp), hnone]
    · rw [List.filter_cons_of_neg (by simpa using Ne.symm hkey), ih hrest hv]

/-! ## Operations with a check -/

/-- Steps that succeed in a row succeed one by one. -/
theorem of_bind_eq_ok {α β : Type} {x : Except PlatformError α} {f : α → Except PlatformError β}
    {b : β} (h : (x >>= f) = .ok b) : ∃ a, x = .ok a ∧ f a = .ok b := by
  cases x with
  | error e => cases h
  | ok a => exact ⟨a, rfl, h⟩

theorem append?_eq_ok {h h' : Headers} {name value : Text} (hh : h.append? name value = .ok h') :
    h' = h.append name value := by
  obtain ⟨_, -, hh⟩ := of_bind_eq_ok hh
  cases hh
  rfl

theorem set?_eq_ok {h h' : Headers} {name value : Text} (hh : h.set? name value = .ok h') :
    h' = h.set name value := by
  obtain ⟨_, -, hh⟩ := of_bind_eq_ok hh
  cases hh
  rfl

/-! ## Headers from values -/

/-- Adding values one after another keeps each name at one entry. -/
theorem distinct_of_foldlM {α : Type} {f : Headers → α → Except PlatformError Headers}
    (hf : ∀ h a h', f h a = .ok h' → h.Distinct → h'.Distinct) {as : List α} {h h' : Headers}
    (hh : as.foldlM f h = .ok h') (hd : h.Distinct) : h'.Distinct := by
  induction as generalizing h with
  | nil =>
    cases hh
    exact hd
  | cons a as ih =>
    rw [List.foldlM_cons] at hh
    obtain ⟨next, ha, hh⟩ := of_bind_eq_ok hh
    exact ih hh (hf h a next ha hd)

theorem distinct_of_appendValue? {h h' : Headers} {name value : Value}
    (hh : h.appendValue? name value = .ok h') (hd : h.Distinct) : h'.Distinct := by
  obtain ⟨n, -, hh⟩ := of_bind_eq_ok hh
  obtain ⟨v, -, hh⟩ := of_bind_eq_ok hh
  rw [append?_eq_ok hh]
  exact hd.append n v

theorem distinct_of_appendPair? {h h' : Headers} {pair : List Value}
    (hh : h.appendPair? pair = .ok h') (hd : h.Distinct) : h'.Distinct := by
  unfold appendPair? at hh
  split at hh
  · exact distinct_of_appendValue? hh hd
  · cases hh

theorem distinct_of_ofValue {given : Value} {h : Headers} (hh : ofValue given = .ok h) :
    h.Distinct := by
  unfold ofValue at hh
  split at hh
  · cases hh
    exact distinct_nil
  · cases hh
    exact distinct_nil
  · obtain ⟨pairs, -, hh⟩ := of_bind_eq_ok hh
    exact distinct_of_foldlM (fun _ _ _ => distinct_of_appendPair?) hh distinct_nil
  · exact distinct_of_foldlM (fun _ _ _ => distinct_of_appendValue?) hh distinct_nil
  · exact distinct_of_foldlM (fun _ _ _ => distinct_of_appendValue?) hh distinct_nil
  · cases hh

/-! ## Headers from pairs -/

/-- The values that pairs give to a name, in any case. -/
def valuesFor (pairs : List (Text × Text)) (name : Text) : List Text :=
  (pairs.filter fun m => m.1.lower = name.lower).map Prod.snd

/-- The text for some values: none without a value, and not the empty text. -/
def joined? (values : List Text) : Option Text :=
  if values = [] then none else some (Text.join ", " values)

/-- Pairs add their values to those that are there, and no name is left without a value. -/
theorem values?_of_appendAll? {h h' : Headers} {pairs : List (Text × Text)}
    (hh : h.appendAll? pairs = .ok h') (name : Text) (hname : h.values? name ≠ some []) :
    (h'.values? name).getD [] = (h.values? name).getD [] ++ valuesFor pairs name ∧
      h'.values? name ≠ some [] := by
  -- A name with an empty list of values would be found, so the induction also rules that out.
  induction pairs generalizing h with
  | nil =>
    cases hh
    exact ⟨(List.append_nil _).symm, hname⟩
  | cons m pairs ih =>
    unfold appendAll? at hh ih
    rw [List.foldlM_cons] at hh
    obtain ⟨next, hm, hh⟩ := of_bind_eq_ok hh
    obtain rfl := append?_eq_ok hm
    have hnext := values?_append h m.1 m.2 name
    have hsome : (h.append m.1 m.2).values? name ≠ some [] := by
      rw [hnext]
      split_ifs <;> simp [hname]
    obtain ⟨hvalues, hne⟩ := ih hh hsome
    refine ⟨?_, hne⟩
    rw [hvalues, hnext, valuesFor, valuesFor]
    by_cases hk : m.1.lower = name.lower
    · have hsame : h.values? m.1 = h.values? name := by rw [values?, values?, hk]
      rw [if_pos hk.symm, List.filter_cons_of_pos (by simp [hk]), hsame]
      simp
    · rw [if_neg (Ne.symm hk), List.filter_cons_of_neg (by simp [hk])]

theorem get?_of_appendAll? {h : Headers} {pairs : List (Text × Text)}
    (hh : appendAll? [] pairs = .ok h) (name : Text) :
    h.get? name = joined? (valuesFor pairs name) := by
  obtain ⟨hvalues, hne⟩ := values?_of_appendAll? hh name nofun
  rw [show (values? [] name).getD [] = [] from rfl, List.nil_append] at hvalues
  rw [get?, ← hvalues, joined?]
  cases hv : h.values? name with
  | none => rfl
  | some values =>
    have hnil : values ≠ [] := fun h => hne (by rw [hv, h])
    rw [Option.getD_some, if_neg hnil, Option.map_some]

end Headers

end ConfigClient
