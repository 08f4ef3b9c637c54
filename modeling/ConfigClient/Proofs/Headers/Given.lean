import ConfigClient.Proofs.Headers
import Mathlib.Data.List.Forall2

/-!
# Headers given by a caller

A caller gives headers as an object or as a list of pairs. Either way they stand for some pairs of
texts, and these pairs decide on everything else: the first one that is not legal is reported, and
where all are legal each name has the values of its pairs.

* `Headers.Gives`: the pairs of texts that a value stands for.
* `Headers.ofValue_of_gives`, `Headers.gives_of_ofValue`: headers come from the pairs alone.
* `Headers.appendAll?_of_isLegal`, `Headers.appendAll?_of_not_isLegal`: legal pairs are taken, and
  the first other one is reported.
* `Headers.Proper`: headers in small letters that are all legal, which every operation keeps.
* `Headers.mem_toList_iff`: the names of headers with their joined values.
-/

namespace ConfigClient

/-! ## Small letters -/

namespace Text

theorem lower_lower (t : Text) : t.lower.lower = t.lower := by
  have small (u : UInt16) (h : 65 ≤ u ∧ u ≤ 90) : ¬u + 32 ≤ 90 := by
    simp only [UInt16.le_iff_toNat_le, UInt16.toNat_add, UInt16.reduceToNat] at *
    omega
  unfold lower
  rw [List.map_map]
  apply List.map_congr_left
  intro u _
  by_cases h : 65 ≤ u ∧ u ≤ 90
  · simp [h, small u h]
  · simp [h]

theorem mem_join {separator : Text} {parts : List Text} {u : UInt16}
    (h : u ∈ join separator parts) : u ∈ separator ∨ ∃ part ∈ parts, u ∈ part := by
  induction parts with
  | nil => simp [join] at h
  | cons part parts ih =>
    cases parts with
    | nil => exact .inr ⟨part, by simp, by simpa [join] using h⟩
    | cons next parts =>
      rw [join, List.intercalate_cons_cons, List.append_assoc, List.mem_append,
        List.mem_append] at h
      rcases h with h | h | h
      · exact .inr ⟨part, by simp, h⟩
      · exact .inl h
      · obtain h | ⟨other, hother, h⟩ := ih h
        · exact .inl h
        · exact .inr ⟨other, List.mem_cons_of_mem _ hother, h⟩

end Text

namespace Headers

theorem isNameUnit_lower {u : UInt16} (h : isNameUnit u = true) :
    isNameUnit (if 65 ≤ u && u ≤ 90 then u + 32 else u) = true := by
  split_ifs with hu
  · have hsmall : 97 ≤ u + 32 ∧ u + 32 ≤ 122 := by
      simp only [Bool.and_eq_true, decide_eq_true_eq, UInt16.le_iff_toNat_le, UInt16.toNat_add,
        UInt16.reduceToNat] at *
      omega
    simp [isNameUnit, hsmall]
  · exact h

theorem isLegalName_lower {name : Text} (h : isLegalName name = true) :
    isLegalName name.lower = true := by
  simp only [isLegalName, Bool.and_eq_true, bne_iff_ne, ne_eq, List.all_eq_true] at *
  refine ⟨fun hnil => h.1 (List.map_eq_nil_iff.1 hnil), fun u hu => ?_⟩
  obtain ⟨v, hv, rfl⟩ := List.mem_map.1 hu
  exact isNameUnit_lower (h.2 v hv)

/-! ## Legal pairs -/

/-- Whether the name and the value of a pair are both legal. -/
def IsLegal (m : Text × Text) : Prop := isLegalName m.1 = true ∧ isLegalValue m.2 = true

instance (m : Text × Text) : Decidable (IsLegal m) :=
  inferInstanceAs (Decidable (isLegalName m.1 = true ∧ isLegalValue m.2 = true))

/-- What is reported about a pair that is not legal: its name first. -/
def complaint (m : Text × Text) : PlatformError :=
  if isLegalName m.1 then .illegalHeaderValue m.2 else .illegalHeaderName m.1

theorem check_of_isLegal {m : Text × Text} (h : IsLegal m) : check m.1 m.2 = .ok () := by
  simp [check, h.1, h.2]

theorem check_of_not_isLegal {m : Text × Text} (h : ¬IsLegal m) :
    check m.1 m.2 = .error (complaint m) := by
  unfold IsLegal at h
  unfold check complaint
  cases hname : isLegalName m.1 with
  | false => simp
  | true =>
    have hvalue : isLegalValue m.2 = false := by simpa [hname] using h
    simp [hvalue]

theorem append?_of_isLegal {m : Text × Text} (hm : IsLegal m) (h : Headers) :
    h.append? m.1 m.2 = .ok (h.append m.1 m.2) := by
  rw [append?, check_of_isLegal hm]
  rfl

theorem append?_of_not_isLegal {m : Text × Text} (hm : ¬IsLegal m) (h : Headers) :
    h.append? m.1 m.2 = .error (complaint m) := by
  rw [append?, check_of_not_isLegal hm]
  rfl

theorem set?_of_isLegal {m : Text × Text} (hm : IsLegal m) (h : Headers) :
    h.set? m.1 m.2 = .ok (h.set m.1 m.2) := by
  rw [set?, check_of_isLegal hm]
  rfl

theorem set?_of_not_isLegal {m : Text × Text} (hm : ¬IsLegal m) (h : Headers) :
    h.set? m.1 m.2 = .error (complaint m) := by
  rw [set?, check_of_not_isLegal hm]
  rfl

theorem appendAll?_cons (h : Headers) (m : Text × Text) (pairs : List (Text × Text)) :
    h.appendAll? (m :: pairs) = h.append? m.1 m.2 >>= fun next => next.appendAll? pairs := by
  rw [appendAll?, List.foldlM_cons]
  rfl

/-- Legal pairs are taken. -/
theorem appendAll?_of_isLegal {pairs : List (Text × Text)} (hp : ∀ m ∈ pairs, IsLegal m)
    (h : Headers) : ∃ h', h.appendAll? pairs = .ok h' := by
  induction pairs generalizing h with
  | nil => exact ⟨h, rfl⟩
  | cons m pairs ih =>
    rw [List.forall_mem_cons] at hp
    obtain ⟨h', hh'⟩ := ih hp.2 (h.append m.1 m.2)
    refine ⟨h', ?_⟩
    rw [appendAll?_cons, append?_of_isLegal hp.1]
    exact hh'

/-- The first pair that is not legal is reported. -/
theorem appendAll?_of_not_isLegal {before : List (Text × Text)} {m : Text × Text}
    (hbefore : ∀ n ∈ before, IsLegal n) (hm : ¬IsLegal m) (after : List (Text × Text))
    (h : Headers) : h.appendAll? (before ++ m :: after) = .error (complaint m) := by
  induction before generalizing h with
  | nil =>
    rw [List.nil_append, appendAll?_cons, append?_of_not_isLegal hm]
    rfl
  | cons n before ih =>
    rw [List.forall_mem_cons] at hbefore
    rw [List.cons_append, appendAll?_cons, append?_of_isLegal hbefore.1]
    exact ih hbefore.2 (h.append n.1 n.2)

theorem isLegal_of_appendAll? {pairs : List (Text × Text)} {h h' : Headers}
    (hh : h.appendAll? pairs = .ok h') : ∀ m ∈ pairs, IsLegal m := by
  induction pairs generalizing h with
  | nil => simp
  | cons m pairs ih =>
    rw [appendAll?_cons] at hh
    obtain ⟨next, hnext, hh⟩ := of_bind_eq_ok hh
    have hm : IsLegal m := by
      by_contra hm
      rw [append?_of_not_isLegal hm] at hnext
      cases hnext
    exact List.forall_mem_cons.2 ⟨hm, ih hh⟩

/-! ## Values that stand for pairs -/

/-- Whether the items of a list are a name and a value with these texts. -/
def ArePair (items : List Value) (m : Text × Text) : Prop :=
  ∃ name value, items = [name, value] ∧ name.text = .ok m.1 ∧ value.text = .ok m.2

/-- Whether a value is a list of a name and a value with these texts. -/
def IsPair (v : Value) (m : Text × Text) : Prop := (∃ items, v = .array items) ∧ ArePair v.items m

/-- Whether a member has this name, and a value with this text. -/
def IsMember (n : Text × Value) (m : Text × Text) : Prop := n.1 = m.1 ∧ n.2.text = .ok m.2

/-- The pairs of texts that headers given as a value stand for. -/
inductive Gives : Value → List (Text × Text) → Prop
  | undefined : Gives .undefined []
  | null : Gives .null []
  | list {items : List Value} {pairs : List (Text × Text)}
    (h : List.Forall₂ IsPair (Value.array items).items pairs) : Gives (.array items) pairs
  | record {members : List (Text × Value)} {pairs : List (Text × Text)}
    (h : List.Forall₂ IsMember (Value.object members).members pairs) : Gives (.object members) pairs
  | error {f : Fault} {pairs : List (Text × Text)}
    (h : List.Forall₂ IsMember (Value.fault f).members pairs) : Gives (.fault f) pairs

/-- A value stands for no other pairs. -/
theorem Gives.unique {given given' : Value} {pairs pairs' : List (Text × Text)}
    (h : Gives given pairs) (h' : Gives given' pairs') (hgiven : given = given') :
    pairs = pairs' := by
  have hpair : Relator.RightUnique IsPair := by
    rintro v m m' ⟨-, name, value, hitems, hname, hvalue⟩
      ⟨-, name', value', hitems', hname', hvalue'⟩
    cases hitems.symm.trans hitems'
    rw [hname, Except.ok.injEq] at hname'
    rw [hvalue, Except.ok.injEq] at hvalue'
    exact Prod.ext hname' hvalue'
  have hmember : Relator.RightUnique IsMember := by
    rintro n m m' ⟨hname, hvalue⟩ ⟨hname', hvalue'⟩
    rw [hvalue, Except.ok.injEq] at hvalue'
    exact Prod.ext (hname.symm.trans hname') hvalue'
  cases h with
  | undefined =>
    cases h' <;> cases hgiven
    rfl
  | null =>
    cases h' <;> cases hgiven
    rfl
  | list h =>
    cases h' with
    | list h' =>
      cases hgiven
      exact hpair.forall₂ h h'
    | _ => cases hgiven
  | record h =>
    cases h' with
    | record h' =>
      cases hgiven
      exact hmember.forall₂ h h'
    | _ => cases hgiven
  | error h =>
    cases h' with
    | error h' =>
      cases hgiven
      exact hmember.forall₂ h h'
    | _ => cases hgiven

theorem appendPair?_of_arePair {items : List Value} {m : Text × Text} (hm : ArePair items m)
    (h : Headers) : h.appendPair? items = h.append? m.1 m.2 := by
  obtain ⟨name, value, rfl, hname, hvalue⟩ := hm
  rw [appendPair?, appendValue?, hname, hvalue]
  rfl

theorem arePair_of_appendPair? {items : List Value} {h h' : Headers}
    (hh : h.appendPair? items = .ok h') : ∃ m, ArePair items m := by
  unfold appendPair? at hh
  split at hh
  · rename_i name value
    obtain ⟨n, hn, hh⟩ := of_bind_eq_ok hh
    obtain ⟨v, hv, -⟩ := of_bind_eq_ok hh
    exact ⟨(n, v), name, value, rfl, hn, hv⟩
  · cases hh

theorem appendValue?_of_isMember {n : Text × Value} {m : Text × Text} (hm : IsMember n m)
    (h : Headers) : h.appendValue? (.string n.1) n.2 = h.append? m.1 m.2 := by
  have hname : (Value.string n.1).text = .ok m.1 := congrArg Except.ok hm.1
  rw [appendValue?, hname, hm.2]
  rfl

theorem isMember_of_appendValue? {n : Text × Value} {h h' : Headers}
    (hh : h.appendValue? (.string n.1) n.2 = .ok h') : ∃ m, IsMember n m := by
  obtain ⟨name, -, hh⟩ := of_bind_eq_ok hh
  obtain ⟨v, hv, -⟩ := of_bind_eq_ok hh
  exact ⟨(n.1, v), rfl, hv⟩

/-- Steps that each add one pair add all the pairs. -/
theorem foldlM_of_forall₂ {α : Type} {R : α → Text × Text → Prop}
    {as : List α} {pairs : List (Text × Text)} (hp : List.Forall₂ R as pairs)
    {f : Headers → α → Except PlatformError Headers}
    (hf : ∀ h a m, R a m → f h a = h.append? m.1 m.2) (h : Headers) :
    as.foldlM f h = h.appendAll? pairs := by
  induction hp generalizing h with
  | nil => rfl
  | cons ha _ ih =>
    rw [List.foldlM_cons, appendAll?_cons, hf h _ _ ha]
    congr 1
    funext next
    exact ih next

/-- Steps that all succeed each add some pair. -/
theorem forall₂_of_foldlM {α : Type} {R : α → Text × Text → Prop}
    {f : Headers → α → Except PlatformError Headers}
    (hf : ∀ h a h', f h a = .ok h' → ∃ m, R a m) {as : List α} {h h' : Headers}
    (hh : as.foldlM f h = .ok h') : ∃ pairs, List.Forall₂ R as pairs := by
  induction as generalizing h with
  | nil => exact ⟨[], .nil⟩
  | cons a as ih =>
    rw [List.foldlM_cons] at hh
    obtain ⟨next, ha, hh⟩ := of_bind_eq_ok hh
    obtain ⟨m, hm⟩ := hf h a next ha
    obtain ⟨pairs, hpairs⟩ := ih hh
    exact ⟨m :: pairs, .cons hm hpairs⟩

/-- Lists of whatever are taken apart, and nothing else is. -/
theorem mapM_pair?_eq_ok_iff (vs : List Value) (lists : List (List Value)) :
    vs.mapM pair? = .ok lists ↔
      (∀ v ∈ vs, ∃ items, v = .array items) ∧ lists = vs.map Value.items := by
  induction vs generalizing lists with
  | nil => exact ⟨fun h => ⟨nofun, (Except.ok.inj h).symm⟩, fun h => congrArg Except.ok h.2.symm⟩
  | cons v vs ih =>
    rw [List.mapM_cons, List.forall_mem_cons, List.map_cons]
    constructor
    · intro h
      obtain ⟨first, hfirst, h⟩ := of_bind_eq_ok h
      obtain ⟨rest, hrest, h⟩ := of_bind_eq_ok h
      cases h
      obtain ⟨hvs, rfl⟩ := (ih rest).1 hrest
      cases v with
      | array items =>
        cases hfirst
        exact ⟨⟨⟨items, rfl⟩, hvs⟩, rfl⟩
      | _ => cases hfirst
    · rintro ⟨⟨⟨items, rfl⟩, hvs⟩, rfl⟩
      rw [(ih _).2 ⟨hvs, rfl⟩]
      rfl

/-- Headers come from the pairs that are given, and so does the fault if there is one. -/
theorem ofValue_of_gives {given : Value} {pairs : List (Text × Text)} (h : Gives given pairs) :
    ofValue given = appendAll? [] pairs := by
  cases h with
  | undefined => rfl
  | null => rfl
  | list h =>
    obtain ⟨hlists, h⟩ := (List.forall₂_and_left ..).1 h
    rw [ofValue, (mapM_pair?_eq_ok_iff _ _).2 ⟨hlists, rfl⟩]
    exact foldlM_of_forall₂ (List.forall₂_map_left_iff.2 h)
      (fun next _ _ hm => appendPair?_of_arePair hm next) []
  | record h => exact foldlM_of_forall₂ h (fun next _ _ hm => appendValue?_of_isMember hm next) []
  | error h => exact foldlM_of_forall₂ h (fun next _ _ hm => appendValue?_of_isMember hm next) []

/-- Pairs as a value. -/
def pairsValue (pairs : List (Text × Text)) : Value :=
  .array (pairs.map fun m => .array [.string m.1, .string m.2])

theorem gives_pairsValue (pairs : List (Text × Text)) : Gives (pairsValue pairs) pairs := by
  refine .list ?_
  rw [Value.items, List.map_map, List.forall₂_map_left_iff, List.forall₂_same]
  exact fun m _ => ⟨⟨_, rfl⟩, _, _, rfl, rfl, rfl⟩

/-- Headers built from pairs answer with the values that the pairs give to a name. -/
theorem get?_of_pairsValue {h : Headers} {pairs : List (Text × Text)}
    (hh : ofValue (pairsValue pairs) = .ok h) (name : Text) :
    h.get? name = joined? (valuesFor pairs name) :=
  get?_of_appendAll? ((ofValue_of_gives (gives_pairsValue pairs)).symm.trans hh) name

/-- Headers only come from a value that stands for pairs. -/
theorem gives_of_ofValue {given : Value} {h : Headers} (hh : ofValue given = .ok h) :
    ∃ pairs, Gives given pairs := by
  unfold ofValue at hh
  split at hh
  · exact ⟨[], .undefined⟩
  · exact ⟨[], .null⟩
  · obtain ⟨lists, hlists, hh⟩ := of_bind_eq_ok hh
    obtain ⟨harrays, rfl⟩ := (mapM_pair?_eq_ok_iff _ _).1 hlists
    obtain ⟨pairs, hpairs⟩ := forall₂_of_foldlM (fun _ _ _ ha => arePair_of_appendPair? ha) hh
    have hpairs := (List.forall₂_and_left ..).2 ⟨harrays, List.forall₂_map_left_iff.1 hpairs⟩
    exact ⟨pairs, .list hpairs⟩
  · obtain ⟨pairs, hpairs⟩ := forall₂_of_foldlM (fun _ _ _ ha => isMember_of_appendValue? ha) hh
    exact ⟨pairs, .record hpairs⟩
  · obtain ⟨pairs, hpairs⟩ := forall₂_of_foldlM (fun _ _ _ ha => isMember_of_appendValue? ha) hh
    exact ⟨pairs, .error hpairs⟩
  · cases hh

/-- A value makes headers just if it stands for pairs that are all legal. -/
theorem exists_ofValue_iff (given : Value) :
    (∃ h, ofValue given = .ok h) ↔ ∃ pairs, Gives given pairs ∧ ∀ m ∈ pairs, IsLegal m := by
  constructor
  · rintro ⟨h, hh⟩
    obtain ⟨pairs, hpairs⟩ := gives_of_ofValue hh
    rw [ofValue_of_gives hpairs] at hh
    exact ⟨pairs, hpairs, isLegal_of_appendAll? hh⟩
  · rintro ⟨pairs, hpairs, hlegal⟩
    rw [ofValue_of_gives hpairs]
    exact appendAll?_of_isLegal hlegal []

/-! ## Headers that are all legal -/

/-- Whether a name is legal and in small letters, and its values are legal. -/
structure IsProper (entry : Text × List Text) : Prop where
  lower_eq : entry.1.lower = entry.1
  legalName : isLegalName entry.1 = true
  legalValues : ∀ v ∈ entry.2, isLegalValue v = true

/-- Whether every entry is proper. -/
def Proper (h : Headers) : Prop := ∀ entry ∈ h, IsProper entry

theorem proper_nil : Proper [] := nofun

theorem Proper.update {h : Headers} (hp : h.Proper) {name : Text}
    (hname : isLegalName name = true) {f : List Text → List Text}
    (hf : ∀ values, (∀ v ∈ values, isLegalValue v = true) → ∀ v ∈ f values, isLegalValue v = true) :
    (h.update name.lower f).Proper := by
  have hnew (values : List Text) (hv : ∀ v ∈ values, isLegalValue v = true) :
      IsProper (name.lower, f values) :=
    ⟨name.lower_lower, isLegalName_lower hname, hf values hv⟩
  induction h with
  | nil =>
    intro entry hentry
    rw [List.mem_singleton.1 hentry]
    exact hnew [] nofun
  | cons first h ih =>
    obtain ⟨hfirst, hrest⟩ := List.forall_mem_cons.1 hp
    rw [Headers.update]
    split_ifs with hkey
    · exact List.forall_mem_cons.2 ⟨hnew first.2 hfirst.legalValues, hrest⟩
    · exact List.forall_mem_cons.2 ⟨hfirst, ih hrest⟩

theorem Proper.append {h : Headers} (hp : h.Proper) {m : Text × Text} (hm : IsLegal m) :
    (h.append m.1 m.2).Proper := by
  apply hp.update hm.1
  intro values hvalues v hv
  rcases List.mem_append.1 hv with hv | hv
  · exact hvalues v hv
  · rw [List.mem_singleton.1 hv]
    exact hm.2

theorem Proper.set {h : Headers} (hp : h.Proper) {name value : Text}
    (hname : isLegalName name = true) (hvalue : isLegalValue value = true) :
    (h.set name value).Proper := by
  apply hp.update hname
  intro values _ v hv
  rw [List.mem_singleton.1 hv]
  exact hvalue

theorem proper_of_appendAll? {pairs : List (Text × Text)} {h h' : Headers} (hp : h.Proper)
    (hh : h.appendAll? pairs = .ok h') : h'.Proper := by
  induction pairs generalizing h with
  | nil =>
    cases hh
    exact hp
  | cons m pairs ih =>
    have hm : IsLegal m := isLegal_of_appendAll? hh m List.mem_cons_self
    rw [appendAll?_cons, append?_of_isLegal hm] at hh
    exact ih (hp.append hm) hh

/-! ## Names with their joined values -/

theorem has_eq (h : Headers) (name : Text) : h.has name = (h.get? name).isSome := by
  rw [has, get?, Option.isSome_map]

theorem get?_lower (h : Headers) (name : Text) : h.get? name.lower = h.get? name := by
  rw [get?, get?, values?, values?, Text.lower_lower]

theorem get?_set (h : Headers) (name value key : Text) :
    (h.set name value).get? key = if key.lower = name.lower then some value else h.get? key := by
  rw [get?, values?_set]
  split_ifs
  · simp [Text.join]
  · rfl

theorem joined?_singleton (value : Text) : joined? [value] = some value := by
  simp [joined?, Text.join]

theorem joined?_eq_none_iff (values : List Text) : joined? values = none ↔ values = [] := by
  simp [joined?]

theorem isLegalValue_join {values : List Text} (h : ∀ v ∈ values, isLegalValue v = true) :
    isLegalValue (Text.join ", " values) = true := by
  have hseparator : isLegalValue ", " = true := by decide
  unfold isLegalValue at *
  simp only [List.all_eq_true] at *
  intro u hu
  rcases Text.mem_join hu with hu | ⟨v, hv, hu⟩
  · exact hseparator u hu
  · exact h v hv u hu

theorem toList_perm (h : Headers) :
    h.toList.Perm (h.map fun entry => (entry.1, Text.join ", " entry.2)) :=
  List.mergeSort_perm _ _

theorem nodup_toList {h : Headers} (hd : h.Distinct) : (h.toList.map Prod.fst).Nodup := by
  rw [(h.toList_perm.map Prod.fst).nodup_iff, List.map_map]
  exact hd

theorem mem_toList {h : Headers} {name value : Text} :
    (name, value) ∈ h.toList ↔ ∃ values, (name, values) ∈ h ∧ Text.join ", " values = value := by
  rw [h.toList_perm.mem_iff, List.mem_map]
  simp only [Prod.mk.injEq, Prod.exists]
  constructor
  · rintro ⟨_, values, hmem, rfl, rfl⟩
    exact ⟨values, hmem, rfl⟩
  · rintro ⟨values, hmem, rfl⟩
    exact ⟨name, values, hmem, rfl, rfl⟩

/-- The names of headers are in small letters, each with its joined values. -/
theorem mem_toList_iff {h : Headers} (hd : h.Distinct) (hp : h.Proper) (name value : Text) :
    (name, value) ∈ h.toList ↔ name.lower = name ∧ h.get? name = some value := by
  rw [mem_toList]
  constructor
  · rintro ⟨values, hmem, rfl⟩
    have hlower : name.lower = name := (hp _ hmem).lower_eq
    have hvalues : h.values? name = some values := by
      rw [values?, hlower]
      exact Members.get?_of_mem hd hmem
    rw [get?, hvalues]
    exact ⟨hlower, rfl⟩
  · rintro ⟨hlower, hvalue⟩
    obtain ⟨values, hvalues, rfl⟩ := Option.map_eq_some_iff.1 hvalue
    rw [values?, hlower] at hvalues
    exact ⟨values, Members.mem_of_get? hvalues, rfl⟩

theorem isLegal_of_mem_toList {h : Headers} (hp : h.Proper) {m : Text × Text}
    (hm : m ∈ h.toList) : IsLegal m := by
  obtain ⟨name, value⟩ := m
  obtain ⟨values, hmem, rfl⟩ := mem_toList.1 hm
  exact ⟨(hp _ hmem).legalName, isLegalValue_join (hp _ hmem).legalValues⟩

end Headers

end ConfigClient
