import ConfigClient.HashSettings
import ConfigClient.Proofs.Double.Whole

/-!
# Which hash settings exist

Settings exist for the algorithms by name, with a whole number of rounds within the bounds of the
algorithm. The bounds are looked up in a record, and a record also answers to the names that every
record has. These name no algorithm, but they have an entry without bounds.

* `Double.IsInteger`: which whole number a double is.
* `HashSettings.limit?_eq_some_iff`, `HashSettings.rounds?_eq_some_iff`: the two look-ups.
* `HashSettings.create_eq_ok_iff`: which settings there are.
* `HashSettings.create_exactly`: the same with what they hold and what is raised for an algorithm.
* `HashSettings.create_of_inherited_name`: settings for a name that is no algorithm.
-/

namespace ConfigClient

/-! ## Whole numbers -/

namespace Double

/-- Whether a double is the whole number `n`. Both zeros are the number zero. -/
structure IsInteger (x : Double) (n : Int) : Prop where
  isFinite : x.isFinite = true
  units_eq : x.signedUnits = n * oneUnits

theorem isWhole_iff (x : Double) : x.isWhole = true ↔ ∃ n, x.IsInteger n := by
  cases x with
  | nan => exact ⟨nofun, fun ⟨_, h⟩ => nomatch h.isFinite⟩
  | infinite negative => exact ⟨nofun, fun ⟨_, h⟩ => nomatch h.isFinite⟩
  | finite negative exponent fraction =>
    have hwhole : (finite negative exponent fraction).isWhole = true ↔
        (oneUnits : Int) ∣ (finite negative exponent fraction).signedUnits := by
      rw [isWhole, beq_iff_eq, ← Nat.dvd_iff_mod_eq_zero, ← Int.natCast_dvd_natCast]
      cases negative with
      | false => rfl
      | true => exact Int.dvd_neg.symm
    rw [hwhole]
    constructor
    · rintro ⟨n, hn⟩
      exact ⟨n, rfl, by rw [hn, Int.mul_comm]⟩
    · rintro ⟨n, hn⟩
      exact ⟨n, by rw [hn.units_eq, Int.mul_comm]⟩

/-- Doubles that are whole numbers are compared as these are. -/
theorem IsInteger.le_iff {x y : Double} {m n : Int} (hx : x.IsInteger m) (hy : y.IsInteger n) :
    le x y = true ↔ m ≤ n := by
  obtain ⟨hxfinite, hxunits⟩ := hx
  obtain ⟨hyfinite, hyunits⟩ := hy
  have hpos : (0 : Int) < oneUnits := Int.natCast_pos.2 oneUnits_pos
  cases x with
  | nan => cases hxfinite
  | infinite negative => cases hxfinite
  | finite negative exponent fraction =>
    cases y with
    | nan => cases hyfinite
    | infinite negative => cases hyfinite
    | finite negative' exponent' fraction' =>
      rw [le, decide_eq_true_iff, hxunits, hyunits, Int.mul_le_mul_right hpos]

theorem isInteger_ofNat {k : Nat} (hk : k < 2 ^ 53) : (ofNat k).IsInteger k := by
  obtain ⟨exponent, fraction, heq, hunits⟩ := ofNat_exact hk
  have hsigned : (finite false exponent fraction).signedUnits = (k : Int) * oneUnits := by
    rw [← Int.natCast_mul, ← hunits]
    rfl
  rw [heq]
  exact ⟨rfl, hsigned⟩

end Double

namespace HashAlgorithm

theorem ofName?_eq_some_iff (name : Text) (a : HashAlgorithm) :
    ofName? name = some a ↔ a.name = name := by
  constructor
  · intro h
    have hfound := List.find?_some h
    simpa only [beq_iff_eq] using hfound
  · rintro rfl
    cases a <;> decide

/-- No algorithm has a name that every record has. -/
theorem value?_name (a : HashAlgorithm) : (Inherited.value? a.name).isSome = false := by
  cases a <;> decide

theorem bounds_lt (a : HashAlgorithm) : a.bounds.1 < 2 ^ 53 ∧ a.bounds.2 < 2 ^ 53 := by
  cases a <;> decide

end HashAlgorithm

namespace HashSettings

/-! ## The two look-ups -/

/-- The bounds of an algorithm as a limit. -/
def limitOf (a : HashAlgorithm) : Limit := .between a.bounds.1 a.bounds.2

/-- The names with a limit are those of the algorithms and those that every record has. -/
theorem limit?_eq_some_iff (name : Text) (limit : Limit) :
    limit? name = some limit ↔
      (∃ a : HashAlgorithm, a.name = name ∧ limit = limitOf a) ∨
        (Inherited.value? name).isSome = true ∧ limit = .unlimited := by
  unfold limit?
  cases ha : HashAlgorithm.ofName? name with
  | some a =>
    have hname := (HashAlgorithm.ofName?_eq_some_iff name a).1 ha
    have hown : (Inherited.value? name).isSome = false := hname ▸ a.value?_name
    simp only [Option.some.injEq, hown, Bool.false_eq_true, false_and, or_false]
    constructor
    · rintro rfl
      exact ⟨a, hname, rfl⟩
    · rintro ⟨b, hb, rfl⟩
      have hfound := (HashAlgorithm.ofName?_eq_some_iff name b).2 hb
      rw [ha] at hfound
      cases hfound
      rfl
  | none =>
    have hnone (a : HashAlgorithm) : a.name ≠ name := by
      intro h
      rw [(HashAlgorithm.ofName?_eq_some_iff name a).2 h] at ha
      cases ha
    simp only [Option.map_eq_some_iff, hnone, false_and, exists_false, false_or,
      Option.isSome_iff_exists]
    constructor
    · rintro ⟨v, hv, rfl⟩
      exact ⟨⟨v, hv⟩, rfl⟩
    · rintro ⟨⟨v, hv⟩, rfl⟩
      exact ⟨v, hv, rfl⟩

/-- Options that only give rounds. -/
def roundsOptions (rounds : Value) : Value := .object [("rounds", rounds)]

/-- The field is a number just if the rounds are given as this number. The options themselves may
stand there, but they are none. -/
theorem field_roundsOptions_iff (rounds : Value) (x : Double) :
    (roundsOptions rounds).field "rounds" = .number x ↔ rounds = .number x := by
  have hfield : (roundsOptions rounds).field "rounds" =
      rounds.takenFrom (roundsOptions rounds) := rfl
  rw [hfield]
  cases rounds with
  | holder level =>
    rw [Value.takenFrom, Value.relink]
    split_ifs <;> exact ⟨nofun, nofun⟩
  | number y => exact Iff.rfl
  | _ => exact ⟨nofun, nofun⟩

theorem allows_limitOf {x : Double} {n : Int} (h : x.IsInteger n) (a : HashAlgorithm) :
    (limitOf a).allows x = true ↔ a.bounds.1 ≤ n ∧ n ≤ a.bounds.2 := by
  obtain ⟨hmin, hmax⟩ := a.bounds_lt
  rw [limitOf, Limit.allows, Bool.and_eq_true, (Double.isInteger_ofNat hmin).le_iff h,
    h.le_iff (Double.isInteger_ofNat hmax)]

/-- The rounds that count are whole numbers that the limit allows. -/
theorem rounds?_eq_some_iff (limit : Limit) (rounds : Value) (x : Double) :
    rounds? limit (roundsOptions rounds) = some x ↔
      rounds = .number x ∧ (∃ n, x.IsInteger n) ∧ limit.allows x = true := by
  rw [← field_roundsOptions_iff, ← Double.isWhole_iff, rounds?]
  cases (roundsOptions rounds).field "rounds" with
  | number y =>
    simp only [Bool.and_eq_true, Value.number.injEq]
    constructor
    · intro h
      split_ifs at h with hy
      cases h
      exact ⟨rfl, hy⟩
    · rintro ⟨rfl, hy⟩
      rw [if_pos hy]
  | _ => simp

/-! ## Settings by name -/

theorem find_string (name : Text) :
    find (.string name) =
      match limit? name with
      | some limit => .ok (name, limit)
      | none => .error .wrongKind := rfl

theorem create_of_limit {name : Text} {limit : Limit} (h : limit? name = some limit)
    (rounds : Value) :
    create (.string name) (roundsOptions rounds) =
      match rounds? limit (roundsOptions rounds) with
      | some x => .ok ⟨.string name, x⟩
      | none => .error (.library (invalidRounds name limit)) := by
  simp only [create, find_string, h]
  rfl

theorem create_of_no_limit {name : Text} (h : limit? name = none) (rounds : Value) :
    create (.string name) (roundsOptions rounds) = .error (.platform .wrongKind) := by
  simp only [create, find_string, h]

/-- The settings that there are: for a name with a limit, and a whole number that this allows. -/
theorem create_eq_ok_iff (name : Text) (rounds : Value) (h : HashSettings) :
    create (.string name) (roundsOptions rounds) = .ok h ↔
      ∃ limit x, limit? name = some limit ∧
        (rounds = .number x ∧ (∃ n, x.IsInteger n) ∧ limit.allows x = true) ∧
        h = ⟨.string name, x⟩ := by
  cases hlimit : limit? name with
  | none =>
    rw [create_of_no_limit hlimit]
    simp
  | some limit =>
    simp only [create_of_limit hlimit, Option.some.injEq, exists_and_left, exists_eq_left',
      ← rounds?_eq_some_iff]
    cases rounds? limit (roundsOptions rounds) with
    | none => simp
    | some x => simp [eq_comm]

/-- The rounds that a name takes: those within the bounds of the algorithm with this name, or any
if it is a name that every record has. -/
def Takes (name : Text) (n : Int) : Prop :=
  (∃ a : HashAlgorithm, a.name = name ∧ a.bounds.1 ≤ n ∧ n ≤ a.bounds.2) ∨
    (Inherited.value? name).isSome = true

theorem takes_iff {x : Double} {n : Int} (h : x.IsInteger n) (name : Text) :
    Takes name n ↔ ∃ limit, limit? name = some limit ∧ limit.allows x = true := by
  simp only [limit?_eq_some_iff]
  constructor
  · rintro (⟨a, hname, hbounds⟩ | hinherited)
    · exact ⟨limitOf a, .inl ⟨a, hname, rfl⟩, (allows_limitOf h a).2 hbounds⟩
    · exact ⟨.unlimited, .inr ⟨hinherited, rfl⟩, rfl⟩
  · rintro ⟨limit, ⟨a, hname, rfl⟩ | ⟨hinherited, rfl⟩, hallows⟩
    · exact .inl ⟨a, hname, (allows_limitOf h a).1 hallows⟩
    · exact .inr hinherited

/-- Settings exist for a name and a value of the rounds just if the value is a whole number that the
name takes. They hold exactly these two, and so does the part of the request that is made from them.
Without settings there is an error, and for the name of an algorithm it is one of the library. -/
theorem create_exactly (name : Text) (rounds : Value) :
    let settings := create (.string name) (roundsOptions rounds)
    (∀ h, settings = .ok h ↔
      ∃ x n, rounds = .number x ∧ x.IsInteger n ∧
        ((∃ a : HashAlgorithm, a.name = name ∧ a.bounds.1 ≤ n ∧ n ≤ a.bounds.2) ∨
          (Inherited.value? name).isSome = true) ∧
        h = ⟨.string name, x⟩) ∧
    (∀ h, settings = .ok h →
      h.value = .object [("hashAlgorithm", .string name), ("rounds", rounds)] ∧
        uploadOptions h.value = .ok h.value) ∧
    ∀ f, settings = .error f → ∀ a : HashAlgorithm, a.name = name →
      ∃ e, f = .library e ∧ e.kind = .general ∧ e.message = .string
        ("Must provide valid rounds(" ++ Text.ofNat a.bounds.1 ++ ".." ++ Text.ofNat a.bounds.2 ++
          ") for hash algorithm " ++ name) := by
  intro settings
  have exactly (h : HashSettings) : settings = .ok h ↔
      ∃ x n, rounds = .number x ∧ x.IsInteger n ∧ Takes name n ∧ h = ⟨.string name, x⟩ := by
    rw [create_eq_ok_iff]
    constructor
    · rintro ⟨limit, x, hlimit, ⟨hrounds, ⟨n, hn⟩, hallows⟩, rfl⟩
      exact ⟨x, n, hrounds, hn, (takes_iff hn name).2 ⟨limit, hlimit, hallows⟩, rfl⟩
    · rintro ⟨x, n, hrounds, hn, htakes, rfl⟩
      obtain ⟨limit, hlimit, hallows⟩ := (takes_iff hn name).1 htakes
      exact ⟨limit, x, hlimit, ⟨hrounds, ⟨n, hn⟩, hallows⟩, rfl⟩
  refine ⟨exactly, fun h hh => ?_, fun f hf a ha => ?_⟩
  · obtain ⟨x, n, rfl, -, -, rfl⟩ := (exactly h).1 hh
    exact ⟨rfl, rfl⟩
  · have hlimit : limit? name = some (limitOf a) := (limit?_eq_some_iff _ _).2 (.inl ⟨a, ha, rfl⟩)
    have hsettings : settings = _ := create_of_limit hlimit rounds
    rw [hf] at hsettings
    cases hrounds : rounds? (limitOf a) (roundsOptions rounds) with
    | some x =>
      rw [hrounds] at hsettings
      cases hsettings
    | none =>
      rw [hrounds] at hsettings
      cases hsettings
      exact ⟨_, rfl, rfl, rfl⟩

/-- The negative zero is a number of rounds where zero is, and a big integer never is one. -/
theorem create_exactly_minusZero :
    let minusZero : Value := .number (.finite true 0 0)
    (∃ h, create (.string "MD5") (roundsOptions minusZero) = .ok h ∧
      uploadOptions h.value =
        .ok (.object [("hashAlgorithm", .string "MD5"), ("rounds", minusZero)])) ∧
    ∃ e, create (.string "SHA1") (roundsOptions (.bigint 1)) = .error (.library e) ∧
      e.message = .string "Must provide valid rounds(1..8192) for hash algorithm SHA1" := by
  intro minusZero
  have hzero : (Double.finite true 0 0).IsInteger 0 := ⟨rfl, by decide +kernel⟩
  obtain ⟨exists_iff, holds, -⟩ := create_exactly "MD5" minusZero
  have hmd5 := (exists_iff ⟨.string "MD5", .finite true 0 0⟩).2
    ⟨_, 0, rfl, hzero, .inl ⟨.md5, rfl, by decide, by decide⟩, rfl⟩
  obtain ⟨hvalue, hupload⟩ := holds _ hmd5
  have hlimit : limit? "SHA1" = some (limitOf .sha1) :=
    (limit?_eq_some_iff _ _).2 (.inl ⟨.sha1, rfl, rfl⟩)
  have hsha1 : create (.string "SHA1") (roundsOptions (.bigint 1)) =
      .error (.library (invalidRounds "SHA1" (limitOf .sha1))) := by
    rw [create_of_limit hlimit]
    rfl
  obtain ⟨e, he, -, hmessage⟩ := (create_exactly "SHA1" (.bigint 1)).2.2 _ hsha1 .sha1 rfl
  refine ⟨⟨_, hmd5, by rw [hupload, hvalue]⟩, e, by rw [hsha1, he], hmessage⟩

/-- Any whole number makes settings for a name that every record has and no algorithm does. -/
theorem create_of_inherited_name :
    create (.string "toString") (roundsOptions (.number (.ofNat 5))) =
        .ok ⟨.string "toString", .ofNat 5⟩ ∧
      ∀ a : HashAlgorithm, a.name ≠ "toString" := by
  have hinherited : (Inherited.value? "toString").isSome = true := by decide
  have hlimit := (limit?_eq_some_iff "toString" .unlimited).2 (.inr ⟨hinherited, rfl⟩)
  have hinteger : (Double.ofNat 5).IsInteger 5 := Double.isInteger_ofNat (by decide)
  refine ⟨(create_eq_ok_iff _ _ _).2 ⟨_, _, hlimit, ⟨rfl, ⟨5, hinteger⟩, rfl⟩, rfl⟩, ?_⟩
  intro a
  cases a <;> decide

/-! ## Settings for one algorithm -/

/-- There is one function for each algorithm. -/
theorem map_makers : makers.map Prod.snd = HashAlgorithm.all.map make := rfl

/-- Settings for one algorithm exist for the whole numbers within its bounds. -/
theorem make_eq_ok_iff (a : HashAlgorithm) (rounds : Value) (h : HashSettings) :
    make a (roundsOptions rounds) = .ok h ↔
      ∃ x n, rounds = .number x ∧ x.IsInteger n ∧ a.bounds.1 ≤ n ∧ n ≤ a.bounds.2 ∧
        h = ⟨.string a.name, x⟩ := by
  have hlimit : limit? a.name = some (limitOf a) := (limit?_eq_some_iff _ _).2 (.inl ⟨a, rfl, rfl⟩)
  rw [make, create_eq_ok_iff]
  constructor
  · rintro ⟨limit, x, hlimit', ⟨hrounds, ⟨n, hn⟩, hallows⟩, rfl⟩
    cases hlimit.symm.trans hlimit'
    obtain ⟨hmin, hmax⟩ := (allows_limitOf hn a).1 hallows
    exact ⟨x, n, hrounds, hn, hmin, hmax, rfl⟩
  · rintro ⟨x, n, hrounds, hn, hmin, hmax, rfl⟩
    exact ⟨_, x, hlimit, ⟨hrounds, ⟨n, hn⟩, (allows_limitOf hn a).2 ⟨hmin, hmax⟩⟩, rfl⟩

end HashSettings

end ConfigClient
