import ConfigClient.Log.Entry
import ConfigClient.Proofs.Outcome

/-!
# Which values can be reported

A value that was thrown or is logged is reported by its JSON text. Some values have none: those in
which a big integer or a cycle stands cannot be written, and the undefined value denotes nothing.
An error is reported by its message and a text by itself. What is logged falls back on the plain
text, which an object lacks if it has something in the place of a conversion that gives none.

* `Value.Unwritable`, `Value.raises_json?_iff`: the values that cannot be written as JSON.
* `Value.Unshowable`, `Value.raises_text_iff`: the values without a plain text.
* `Value.denotesNothing`, `Value.jsonText?_cases`: what becomes of a value that is written.
* `Value.reports_iff`: where the message, the error and the log segment of a value are what they
  are to be, and where there is none.
-/

namespace ConfigClient

/-! ## Errors in sequence -/

/-- Whether a computation raises an error. -/
def Raises {ε α : Type} (x : Except ε α) : Prop := ∃ e, x = .error e

section

variable {ε α β : Type}

theorem raises_error (e : ε) : Raises (.error e : Except ε α) := ⟨e, rfl⟩

theorem not_raises_ok (a : α) : ¬Raises (.ok a : Except ε α) := fun ⟨_, h⟩ => nomatch h

/-- A sequence raises an error if one of its parts does, where the second part does so for any
result of the first or for none. -/
theorem raises_bind_iff {x : Except ε α} {f : α → Except ε β} {P : Prop}
    (h : ∀ a, Raises (f a) ↔ P) : Raises (x >>= f) ↔ Raises x ∨ P := by
  cases x with
  | error e => exact iff_of_true (raises_error e) (.inl (raises_error e))
  | ok a =>
    rw [or_iff_right (not_raises_ok a)]
    exact h a

theorem raises_map_iff (x : Except ε α) (f : α → β) : Raises (x.map f) ↔ Raises x := by
  cases x with
  | error e => exact iff_of_true (raises_error e) (raises_error e)
  | ok a => exact iff_of_false (not_raises_ok (f a)) (not_raises_ok a)

/-- What is made of a result adds no error. -/
theorem raises_bind_pure_iff (x : Except ε α) (f : α → β) :
    Raises (do let a ← x; pure (f a)) ↔ Raises x := by
  have hpure (a : α) : ¬Raises (pure (f a) : Except ε β) := not_raises_ok (f a)
  rw [raises_bind_iff fun a => iff_false_intro (hpure a), or_false]

end

namespace Value

/-! ## Writing -/

/-- The values that cannot be written as JSON, on their own or inside of a container: big integers,
what stands for a container around it, and whatever such a value stands in. The members of an object
that brings its own JSON value are not written. The fields of an error are, if it is one of the
library. -/
inductive UnwritableIn : Bool → Value → Prop
  | bigint {inside : Bool} (n : Int) : UnwritableIn inside (.bigint n)
  | holder {inside : Bool} (hinside : inside = true) (level : Nat) :
    UnwritableIn inside (.holder level)
  | item {inside : Bool} {items : List Value} {v : Value} (hv : v ∈ items)
    (h : UnwritableIn true v) : UnwritableIn inside (.array items)
  | member {inside : Bool} {members : List (Text × Value)} {key : Text} {v : Value}
    (hown : reply? members "toJSON" = none) (hv : (key, v) ∈ members) (h : UnwritableIn true v) :
    UnwritableIn inside (.object members)
  | field {inside : Bool} {e : LibraryError} {key : Text} {v : Value} (hv : (key, v) ∈ e.members)
    (h : UnwritableIn true v) : UnwritableIn inside (.fault (.library e))

/-- The values that cannot be written as JSON. -/
def Unwritable (v : Value) : Prop := v.UnwritableIn false

variable {inside : Bool}

theorem unwritableIn_array_iff (items : List Value) :
    UnwritableIn inside (.array items) ↔ ∃ v ∈ items, v.UnwritableIn true := by
  constructor
  · rintro (_ | _ | ⟨hv, h⟩)
    exact ⟨_, hv, h⟩
  · rintro ⟨v, hv, h⟩
    exact .item hv h

theorem unwritableIn_object_iff (members : List (Text × Value)) :
    UnwritableIn inside (.object members) ↔
      reply? members "toJSON" = none ∧ ∃ m ∈ members, m.2.UnwritableIn true := by
  constructor
  · rintro (_ | _ | _ | ⟨hown, hv, h⟩)
    exact ⟨hown, _, hv, h⟩
  · rintro ⟨hown, ⟨key, v⟩, hv, h⟩
    exact .member hown hv h

theorem unwritableIn_library_iff (e : LibraryError) :
    UnwritableIn inside (.fault (.library e)) ↔
      e.children.UnwritableIn true ∨ e.context.UnwritableIn true ∨ e.exit.UnwritableIn true ∨
        e.message.UnwritableIn true ∨ e.cause.UnwritableIn true ∨ e.status.UnwritableIn true ∨
          e.code.UnwritableIn true := by
  have hname : ¬UnwritableIn true (.string e.name) := nofun
  have hnone : ¬UnwritableIn true .undefined := nofun
  have hfields : UnwritableIn inside (.fault (.library e)) ↔
      ∃ m ∈ e.members, m.2.UnwritableIn true := by
    constructor
    · rintro (_ | _ | _ | _ | ⟨hv, h⟩)
      exact ⟨_, hv, h⟩
    · rintro ⟨⟨key, v⟩, hv, h⟩
      exact .field hv h
  rw [hfields]
  -- An error without a code counts as one with an undefined code, which can be written.
  unfold LibraryError.members LibraryError.code LibraryError.Kind.code
  cases e.kind <;> simp [hname, hnone]

/-- What stands for a container around it is met again if there is one. -/
theorem raises_writeHolder_iff (around : List Link) (place : Place) (level : Nat) :
    Raises (writeHolder around place level) ↔
      UnwritableIn (!around.isEmpty) (.holder level) := by
  cases around with
  | nil => exact ⟨nofun, fun | .holder hinside _ => nomatch hinside⟩
  | cons link around =>
    have hlinks : ((link :: around).take (level + 1)).reverse ≠ [] := by simp
    rw [writeHolder]
    cases h : ((link :: around).take (level + 1)).reverse with
    | nil => exact absurd h hlinks
    | cons container links => exact ⟨fun _ => .holder rfl level, fun _ => raises_error _⟩

-- The recursion is that of the writer: through the items, the members and the data of errors. All
-- that counts of the containers around a value is whether there are any.
mutual

/-- A value cannot be written exactly if it is one of those. -/
theorem raises_write_iff (around : List Link) (place : Place) :
    (v : Value) → (Raises (v.write around place) ↔ v.UnwritableIn (!around.isEmpty))
  | .undefined => ⟨nofun, nofun⟩
  | .null => ⟨nofun, nofun⟩
  | .bool b => ⟨nofun, nofun⟩
  | .number x => ⟨nofun, nofun⟩
  | .bigint n => ⟨fun _ => .bigint n, fun _ => raises_error _⟩
  | .string t => ⟨nofun, nofun⟩
  | .array items => by
    rw [write, raises_bind_pure_iff, raises_writeItems_iff ⟨place, "Array"⟩ around 0 items,
      unwritableIn_array_iff]
  | .object members => by
    rw [write, unwritableIn_object_iff]
    cases reply? members "toJSON" with
    | some reply => exact iff_of_false (not_raises_ok reply) nofun
    | none =>
      simp only [true_and]
      rw [raises_bind_pure_iff, raises_writeMembers_iff ⟨place, "Object"⟩ around members]
  | .operation name parameters reply => ⟨nofun, nofun⟩
  | .holder level => by
    rw [write, raises_writeHolder_iff]
  | .fault f => by
    rw [write, raises_bind_pure_iff, raises_writeFault_iff around place f]

theorem raises_writeItems_iff (link : Link) (around : List Link) (place : Nat) :
    (items : List Value) →
      (Raises (writeItems (link :: around) place items) ↔ ∃ v ∈ items, v.UnwritableIn true)
  | [] => by simp [writeItems, not_raises_ok]
  | v :: rest => by
    have hv : Raises (v.write (link :: around) (.item place)) ↔ v.UnwritableIn true :=
      raises_write_iff (link :: around) (.item place) v
    rw [writeItems, List.exists_mem_cons_iff, ← hv]
    exact raises_bind_iff fun first =>
      (raises_bind_pure_iff _ _).trans (raises_writeItems_iff link around (place + 1) rest)

theorem raises_writeMembers_iff (link : Link) (around : List Link) :
    (members : List (Text × Value)) →
      (Raises (writeMembers (link :: around) members) ↔ ∃ m ∈ members, m.2.UnwritableIn true)
  | [] => by simp [writeMembers, not_raises_ok]
  | (k, v) :: rest => by
    have hv : Raises (v.write (link :: around) (.member k)) ↔ v.UnwritableIn true :=
      raises_write_iff (link :: around) (.member k) v
    rw [writeMembers, List.exists_mem_cons_iff, ← hv]
    exact raises_bind_iff fun first =>
      (raises_bind_pure_iff _ _).trans (raises_writeMembers_iff link around rest)

theorem raises_writeFault_iff (around : List Link) (place : Place) :
    (f : Fault) →
      (Raises (writeFault around place f) ↔ UnwritableIn (!around.isEmpty) (.fault f))
  | .plain _ _ _ => ⟨nofun, nofun⟩
  | .platform _ => ⟨nofun, nofun⟩
  | .library ⟨kind, message, children, context, exit, cause, status, stack⟩ => by
    have field (key : Text) (v : Value) (h : Raises (v.write (⟨place, kind.name⟩ :: around)
        (.member key)) ↔ v.UnwritableIn (!(Link.mk place kind.name :: around).isEmpty)) :
        Raises (v.write (⟨place, kind.name⟩ :: around) (.member key)) ↔ v.UnwritableIn true := h
    rw [unwritableIn_library_iff]
    simp only
    rw [← field "children" children (raises_write_iff _ _ children),
      ← field "context" context (raises_write_iff _ _ context),
      ← field "exit" exit (raises_write_iff _ _ exit),
      ← field "message" message (raises_write_iff _ _ message),
      ← field "original" cause (raises_write_iff _ _ cause),
      ← field "status" status (raises_write_iff _ _ status), LibraryError.code,
      ← raises_writeCode_iff ⟨place, kind.name⟩ around kind, writeFault]
    exact raises_bind_iff fun _ => raises_bind_iff fun _ => raises_bind_iff fun _ =>
      raises_bind_iff fun _ => raises_bind_iff fun _ => raises_bind_iff fun _ =>
        raises_bind_pure_iff _ _

theorem raises_writeCode_iff (link : Link) (around : List Link) :
    (kind : LibraryError.Kind) →
      (Raises (writeCode (link :: around) kind) ↔ kind.code.UnwritableIn true)
  | .general => ⟨nofun, nofun⟩
  | .request code => by
    rw [writeCode]
    exact raises_write_iff (link :: around) _ code

end

theorem raises_json?_iff (v : Value) : Raises v.json? ↔ v.Unwritable := raises_write_iff [] _ v

-- The object that stands again under `b` is the outer one.
example : (object [("a", object [("b", holder 1)])]).json? =
    .error (.circular "Object" [⟨.member "a", "Object"⟩] (.member "b")) := rfl

/-- Whether a value is none that JSON has: the undefined one, an operation, and an object whose own
JSON value is none. -/
def denotesNothing : Value → Bool
  | undefined => true
  | object members =>
    match reply? members "toJSON" with
    | some none => true
    | _ => false
  | operation _ _ _ => true
  | holder _ => true
  | _ => false

theorem json?_eq_none_iff (v : Value) : v.json? = .ok none ↔ v.denotesNothing = true := by
  unfold json?
  cases v with
  | array items =>
    rw [write]
    cases writeItems [⟨.member [], "Array"⟩] 0 items <;> exact ⟨nofun, nofun⟩
  | object members =>
    rw [write, denotesNothing]
    rcases reply? members "toJSON" with _ | _ | j
    · cases writeMembers [⟨.member [], "Object"⟩] members <;> exact ⟨nofun, nofun⟩
    · exact ⟨fun _ => rfl, fun _ => rfl⟩
    · exact ⟨nofun, nofun⟩
  | fault f =>
    rw [write]
    cases writeFault [] (.member []) f <;> exact ⟨nofun, nofun⟩
  | undefined | operation | holder => exact ⟨fun _ => rfl, fun _ => rfl⟩
  | null | bool | number | bigint | string => exact ⟨nofun, nofun⟩

/-! ## Plain text -/

/-- Whether an object brings an operation under a key that gives neither an array nor an object. -/
def Converts (members : List (Text × Value)) (key : Text) : Prop :=
  ∃ reply, reply? members key = some reply ∧ (∀ items, reply ≠ some (.array items)) ∧
    ∀ own, reply ≠ some (.object own)

/-- The values without a plain text inside of some containers: objects that bring something in the
place of their text that gives none, an error that is met again in its own message with no list on
the way, the arrays in which such a value stands, and the errors of the library whose message it is.
-/
inductive UnshowableIn : List Frame → Value → Prop
  | object {around : List Frame} {members : List (Text × Value)}
    (hown : Members.has members "toString" = true) (hs : ¬Converts members "toString")
    (hv : ¬Converts members "valueOf") : UnshowableIn around (.object members)
  | endless {around : List Frame} {level : Nat}
    (h : ∀ frame ∈ around.take (level + 1), frame ≠ .list) : UnshowableIn around (.holder level)
  | item {around : List Frame} {items : List Value} {v : Value} (hv : v ∈ items)
    (h : UnshowableIn (.list :: around) v) : UnshowableIn around (.array items)
  | message {around : List Frame} {e : LibraryError}
    (h : UnshowableIn (.error e.name :: around) e.message) :
    UnshowableIn around (.fault (.library e))

/-- The values without a plain text. -/
def Unshowable (v : Value) : Prop := v.UnshowableIn []

theorem replyText?_bind_eq_none_iff (members : List (Text × Value)) (key : Text) :
    (reply? members key).bind replyText? = none ↔ ¬Converts members key := by
  unfold Converts
  rcases reply? members key with _ | _ | j
  · simp
  · simp [replyText?]
  · cases j <;> simp [replyText?]

theorem objectText?_eq_none_iff (members : List (Text × Value)) :
    objectText? members = none ↔ Members.has members "toString" = true ∧
      ¬Converts members "toString" ∧ ¬Converts members "valueOf" := by
  rw [← replyText?_bind_eq_none_iff, ← replyText?_bind_eq_none_iff, objectText?]
  split_ifs with h
  · rw [Option.or_eq_none_iff, and_iff_right h]
  · exact ⟨nofun, fun h' => absurd h'.1 h⟩

variable {around : List Frame}

theorem unshowableIn_array_iff (items : List Value) :
    UnshowableIn around (.array items) ↔ ∃ v ∈ items, v.UnshowableIn (.list :: around) := by
  constructor
  · rintro (_ | _ | ⟨hv, h⟩)
    exact ⟨_, hv, h⟩
  · rintro ⟨v, hv, h⟩
    exact .item hv h

theorem unshowableIn_library_iff (e : LibraryError) :
    UnshowableIn around (.fault (.library e)) ↔
      e.message.UnshowableIn (.error e.name :: around) := by
  constructor
  · rintro (_ | _ | _ | h)
    exact h
  · exact .message

/-- Nothing that is missing is unshowable. -/
theorem UnshowableIn.isMissing_eq_false {v : Value} (h : v.UnshowableIn around) :
    v.isMissing = false := by
  cases h <;> rfl

/-- A container is shown again without end if no list interrupts it. -/
theorem raises_shownAgain_iff (frames : List Frame) :
    Raises (shownAgain frames) ↔ ∀ frame ∈ frames, frame ≠ .list := by
  induction frames with
  | nil => exact iff_of_true (raises_error _) nofun
  | cons frame frames ih =>
    rw [List.forall_mem_cons]
    cases frame with
    | list => exact iff_of_false (not_raises_ok _) fun h => h.1 rfl
    | error name => rw [shownAgain, raises_map_iff, ih, and_iff_right nofun]

mutual

/-- A value has no plain text exactly if it is one of those. -/
theorem raises_textIn_iff (around : List Frame) :
    (v : Value) → (Raises (v.textIn around) ↔ v.UnshowableIn around)
  | .undefined => ⟨nofun, nofun⟩
  | .null => ⟨nofun, nofun⟩
  | .bool b => ⟨nofun, nofun⟩
  | .number x => ⟨nofun, nofun⟩
  | .bigint n => ⟨nofun, nofun⟩
  | .string t => ⟨nofun, nofun⟩
  | .array items => by
    rw [textIn, raises_bind_pure_iff, raises_itemTexts_iff (.list :: around) items,
      unshowableIn_array_iff]
  | .object members => by
    have hobject : UnshowableIn around (.object members) ↔ objectText? members = none := by
      rw [objectText?_eq_none_iff]
      constructor
      · rintro ⟨hown, hs, hv⟩
        exact ⟨hown, hs, hv⟩
      · rintro ⟨hown, hs, hv⟩
        exact .object hown hs hv
    rw [textIn, hobject]
    cases objectText? members with
    | none => exact iff_of_true (raises_error _) rfl
    | some t => exact iff_of_false (not_raises_ok t) nofun
  | .operation name parameters reply => ⟨nofun, nofun⟩
  | .holder level => by
    rw [textIn, raises_shownAgain_iff]
    simp only [List.mem_reverse]
    constructor
    · exact .endless
    · rintro (_ | h)
      exact h
  | .fault f => by
    rw [textIn, raises_faultText_iff around f]

theorem raises_itemTexts_iff (around : List Frame) : (items : List Value) →
    (Raises (itemTexts around items) ↔ ∃ v ∈ items, v.UnshowableIn around)
  | [] => by simp [itemTexts, not_raises_ok]
  | v :: rest => by
    rw [itemTexts, List.exists_mem_cons_iff, ← raises_itemTexts_iff around rest]
    cases hmissing : v.isMissing with
    | true =>
      have hv : ¬v.UnshowableIn around := by
        intro h
        rw [h.isMissing_eq_false] at hmissing
        cases hmissing
      rw [if_pos rfl, or_iff_right hv]
      exact raises_bind_pure_iff (itemTexts around rest) _
    | false =>
      rw [if_neg Bool.false_ne_true, ← raises_textIn_iff around v]
      exact raises_bind_iff fun first => raises_bind_pure_iff _ _

theorem raises_faultText_iff (around : List Frame) : (f : Fault) →
    (Raises (faultText around f) ↔ UnshowableIn around (.fault f))
  | .plain _ _ _ => ⟨nofun, nofun⟩
  | .platform _ => ⟨nofun, nofun⟩
  | .library ⟨kind, message, children, context, exit, cause, status, stack⟩ => by
    rw [faultText, unshowableIn_library_iff]
    cases hundefined : message.isUndefined with
    | true =>
      rw [if_pos rfl]
      refine iff_of_false (not_raises_ok _) ?_
      rintro (_ | _ | _ | _) <;> cases hundefined
    | false =>
      rw [if_neg Bool.false_ne_true]
      exact (raises_bind_pure_iff _ _).trans
        (raises_textIn_iff (.error kind.name :: around) message)

end

/-! ## Reports -/

theorem raises_jsonText?_iff (v : Value) : Raises v.jsonText? ↔ v.Unwritable := by
  rw [jsonText?, raises_bind_pure_iff, raises_json?_iff]

/-- The values with a JSON text are those that can be written and denote something. -/
theorem jsonText?_text_iff (v : Value) :
    (∃ t, v.jsonText? = .ok (some t)) ↔ ¬v.Unwritable ∧ v.denotesNothing = false := by
  rw [← raises_json?_iff v, ← Bool.not_eq_true, ← json?_eq_none_iff, jsonText?]
  rcases v.json? with e | _ | j
  · simp [raises_error]
  · simp
  · simp [not_raises_ok]

theorem raises_text_iff (v : Value) : Raises v.text ↔ v.Unshowable := raises_textIn_iff [] v

/-- A value is an error, a text, or neither. -/
theorem kinds (v : Value) :
    (∃ f, v = .fault f) ∨ (∃ t, v = .string t) ∨ (∀ f, v ≠ .fault f) ∧ ∀ t, v ≠ .string t := by
  cases v with
  | fault f => exact .inl ⟨f, rfl⟩
  | string t => exact .inr (.inl ⟨t, rfl⟩)
  | _ => exact .inr (.inr ⟨nofun, nofun⟩)

theorem not_unwritable_string (t : Text) : ¬Unwritable (.string t) := nofun

/-- A value that is neither an error nor a text has the default for a message, if that is not empty,
or else its JSON text. -/
theorem message_of_ne {v : Value} (hf : ∀ f, v ≠ .fault f) (ht : ∀ t, v ≠ .string t)
    (default : Value) :
    v.message default =
      if default.holds then .ok default
      else do return ((← v.jsonText?).map string).getD undefined := by
  cases v with
  | fault f => exact absurd rfl (hf f)
  | string t => exact absurd rfl (ht t)
  | _ => rfl

/-- A value that is no text contributes its JSON text to a line, or else its plain text. -/
theorem segment?_of_ne {v : Value} (ht : ∀ t, v ≠ .string t) :
    Log.segment? v =
      match v.jsonText? with
      | .ok t => .ok t
      | .error _ => v.text.map some := by
  cases v with
  | string t => exact absurd rfl (ht t)
  | _ => rfl

/-- A default message as a value. -/
def ofDefault (default : Option Text) : Value := (default.map string).getD undefined

/-- A default message is a text that counts as true, or there is none to speak of. -/
theorem ofDefault_cases (default : Option Text) :
    (∃ t, default.getD [] ≠ [] ∧ ofDefault default = .string t ∧ (string t).holds = true) ∨
      default.getD [] = [] ∧ (ofDefault default).holds = false := by
  rcases default with _ | _ | ⟨u, t⟩
  · exact .inr ⟨rfl, rfl⟩
  · exact .inr ⟨rfl, rfl⟩
  · exact .inl ⟨_, nofun, rfl, rfl⟩

/-- The message of a value is a text if the value is an error with such a message, and otherwise if
there is a default or the value has a JSON text. -/
theorem message_text_iff (v : Value) (default : Option Text) :
    (∃ t, v.message (ofDefault default) = .ok (.string t)) ↔
      (∃ f t, v = .fault f ∧ f.message = .string t) ∨
        (∀ f, v ≠ .fault f) ∧
          (default.getD [] ≠ [] ∨ ¬v.Unwritable ∧ v.denotesNothing = false) := by
  rcases v.kinds with ⟨f, rfl⟩ | ⟨t, rfl⟩ | ⟨hf, ht⟩
  · simp [message]
  · simp [message, not_unwritable_string, denotesNothing]
  · rw [message_of_ne hf ht, ← jsonText?_text_iff]
    rcases ofDefault_cases default with ⟨t, hd, hdefault, hholds⟩ | ⟨hd, hholds⟩
    · simp [hdefault, hholds, hd, hf]
    · rcases v.jsonText? with e | _ | t <;> simp [hholds, hd, hf]

/-- Asking for the message of a value raises an error if the value is not one itself, there is no
default, and the value cannot be written. -/
theorem raises_message_iff (v : Value) (default : Option Text) :
    Raises (v.message (ofDefault default)) ↔
      (∀ f, v ≠ .fault f) ∧ default.getD [] = [] ∧ v.Unwritable := by
  rcases v.kinds with ⟨f, rfl⟩ | ⟨t, rfl⟩ | ⟨hf, ht⟩
  · simp [message, not_raises_ok]
  · simp [message, not_unwritable_string, not_raises_ok]
  · rw [message_of_ne hf ht]
    rcases ofDefault_cases default with ⟨t, hd, hdefault, hholds⟩ | ⟨hd, hholds⟩
    · simp [hdefault, hholds, hd, not_raises_ok]
    · rw [hholds, if_neg Bool.false_ne_true, raises_bind_pure_iff, raises_jsonText?_iff]
      simp [hf, hd]

/-- What cannot be written denotes something. -/
theorem Unwritable.denotesNothing_eq_false {v : Value} (h : v.Unwritable) :
    v.denotesNothing = false := by
  cases h with
  | member hown hv h => rw [denotesNothing, hown]
  | holder hinside => cases hinside
  | _ => rfl

/-- A value contributes a text to a line if it denotes something and has a JSON text or a plain
one. -/
theorem segment?_text_iff (v : Value) :
    (∃ t, Log.segment? v = .ok (some t)) ↔
      v.denotesNothing = false ∧ ¬(v.Unwritable ∧ v.Unshowable) := by
  by_cases hstring : ∃ t, v = .string t
  · obtain ⟨t, rfl⟩ := hstring
    simp [Log.segment?, denotesNothing, not_unwritable_string]
  rw [segment?_of_ne (not_exists.mp hstring)]
  cases hj : v.jsonText? with
  | error e =>
    have hunwritable : v.Unwritable := (raises_jsonText?_iff v).mp ⟨e, hj⟩
    simp only [hunwritable, hunwritable.denotesNothing_eq_false, true_and, ← raises_text_iff]
    cases v.text with
    | error e => simp [Except.map, raises_error]
    | ok t => simp [Except.map, not_raises_ok]
  | ok t =>
    have hwritable : ¬v.Unwritable := by
      rw [← raises_jsonText?_iff, hj]
      exact not_raises_ok t
    simpa [hj, hwritable] using jsonText?_text_iff v

/-- A value breaks a line if it has neither a JSON text nor a plain one. -/
theorem raises_segment?_iff (v : Value) :
    Raises (Log.segment? v) ↔ v.Unwritable ∧ v.Unshowable := by
  by_cases hstring : ∃ t, v = .string t
  · obtain ⟨t, rfl⟩ := hstring
    simp [Log.segment?, not_raises_ok, not_unwritable_string]
  rw [segment?_of_ne (not_exists.mp hstring), ← raises_jsonText?_iff, ← raises_text_iff]
  cases v.jsonText? with
  | error e =>
    rw [raises_map_iff]
    exact (and_iff_right (raises_error e)).symm
  | ok t => exact iff_of_false (not_raises_ok t) fun h => not_raises_ok t h.1

/-- A value becomes an error if it is one or can be written. -/
theorem raises_toFault_iff (v : Value) (stack : Text) :
    Raises (v.toFault stack) ↔ (∀ f, v ≠ .fault f) ∧ v.Unwritable := by
  rcases v.kinds with ⟨f, rfl⟩ | ⟨t, rfl⟩ | ⟨hf, ht⟩
  · simp [toFault, not_raises_ok]
  · simp [toFault, not_unwritable_string, not_raises_ok]
  · rw [toFault_of_ne hf ht, raises_map_iff, raises_jsonText?_iff]
    exact (and_iff_right hf).symm

/-- The error for a value says what the value says if the value is an error or has a JSON text. -/
theorem toFault_message_iff (v : Value) (stack : Text) :
    (∃ f, v.toFault stack = .ok f ∧ (fault f).message undefined = v.message undefined) ↔
      (∃ f, v = .fault f) ∨ ¬v.Unwritable ∧ v.denotesNothing = false := by
  rcases v.kinds with ⟨f, rfl⟩ | ⟨t, rfl⟩ | ⟨hf, ht⟩
  · simp [toFault]
  · simp [toFault, message, Fault.message, not_unwritable_string, denotesNothing]
  · rw [toFault_of_ne hf ht, message_of_ne hf ht, ← jsonText?_text_iff]
    rcases v.jsonText? with e | _ | t
    · simp [hf, Except.map]
    · simp [hf, Except.map, message, Fault.message, holds]
    · simp [hf, Except.map, message, Fault.message, holds]

/-- When the message, the log segment and the error of a value are what they are to be, and when
there is none. An error always has a message, which is a text unless an error of the library was
built with something else. Of the other values those that cannot be written have neither a message,
unless there is a default, nor an error, and a log segment only if they have a plain text. The
undefined value has neither a text for a message, unless there is a default, nor a segment, and the
error for it says something else than itself. All other values are reported by texts. -/
theorem reports_iff (v : Value) (default : Option Text) (stack : Text) :
    ((∃ t, v.message (ofDefault default) = .ok (.string t)) ↔
      (∃ f t, v = .fault f ∧ f.message = .string t) ∨
        (∀ f, v ≠ .fault f) ∧
          (default.getD [] ≠ [] ∨ ¬v.Unwritable ∧ v.denotesNothing = false)) ∧
    (Raises (v.message (ofDefault default)) ↔
      (∀ f, v ≠ .fault f) ∧ default.getD [] = [] ∧ v.Unwritable) ∧
    ((∃ t, Log.segment? v = .ok (some t)) ↔
      v.denotesNothing = false ∧ ¬(v.Unwritable ∧ v.Unshowable)) ∧
    (Raises (Log.segment? v) ↔ v.Unwritable ∧ v.Unshowable) ∧
    (Raises (v.toFault stack) ↔ (∀ f, v ≠ .fault f) ∧ v.Unwritable) ∧
    ((∃ f, v.toFault stack = .ok f ∧ (fault f).message undefined = v.message undefined) ↔
      (∃ f, v = .fault f) ∨ ¬v.Unwritable ∧ v.denotesNothing = false) :=
  ⟨message_text_iff v default, raises_message_iff v default, segment?_text_iff v,
    raises_segment?_iff v, raises_toFault_iff v stack, toFault_message_iff v stack⟩

/-- A big integer has neither a message nor an error, and next to a conversion to text it has no
segment either. The undefined value has no segment, and its message is none. -/
theorem reports_of_bigint :
    (Value.bigint 1).message undefined = .error .bigIntegerInJson ∧
    (Value.bigint 1).toFault [] = .error .bigIntegerInJson ∧
    Log.segment? (.object [("b", .bigint 1), ("toString", .number (.ofNat 1))]) =
      .error .noText ∧
    Value.undefined.message undefined = .ok undefined ∧
    Log.segment? undefined = .ok none ∧
    Value.undefined.toFault [] = .ok (.plain "Error" [] []) :=
  ⟨rfl, rfl, rfl, rfl, rfl, rfl⟩

end Value
end ConfigClient
