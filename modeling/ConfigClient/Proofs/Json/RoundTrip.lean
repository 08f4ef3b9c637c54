import ConfigClient.Proofs.Json.Tokens

/-!
# Reading back what was printed

The reader takes the tokens of a legible value one after another and ends with that value: an array
gives its items back in order, and an object its members, each new one at the end.

* `Reads`: a reader takes tokens and goes from one state to another.
* `reads_items`, `reads_members`: the inside of an array and of an object.
* `reads_value`: the tokens of a value put that value where one was awaited.
* `parse?_render`: a legible value is read back from its text.
-/

namespace ConfigClient

namespace Json

open Token Reader

/-! ## Runs of the reader -/

/-- Whether the tokens lead a reader from one state to another. -/
def Reads (r : Reader) (ts : List Token) (r' : Reader) : Prop := ts.foldlM step r = some r'

theorem Reads.single {r r' : Reader} {t : Token} (h : r.step t = some r') : Reads r [t] r' := by
  rw [Reads, List.foldlM_cons, h]
  rfl

theorem Reads.append {r r' r'' : Reader} {ts ts' : List Token} (h : Reads r ts r')
    (h' : Reads r' ts' r'') : Reads r (ts ++ ts') r'' := by
  rw [Reads, List.foldlM_append, h]
  exact h'

theorem Reads.cons {r r' r'' : Reader} {t : Token} {ts : List Token} (h : r.step t = some r')
    (h' : Reads r' ts r'') : Reads r (t :: ts) r'' := (Reads.single h).append h'

/-- Whether a reader awaits a value that belongs on the stack. It may be ready for the end of an
array instead. -/
def AwaitsValue (r : Reader) (stack : List Frame) : Prop :=
  ∀ t ≠ .arrayClose, r.step t = begin stack t

theorem awaitsValue_value (stack : List Frame) : AwaitsValue (.value stack) stack := by
  intro t _
  rfl

theorem awaitsValue_firstItem (stack : List Frame) :
    AwaitsValue (.firstItem stack) (.array [] :: stack) := by
  intro t ht
  cases t with
  | arrayClose => exact absurd rfl ht
  | _ => rfl

/-- Whether a reader awaits the key of a further member. -/
def AwaitsKey (r : Reader) (members : Members Json) (stack : List Frame) : Prop :=
  ∀ k, r.step (.string k) = some (.colon members k stack)

/-- Whether the tokens of a value are read as that value wherever one is awaited. -/
def ReadsAs (j : Json) : Prop :=
  ∀ r stack, AwaitsValue r stack → Reads r (tokens j) (supply j stack)

/-! ## Inside arrays and objects -/

theorem reads_items {v : Json} {items : List Json} (h : ∀ j ∈ v :: items, ReadsAs j) :
    ∀ r done stack, AwaitsValue r (.array done :: stack) →
      Reads r (itemTokens (v :: items)) (.afterItem ((v :: items).reverse ++ done) stack) := by
  induction items generalizing v with
  | nil =>
    intro r done stack hr
    exact h v List.mem_cons_self r _ hr
  | cons w rest ih =>
    intro r done stack hr
    have hv : Reads r (tokens v) (.afterItem (v :: done) stack) := h v List.mem_cons_self r _ hr
    have hcomma : (Reader.afterItem (v :: done) stack).step .comma =
        some (.value (.array (v :: done) :: stack)) := rfl
    have hrest := ih (fun j hj => h j (List.mem_cons_of_mem _ hj)) _ (v :: done) stack
      (awaitsValue_value _)
    have heq : (w :: rest).reverse ++ v :: done = (v :: w :: rest).reverse ++ done := by simp
    rw [heq] at hrest
    exact hv.append (Reads.cons hcomma hrest)

/-- One member whose key comes last in the order. -/
theorem reads_member {k : Text} {v : Json} (hv : ReadsAs v) {r : Reader} {done : Members Json}
    {stack : List Frame} (hr : AwaitsKey r done stack)
    (ordered : Members.Ordered (done ++ [(k, v)])) :
    Reads r (.string k :: .colon :: tokens v) (.afterMember (done ++ [(k, v)]) stack) := by
  have hcolon : (Reader.colon done k stack).step .colon =
      some (.value (.object done k :: stack)) := rfl
  have hvalue := hv _ _ (awaitsValue_value (.object done k :: stack))
  rw [supply, Members.insert_of_ordered ordered] at hvalue
  exact Reads.cons (hr k) (Reads.cons hcolon hvalue)

theorem reads_members {m : Text × Json} {members : List (Text × Json)}
    (h : ∀ n ∈ m :: members, ReadsAs n.2) :
    ∀ r done stack, AwaitsKey r done stack → Members.Ordered (done ++ m :: members) →
      Reads r (memberTokens (m :: members)) (.afterMember (done ++ m :: members) stack) := by
  induction members generalizing m with
  | nil =>
    intro r done stack hr ordered
    exact reads_member (h m List.mem_cons_self) hr ordered
  | cons n rest ih =>
    intro r done stack hr ordered
    have heq : done ++ m :: n :: rest = (done ++ [m]) ++ n :: rest := by simp
    rw [heq] at ordered ⊢
    have hm := reads_member (h m List.mem_cons_self) hr (List.pairwise_append.1 ordered).1
    have hcomma : (Reader.afterMember (done ++ [m]) stack).step .comma =
        some (.key (done ++ [m]) stack) := rfl
    have hrest := ih (fun j hj => h j (List.mem_cons_of_mem _ hj)) (.key (done ++ [m]) stack)
      (done ++ [m]) stack (fun k => rfl) ordered
    exact hm.append (Reads.cons hcomma hrest)

/-! ## Values -/

theorem readsAs_array {items : List Json} (h : ∀ j ∈ items, ReadsAs j) :
    ReadsAs (array items) := by
  intro r stack hr
  have hopen : r.step .arrayOpen = some (.firstItem stack) := hr _ nofun
  cases items with
  | nil => exact Reads.cons hopen (Reads.single rfl)
  | cons v items =>
    have hitems := reads_items h _ [] stack (awaitsValue_firstItem stack)
    have hclose : (Reader.afterItem ((v :: items).reverse ++ []) stack).step .arrayClose =
        some (supply (.array (v :: items)) stack) := by
      rw [List.append_nil, step, List.reverse_reverse]
    exact (Reads.cons hopen hitems).append (Reads.single hclose)

theorem readsAs_object {members : List (Text × Json)} (ordered : Members.Ordered members)
    (h : ∀ m ∈ members, ReadsAs m.2) : ReadsAs (object members) := by
  intro r stack hr
  have hopen : r.step .objectOpen = some (.firstKey stack) := hr _ nofun
  cases members with
  | nil => exact Reads.cons hopen (Reads.single rfl)
  | cons m members =>
    have hmembers := reads_members h (.firstKey stack) [] stack (fun k => rfl) ordered
    exact (Reads.cons hopen hmembers).append (Reads.single rfl)

theorem reads_value {j : Json} (hj : Legible j) : ReadsAs j := by
  induction hj with
  | null =>
    intro r stack hr
    exact Reads.single (hr _ nofun)
  | bool b =>
    intro r stack hr
    cases b <;> exact Reads.single (hr _ nofun)
  | @number x h =>
    intro r stack hr
    have hword : r.step (.word (renderNumber x)) = some (supply (number x) stack) := by
      rw [hr (.word (renderNumber x)) nofun, begin, h.2]
      rfl
    exact Reads.single hword
  | string t =>
    intro r stack hr
    exact Reads.single (hr _ nofun)
  | array h ih => exact readsAs_array ih
  | object ordered h ih => exact readsAs_object ordered ih

/-- A legible value is read back from its text. -/
theorem parse?_render {j : Json} (hj : Legible j) : parse? (render j) = some j := by
  have hreads : (tokens j).foldlM step (.value []) = some (.finished j) :=
    reads_value hj _ _ (awaitsValue_value [])
  simp only [parse?, ofTokens?, scan_render hj, hreads, Option.bind_eq_bind, Option.bind_some,
    result?]

end Json

end ConfigClient
