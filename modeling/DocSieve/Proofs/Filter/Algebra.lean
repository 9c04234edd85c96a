-- SUMMARY: How the operators of one field relate to each other on a document, and that none of them holds of a value that is missing or of another type.
import DocSieve.Proofs.Filter.Meaning

/-!
# Algebra of operators

The operators of an ordered type all compare the stored value with bounds in
one linear order, so they are related as the relations of that order are. The
operators on texts are related as equality, prefix, suffix and part. What is
missing or of another type is out of reach of all operators, also of the
negated one.
-/

namespace DocSieve

open Json

/-- The clause that has this operator and these operands on a field compiles,
and `b` is whether it lets a document through. -/
def Registry.Tells (r : Registry) (entity field : String) (document : Value) (op : Operator)
    (value : String) (other : Option String) (b : Bool) : Prop :=
  (·.admits document) <$> Clause.compile r entity ⟨field, some op, some value, other⟩ = .ok b

variable {r : Registry} {entity field : String} {names : List String} {t : FieldType}
  {document : Value} {op : Operator} {value : String} {other : Option String} {b : Bool}

theorem Clause.reads_of_compile {c : Clause} {k : Condition} (hdot : Dotted c.field names)
    (ht : r.Declares entity names t) (hv : c.value = some value)
    (h : c.compile r entity = .ok k) : t.Reads value := by
  obtain ⟨op, value', t', hchecked, hreads⟩ := Clause.compile_ok_iff.mp ⟨k, h⟩
  obtain ⟨names', hdot', -, ht'⟩ := hchecked.declared
  cases hdot.unique hdot'
  cases ht.unique ht'
  cases hv.symm.trans hchecked.value_eq
  apply hreads
  simp [Operator.operands]

/-- What a clause tells is whether the stored value stands to the operands as
the operator says. -/
theorem Registry.Tells.iff_relates (hdot : Dotted field names) (ht : r.Declares entity names t)
    (h : r.Tells entity field document op value other b) :
    b = true ↔ ∃ x, FieldPath.Reaches document names x ∧ t.Relates op value other x := by
  obtain ⟨k, hk, rfl⟩ := Except.map_eq_ok_iff.mp h
  rw [Clause.compile_admits_iff hk]
  exact Clause.metBy_iff hdot ht rfl rfl

/-! ## Stored values -/

/-- A value of a type that filters are made for. -/
def FieldType.Stores (t : FieldType) (x : Value) : Prop :=
  match t with
  | .text => ∃ s, x = .string s
  | .integerId => ∃ n, x = .int n ∧ (-2 ^ 63 ≤ n ∧ n < 2 ^ 63)
  | .timestamp => ∃ s i, x = .string s ∧ Stamp.stored? s = some i
  | .bool | .float | .object _ => False

/-- An operator relates values of the type to its operands, and no others. -/
theorem FieldType.Relates.stores {x : Value} (h : t.Relates op value other x) : t.Stores x := by
  cases t with
  | text =>
    obtain ⟨s, hs, -⟩ := h
    exact ⟨s, hs⟩
  | integerId =>
    obtain ⟨n, low, hn, hrange, -⟩ := h
    exact ⟨n, hn, hrange⟩
  | timestamp =>
    obtain ⟨s, i, low, hs, hi, -⟩ := h
    exact ⟨s, i, hs, Stamp.stored_eq_some_iff.mpr hi⟩
  | bool | float | object => exact h

/-- The signed 64-bit integer that the names lead to. -/
def storedInteger (names : List String) (document : Value) : Option Int :=
  (FieldPath.follow names document).bind Value.int64?

/-- The instant that the names lead to. -/
def storedInstant (names : List String) (document : Value) : Option Instant :=
  (FieldPath.follow names document).bind Value.instant?

theorem storedInteger_eq_some_iff {n : Int} :
    storedInteger names document = some n ↔
      FieldPath.Reaches document names (.int n) ∧ (-2 ^ 63 ≤ n ∧ n < 2 ^ 63) := by
  simp only [storedInteger, Option.bind_eq_some_iff, FieldPath.reaches_iff_follow,
    Value.int64?_eq_some_iff]
  constructor
  · rintro ⟨x, hx, rfl, hrange⟩
    exact ⟨hx, hrange⟩
  · rintro ⟨hx, hrange⟩
    exact ⟨_, hx, rfl, hrange⟩

theorem storedInstant_eq_some_iff {i : Instant} :
    storedInstant names document = some i ↔
      ∃ s, FieldPath.Reaches document names (.string s) ∧ Stamp.stored? s = some i := by
  simp only [storedInstant, Value.instant?, Option.bind_eq_some_iff, FieldPath.reaches_iff_follow,
    Value.text?_eq_some_iff]
  constructor
  · rintro ⟨x, hx, s, rfl, hs⟩
    exact ⟨s, hx, hs⟩
  · rintro ⟨s, hx, hs⟩
    exact ⟨_, hx, s, rfl, hs⟩

/-- No operator lets a document through that does not store a value of the
type. -/
theorem Registry.Tells.eq_false (hdot : Dotted field names) (ht : r.Declares entity names t)
    (hstores : ¬ ∃ x, FieldPath.Reaches document names x ∧ t.Stores x)
    (h : r.Tells entity field document op value other b) : b = false := by
  apply Bool.eq_false_iff.mpr
  intro hb
  obtain ⟨x, hx, hrel⟩ := (h.iff_relates hdot ht).mp hb
  exact hstores ⟨x, hx, hrel.stores⟩

/-! ## Comparing -/

/-- The clauses on a field compare what `stored` finds in a document with what
`read` makes of their operands. -/
def Registry.ComparesBy {α : Type} [LinearOrder α] (r : Registry) (entity field : String)
    (stored : Value → Option α) (read : String → Option α) : Prop :=
  ∀ op value other k, Clause.compile r entity ⟨field, some op, some value, other⟩ = .ok k →
    ∃ low, read value = some low ∧ ∀ document, k.admits document = true ↔
      ∃ a, stored document = some a ∧ op.RelatesOrder a low (other.bind read)

/-- An operand as an integer. -/
def readInteger (operand : String) : Option Int := (Text.int64 operand).toOption

/-- An operand as an instant. -/
def readInstant (operand : String) : Option Instant := (Stamp.operand operand).toOption

theorem Registry.comparesBy_integer (hdot : Dotted field names)
    (ht : r.Declares entity names .integerId) :
    r.ComparesBy entity field (storedInteger names) readInteger := by
  intro op value other k hk
  obtain ⟨low, hlow⟩ := Clause.reads_of_compile hdot ht rfl hk
  refine ⟨low, Except.toOption_eq_some_iff.mpr hlow, ?_⟩
  intro d
  rw [Clause.compile_admits_iff hk, Clause.metBy_iff hdot ht rfl rfl]
  constructor
  · rintro ⟨x, hx, n, low', rfl, hrange, hlow', hrel⟩
    cases hlow.symm.trans hlow'
    exact ⟨n, storedInteger_eq_some_iff.mpr ⟨hx, hrange⟩, hrel⟩
  · rintro ⟨n, hn, hrel⟩
    obtain ⟨hx, hrange⟩ := storedInteger_eq_some_iff.mp hn
    exact ⟨_, hx, n, low, rfl, hrange, hlow, hrel⟩

theorem Registry.comparesBy_instant (hdot : Dotted field names)
    (ht : r.Declares entity names .timestamp) :
    r.ComparesBy entity field (storedInstant names) readInstant := by
  intro op value other k hk
  obtain ⟨low, hlow⟩ := Clause.reads_of_compile hdot ht rfl hk
  refine ⟨low, Except.toOption_eq_some_iff.mpr hlow, ?_⟩
  intro d
  rw [Clause.compile_admits_iff hk, Clause.metBy_iff hdot ht rfl rfl]
  constructor
  · rintro ⟨x, hx, s, i, low', rfl, hi, hlow', hrel⟩
    cases hlow.symm.trans hlow'
    exact ⟨i, storedInstant_eq_some_iff.mpr ⟨s, hx, Stamp.stored_eq_some_iff.mpr hi⟩, hrel⟩
  · rintro ⟨i, hi, hrel⟩
    obtain ⟨s, hx, hs⟩ := storedInstant_eq_some_iff.mp hi
    exact ⟨_, hx, s, i, low, rfl, Stamp.stored_eq_some_iff.mp hs, hlow, hrel⟩

section Comparing

variable {α : Type} [LinearOrder α] {stored : Value → Option α} {read : String → Option α} {a : α}

theorem Registry.ComparesBy.tells (h : r.ComparesBy entity field stored read)
    (ha : stored document = some a) (hs : r.Tells entity field document op value other b) :
    ∃ low, read value = some low ∧ (b = true ↔ op.RelatesOrder a low (other.bind read)) := by
  obtain ⟨k, hk, rfl⟩ := Except.map_eq_ok_iff.mp hs
  obtain ⟨low, hlow, hadmits⟩ := h op value other k hk
  refine ⟨low, hlow, ?_⟩
  rw [hadmits, ha]
  simp

/-! ## Laws of ordered types -/

/-- Of two elements of a linear order exactly one comparison holds. -/
theorem count_true_eq_one {m : α} {e l g : Bool} (he : e = true ↔ a = m) (hl : l = true ↔ a < m)
    (hg : g = true ↔ m < a) : [e, l, g].count true = 1 := by
  rcases lt_trichotomy a m with hlt | heq | hgt
  · have hle : l = true := hl.mpr hlt
    have hne : e = false := Bool.eq_false_iff.mpr (mt he.mp hlt.ne)
    have hng : g = false := Bool.eq_false_iff.mpr (mt hg.mp hlt.not_gt)
    rw [hle, hne, hng]
    rfl
  · have heq' : e = true := he.mpr heq
    have hnl : l = false := Bool.eq_false_iff.mpr (mt hl.mp heq.not_lt)
    have hng : g = false := Bool.eq_false_iff.mpr (mt hg.mp heq.not_gt)
    rw [heq', hnl, hng]
    rfl
  · have hge : g = true := hg.mpr hgt
    have hne : e = false := Bool.eq_false_iff.mpr (mt he.mp hgt.ne')
    have hnl : l = false := Bool.eq_false_iff.mpr (mt hl.mp hgt.not_gt)
    rw [hge, hne, hnl]
    rfl

/-- How the operators of an ordered type are related on one document. `tells`
is what the clause of an operator with its operands tells of the document, and
`read` reads an operand. -/
structure OrderLaws (read : String → Option α)
    (tells : Operator → String → Option String → Bool → Prop) : Prop where
  /-- Exactly one of the three comparisons with an operand holds. -/
  one : ∀ {v w₁ w₂ w₃ e l g}, tells .equals v w₁ e → tells .lessThan v w₂ l →
    tells .greaterThan v w₃ g → [e, l, g].count true = 1
  notEquals : ∀ {v w₁ w₂ e n}, tells .equals v w₁ e → tells .notEquals v w₂ n → n = !e
  between : ∀ {v w w₁ w₂ l g b}, tells .lessThan v w₁ l → tells .greaterThan w w₂ g →
    tells .between v (some w) b → b = (!l && !g)
  between_above : ∀ {v w low high b}, read v = some low → read w = some high → high < low →
    tells .between v (some w) b → b = false
  between_same : ∀ {v w w₁ e b}, read v = read w → tells .equals v w₁ e →
    tells .between v (some w) b → b = e

theorem Registry.ComparesBy.orderLaws (h : r.ComparesBy entity field stored read)
    (ha : stored document = some a) : OrderLaws read (r.Tells entity field document) where
  one := by
    intro v _ _ _ e l g he hl hg
    -- the three operands are one text, so the three bounds are one
    obtain ⟨m, hm, he⟩ := h.tells ha he
    obtain ⟨m₂, hm₂, hl⟩ := h.tells ha hl
    obtain ⟨m₃, hm₃, hg⟩ := h.tells ha hg
    cases hm.symm.trans hm₂
    cases hm.symm.trans hm₃
    exact count_true_eq_one he hl hg
  notEquals := by
    intro v _ _ e n he hn
    obtain ⟨m, hm, he⟩ := h.tells ha he
    obtain ⟨m₂, hm₂, hn⟩ := h.tells ha hn
    cases hm.symm.trans hm₂
    simp only [Operator.RelatesOrder] at he hn
    rw [Bool.eq_iff_iff, hn, Bool.not_eq_true', ← Bool.not_eq_true, he]
  between := by
    intro v w _ _ l g b hl hg hb
    obtain ⟨low, hlow, hl⟩ := h.tells ha hl
    obtain ⟨high, hhigh, hg⟩ := h.tells ha hg
    obtain ⟨low', hlow', hb⟩ := h.tells ha hb
    cases hlow.symm.trans hlow'
    simp only [Operator.RelatesOrder, Option.bind_some, hhigh] at hl hg hb
    rw [Bool.eq_iff_iff, hb, Bool.and_eq_true, Bool.not_eq_true', Bool.not_eq_true',
      ← Bool.not_eq_true, ← Bool.not_eq_true, hl, hg]
    simp
  between_above := by
    intro v w low high b hlow hhigh hlt hb
    obtain ⟨low', hlow', hb⟩ := h.tells ha hb
    cases hlow.symm.trans hlow'
    simp only [Operator.RelatesOrder, Option.bind_some, hhigh] at hb
    apply Bool.eq_false_iff.mpr
    intro htrue
    obtain ⟨hle, high', hhigh', hle'⟩ := hb.mp htrue
    cases hhigh'
    exact absurd (hle.trans hle') hlt.not_ge
  between_same := by
    intro v w _ e b hsame he hb
    obtain ⟨m, hm, he⟩ := h.tells ha he
    obtain ⟨m', hm', hb⟩ := h.tells ha hb
    cases hm.symm.trans hm'
    simp only [Operator.RelatesOrder, Option.bind_some, ← hsame, hm] at he hb
    rw [Bool.eq_iff_iff, hb, he]
    constructor
    · rintro ⟨hle, high, hhigh, hge⟩
      cases hhigh
      exact le_antisymm hge hle
    · rintro rfl
      exact ⟨le_rfl, a, rfl, le_rfl⟩

end Comparing

/-! ## Laws of leap seconds -/

/-- What the operators tell of a document that stores a leap second: it is equal
to nothing that a filter can give, behind the second that it belongs to and
before the next one. -/
structure LeapLaws (i : Instant) (tells : Operator → String → Option String → Bool → Prop) :
    Prop where
  equals : ∀ {v w e}, tells .equals v w e → e = false
  greaterThan : ∀ {v w j g}, Stamp.operand v = .ok j → tells .greaterThan v w g →
    g = decide (j.seconds ≤ i.seconds)
  lessThan : ∀ {v w j l}, Stamp.operand v = .ok j → tells .lessThan v w l →
    l = decide (i.seconds < j.seconds)

theorem readInstant_eq_some_iff {v : String} {j : Instant} :
    readInstant v = some j ↔ Stamp.operand v = .ok j :=
  Except.toOption_eq_some_iff

theorem Registry.leapLaws {i : Instant} {stored : Value → Option Instant}
    (h : r.ComparesBy entity field stored readInstant) (hi : stored document = some i)
    (hleap : i.isLeap = true) : LeapLaws i (r.Tells entity field document) where
  equals := by
    intro v w e he
    obtain ⟨j, hj, he⟩ := h.tells hi he
    apply Bool.eq_false_iff.mpr
    intro htrue
    cases he.mp htrue
    cases hleap.symm.trans (Stamp.isLeap_of_operand (readInstant_eq_some_iff.mp hj))
  greaterThan := by
    intro v w j g hj hg
    obtain ⟨j', hj', hg⟩ := h.tells hi hg
    cases hj.symm.trans (readInstant_eq_some_iff.mp hj')
    rw [Bool.eq_iff_iff, hg, decide_eq_true_iff]
    exact Instant.lt_leap_iff hleap (Stamp.isLeap_of_operand hj)
  lessThan := by
    intro v w j l hj hl
    obtain ⟨j', hj', hl⟩ := h.tells hi hl
    cases hj.symm.trans (readInstant_eq_some_iff.mp hj')
    rw [Bool.eq_iff_iff, hl, decide_eq_true_iff]
    exact Instant.leap_lt_iff hleap (Stamp.isLeap_of_operand hj)

/-! ## Laws of texts -/

/-- How the operators on texts are related on one document. -/
structure TextLaws (tells : Operator → String → Option String → Bool → Prop) : Prop where
  notEquals : ∀ {v w₁ w₂ e n}, tells .equals v w₁ e → tells .notEquals v w₂ n → n = !e
  startsWith_of_equals : ∀ {v w₁ w₂ b}, tells .equals v w₁ true → tells .startsWith v w₂ b →
    b = true
  endsWith_of_equals : ∀ {v w₁ w₂ b}, tells .equals v w₁ true → tells .endsWith v w₂ b → b = true
  contains_of_startsWith : ∀ {v w₁ w₂ b}, tells .startsWith v w₁ true → tells .contains v w₂ b →
    b = true
  contains_of_endsWith : ∀ {v w₁ w₂ b}, tells .endsWith v w₁ true → tells .contains v w₂ b →
    b = true

theorem Registry.Tells.iff_relatesText {s : String} (hdot : Dotted field names)
    (ht : r.Declares entity names .text) (hs : FieldPath.Reaches document names (.string s))
    (h : r.Tells entity field document op value other b) :
    b = true ↔ op.RelatesText (Text.lower s) (Text.lower value) := by
  rw [h.iff_relates hdot ht]
  constructor
  · rintro ⟨x, hx, s', rfl, hrel⟩
    rw [FieldPath.reaches_iff_follow] at hs hx
    cases hs.symm.trans hx
    exact hrel
  · intro hrel
    exact ⟨.string s, hs, s, rfl, hrel⟩

theorem Registry.textLaws {s : String} (hdot : Dotted field names)
    (ht : r.Declares entity names .text) (hs : FieldPath.Reaches document names (.string s)) :
    TextLaws (r.Tells entity field document) where
  notEquals := by
    intro v _ _ e n he hn
    replace he := he.iff_relatesText hdot ht hs
    replace hn := hn.iff_relatesText hdot ht hs
    simp only [Operator.RelatesText] at he hn
    rw [Bool.eq_iff_iff, hn, Bool.not_eq_true', ← Bool.not_eq_true, he]
  startsWith_of_equals := by
    intro v _ _ b he hb
    have heq : Text.lower s = Text.lower v := (he.iff_relatesText hdot ht hs).mp rfl
    exact (hb.iff_relatesText hdot ht hs).mpr ⟨"", by simpa using heq⟩
  endsWith_of_equals := by
    intro v _ _ b he hb
    have heq : Text.lower s = Text.lower v := (he.iff_relatesText hdot ht hs).mp rfl
    exact (hb.iff_relatesText hdot ht hs).mpr ⟨"", by simpa using heq⟩
  contains_of_startsWith := by
    intro v _ _ b he hb
    obtain ⟨after, heq⟩ := (he.iff_relatesText hdot ht hs).mp rfl
    exact (hb.iff_relatesText hdot ht hs).mpr ⟨"", after, by simpa using heq⟩
  contains_of_endsWith := by
    intro v _ _ b he hb
    obtain ⟨before, heq⟩ := (he.iff_relatesText hdot ht hs).mp rfl
    exact (hb.iff_relatesText hdot ht hs).mpr ⟨before, "", by simpa using heq⟩

/-! ## All types -/

/-- **The algebra of operators.** On a document that stores a value of the
declared type, the operators of the type are related as order and text demand,
leap seconds included. On any other document no operator holds: the value may
be missing, null, of another type, or below something that is no object. -/
theorem Registry.operator_algebra (hdot : Dotted field names) (ht : r.Declares entity names t)
    (document : Value) :
    (∀ x, FieldPath.Reaches document names x → t.Stores x →
      (t = .integerId → OrderLaws readInteger (r.Tells entity field document)) ∧
      (t = .timestamp → OrderLaws readInstant (r.Tells entity field document)) ∧
      (t = .text → TextLaws (r.Tells entity field document))) ∧
    (t = .timestamp → ∀ s i, FieldPath.Reaches document names (.string s) →
      Stamp.stored? s = some i → i.isLeap = true → LeapLaws i (r.Tells entity field document)) ∧
    ((¬ ∃ x, FieldPath.Reaches document names x ∧ t.Stores x) →
      ∀ op value other b, r.Tells entity field document op value other b → b = false) := by
  refine ⟨?stores, ?leap, ?other⟩
  case stores =>
    intro x hx hstores
    refine ⟨?_, ?_, ?_⟩
    · rintro rfl
      obtain ⟨n, rfl, hrange⟩ := hstores
      exact (comparesBy_integer hdot ht).orderLaws (storedInteger_eq_some_iff.mpr ⟨hx, hrange⟩)
    · rintro rfl
      obtain ⟨s, i, rfl, hi⟩ := hstores
      exact (comparesBy_instant hdot ht).orderLaws (storedInstant_eq_some_iff.mpr ⟨s, hx, hi⟩)
    · rintro rfl
      obtain ⟨s, rfl⟩ := hstores
      exact textLaws hdot ht hx
  case leap =>
    rintro rfl s i hs hi hleap
    exact leapLaws (comparesBy_instant hdot ht) (storedInstant_eq_some_iff.mpr ⟨s, hs, hi⟩) hleap
  case other =>
    intro hstores op value other b h
    exact h.eq_false hdot ht hstores

/-- A login half a second into a leap second, on a clock five hours behind. -/
theorem Registry.operator_algebra_leap :
    let r : Registry := ⟨[⟨"logins", none, [("last", .object [("at", .timestamp)])]⟩]⟩
    let document : Value := .object [("last", .object [("at", .string "2016-12-31T18:59:60.5-05:00")])]
    let tells := r.Tells "logins" "last.at" document
    tells .equals "2016-12-31T23:59:59" none false ∧
    tells .greaterThan "2016-12-31T23:59:59.999999Z" none true ∧
    tells .lessThan "2017-01-01" none true ∧
    OrderLaws readInstant tells ∧ LeapLaws ⟨1483228799, 1500000000⟩ tells := by
  intro r document tells
  have hdot : Dotted "last.at" ["last", "at"] := dotted_iff.mpr (by decide +kernel)
  have ht : r.Declares "logins" ["last", "at"] .timestamp := ⟨_, rfl, .nested rfl (.field rfl)⟩
  have hstored : Stamp.stored? "2016-12-31T18:59:60.5-05:00" = some ⟨1483228799, 1500000000⟩ := by
    decide +kernel
  have hreaches : FieldPath.Reaches document ["last", "at"] (.string "2016-12-31T18:59:60.5-05:00") :=
    .member rfl (.member rfl .here)
  obtain ⟨hstores, hleap, -⟩ := operator_algebra hdot ht document
  refine ⟨?_, ?_, ?_, (hstores _ hreaches ⟨_, _, rfl, hstored⟩).2.1 rfl,
    hleap rfl _ _ hreaches hstored rfl⟩
  · exact Except.toOption_eq_some_iff.mp (by decide +kernel)
  · exact Except.toOption_eq_some_iff.mp (by decide +kernel)
  · exact Except.toOption_eq_some_iff.mp (by decide +kernel)

end DocSieve
