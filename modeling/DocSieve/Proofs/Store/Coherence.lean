-- SUMMARY: Ordering by a field agrees with comparing it: what is less than a bound stands before what is equal to it and what is greater.
import DocSieve.Proofs.Filter.Algebra
import DocSieve.Proofs.Store.Ranking

/-!
# Ordering and comparing

Clauses compare integers and instants that they read from a document, while an
ordering compares whatever stands at its path by a sort key. The key is chosen
by the declared type, and on the values that clauses read it is the order in
which clauses compare. So a sorted result falls into what is less than a bound,
what is equal to it and what is greater.
-/

namespace DocSieve

open Json

variable {r : Registry} {entity field value : String} {names : List String} {t : FieldType}

/-! ## Sort keys -/

theorem Registry.sortKey_of_declares (hdot : Dotted field names)
    (hblank : ∀ n ∈ names, Text.isBlank n = false) (ht : r.Declares entity names t) :
    r.sortKey entity field = if t.semantic = .timestamp then .instant else .value := by
  unfold sortKey
  rw [resolveField_eq_ok_iff.mpr ⟨names, t, hdot, hblank, ht, rfl⟩]
  cases t <;> rfl

/-- The sort key puts documents in the order of what is read from them. -/
def SortKey.OrdersBy {α : Type} [LinearOrder α] (key : SortKey) (names : List String)
    (stored : Value → Option α) : Prop :=
  ∀ {d e : Value} {a b : α}, stored d = some a → stored e = some b →
    key.order (FieldPath.follow names d) (FieldPath.follow names e) = compare a b

theorem SortKey.value_ordersBy_integer : SortKey.value.OrdersBy names (storedInteger names) := by
  intro d e m n hm hn
  obtain ⟨hd, hrange⟩ := storedInteger_eq_some_iff.mp hm
  obtain ⟨he, hrange'⟩ := storedInteger_eq_some_iff.mp hn
  rw [FieldPath.reaches_iff_follow] at hd he
  rw [hd, he]
  have hint : (Value.int m).int64? = some m := Value.int64?_eq_some_iff.mpr ⟨rfl, hrange⟩
  have hint' : (Value.int n).int64? = some n := Value.int64?_eq_some_iff.mpr ⟨rfl, hrange'⟩
  exact Number.order_of_int64? hint hint'

theorem SortKey.instant_ordersBy_instant : SortKey.instant.OrdersBy names (storedInstant names) := by
  intro d e i j hi hj
  change orderMissing Instant.order (storedInstant names d) (storedInstant names e) = _
  rw [hi, hj]
  exact Instant.order_eq_compare i j

/-- Documents that store no instant come before those that do. -/
theorem SortKey.instant_order_of_none {d e : Value} {i : Instant}
    (hd : storedInstant names d = none) (he : storedInstant names e = some i) :
    SortKey.instant.order (FieldPath.follow names d) (FieldPath.follow names e) = .lt := by
  change orderMissing Instant.order (storedInstant names d) (storedInstant names e) = _
  rw [hd, he]
  rfl

/-! ## Unfiltered queries -/

/-- A request for all documents, ordered by a field. -/
structure Request.OrdersAllBy (q : Request) (field : String) (d : Direction) : Prop where
  filters : q.filters.getD [] = []
  orderBy : q.orderBy = some field
  direction : q.orderDirection.bind Direction.ofText? = some d

theorem Request.OrdersAllBy.compile {q : Request} {d : Direction} (h : q.OrdersAllBy field d)
    (hfield : field ≠ "") :
    r.compile entity q = .ok ⟨[], some ⟨field, d, r.sortKey entity field⟩⟩ := by
  apply Registry.compile_ok_iff.mpr
  refine ⟨by rw [h.filters]; rfl, ?_⟩
  have hgiven : (some field).filter (· ≠ "") = some field := by simp [hfield]
  unfold Registry.orderBy?
  rw [h.orderBy, hgiven, h.direction]
  rfl

theorem Collection.run_unfiltered (c : Collection) (sorting : Sorting) (o : OrderBy) :
    c.run sorting ⟨[], some o⟩ = o.sort sorting c.documents := by
  have hall : c.documents.filter (Query.admits ⟨[], some o⟩) = c.documents :=
    List.filter_eq_self.mpr fun _ _ => rfl
  unfold run
  rw [hall]

/-! ## Bounds -/

/-- The conditions that compare a field with one operand, each way. -/
structure Bound (r : Registry) (entity field value : String)
    (less equal greater : Condition) : Prop where
  less : ∃ other, Clause.compile r entity ⟨field, some .lessThan, some value, other⟩ = .ok less
  equal : ∃ other, Clause.compile r entity ⟨field, some .equals, some value, other⟩ = .ok equal
  greater : ∃ other,
    Clause.compile r entity ⟨field, some .greaterThan, some value, other⟩ = .ok greater

namespace Bound

variable {less equal greater : Condition} {α : Type} [LinearOrder α] {stored : Value → Option α}
  {read : String → Option α}

/-- A field that is compared with a bound is of an ordered type. -/
theorem checked (h : Bound r entity field value less equal greater) (hdot : Dotted field names)
    (ht : r.Declares entity names t) :
    field ≠ "" ∧ (∀ n ∈ names, Text.isBlank n = false) ∧ (t = .integerId ∨ t = .timestamp) := by
  obtain ⟨other, hless⟩ := h.less
  obtain ⟨op, operand, t', hchecked, -⟩ := Clause.compile_ok_iff.mp ⟨_, hless⟩
  obtain ⟨names', hdot', hblank, ht'⟩ := hchecked.declared
  cases hdot.unique hdot'
  cases ht.unique ht'
  cases hchecked.operator_eq
  refine ⟨hchecked.field_ne, hblank, ?_⟩
  have hsupported := hchecked.supported
  cases t with
  | integerId => exact .inl rfl
  | timestamp => exact .inr rfl
  | text | bool | float | object => simp [FieldType.operators] at hsupported

/-- The three conditions compare with one and the same bound. -/
theorem admits_iff (h : Bound r entity field value less equal greater)
    (hcompares : r.ComparesBy entity field stored read) :
    ∃ bound, ∀ document,
      (less.admits document = true ↔ ∃ a, stored document = some a ∧ a < bound) ∧
      (equal.admits document = true ↔ ∃ a, stored document = some a ∧ a = bound) ∧
      (greater.admits document = true ↔ ∃ a, stored document = some a ∧ bound < a) := by
  obtain ⟨_, hless⟩ := h.less
  obtain ⟨_, hequal⟩ := h.equal
  obtain ⟨_, hgreater⟩ := h.greater
  obtain ⟨bound, hbound, hless⟩ := hcompares _ _ _ _ hless
  obtain ⟨bound₂, hbound₂, hequal⟩ := hcompares _ _ _ _ hequal
  obtain ⟨bound₃, hbound₃, hgreater⟩ := hcompares _ _ _ _ hgreater
  cases hbound.symm.trans hbound₂
  cases hbound.symm.trans hbound₃
  exact ⟨bound, fun document => ⟨hless document, hequal document, hgreater document⟩⟩

/-- Sorting keeps the three sides of a bound apart. -/
theorem sort_sets (h : Bound r entity field value less equal greater)
    (hcompares : r.ComparesBy entity field stored read) {o : OrderBy} {path : FieldPath}
    {sorting : Sorting} {documents sorted : List Value}
    (hpath : FieldPath.ofText? o.field = some path)
    (hrank : o.CanRank documents) (horders : o.key.OrdersBy path.segments stored)
    (hsort : o.sort sorting documents = some sorted) :
    o.direction.Sets (less.admits ·) (equal.admits ·) sorted ∧
    o.direction.Sets (less.admits ·) (greater.admits ·) sorted ∧
    o.direction.Sets (equal.admits ·) (greater.admits ·) sorted := by
  obtain ⟨bound, hadmits⟩ := h.admits_iff hcompares
  have hlt {d e : Value} {a b : α} (ha : stored d = some a) (hb : stored e = some b)
      (hab : a < b) : o.key.order (path.lookup d) (path.lookup e) = .lt :=
    (horders ha hb).trans (compare_lt_iff_lt.mpr hab)
  refine ⟨?_, ?_, ?_⟩
  · apply OrderBy.sort_sets hpath hrank hsort
    intro d _ e _ hd he
    obtain ⟨a, ha, hlow⟩ := (hadmits d).1.mp hd
    obtain ⟨b, hb, rfl⟩ := (hadmits e).2.1.mp he
    exact hlt ha hb hlow
  · apply OrderBy.sort_sets hpath hrank hsort
    intro d _ e _ hd he
    obtain ⟨a, ha, hlow⟩ := (hadmits d).1.mp hd
    obtain ⟨b, hb, hhigh⟩ := (hadmits e).2.2.mp he
    exact hlt ha hb (hlow.trans hhigh)
  · apply OrderBy.sort_sets hpath hrank hsort
    intro d _ e _ hd he
    obtain ⟨a, ha, rfl⟩ := (hadmits d).2.1.mp hd
    obtain ⟨b, hb, hhigh⟩ := (hadmits e).2.2.mp he
    exact hlt ha hb hhigh

/-- A document is on some side of a bound exactly if there is something in it to
be compared. -/
theorem exists_admits_iff (h : Bound r entity field value less equal greater)
    (hcompares : r.ComparesBy entity field stored read) {document : Value} :
    (∃ k ∈ [less, equal, greater], k.admits document = true) ↔
      ∃ a, stored document = some a := by
  obtain ⟨bound, hadmits⟩ := h.admits_iff hcompares
  obtain ⟨hless, hequal, hgreater⟩ := hadmits document
  simp only [List.mem_cons, List.not_mem_nil, or_false, exists_eq_or_imp, exists_eq_left, hless,
    hequal, hgreater]
  constructor
  · rintro (⟨a, ha, -⟩ | ⟨a, ha, -⟩ | ⟨a, ha, -⟩) <;> exact ⟨a, ha⟩
  · rintro ⟨a, ha⟩
    rcases lt_trichotomy a bound with hlt | heq | hgt
    · exact .inl ⟨a, ha, hlt⟩
    · exact .inr (.inl ⟨a, ha, heq⟩)
    · exact .inr (.inr ⟨a, ha, hgt⟩)

end Bound

/-! ## Both together -/

/-- **Ordering agrees with comparing.** In the result of a query for all
documents ordered by a field of integers or instants, what is less than a bound
stands before what is equal to it, and both stand before what is greater; in
the other direction they stand behind it. What stores no instant stands on the
far side of what is less. -/
theorem Registry.ordering_agrees_with_comparing {less equal greater : Condition}
    (hdot : Dotted field names) (ht : r.Declares entity names t)
    (hbound : Bound r entity field value less equal greater) (c : Collection)
    (hintegers : t = .integerId → IntegersAt names c.documents) {q : Request} {d : Direction}
    (hq : q.OrdersAllBy field d) (sorting : Sorting) :
    ∃ p result, r.compile entity q = .ok p ∧ c.run sorting p = some result ∧
      result.Perm c.documents ∧
      d.Sets (less.admits ·) (equal.admits ·) result ∧
      d.Sets (less.admits ·) (greater.admits ·) result ∧
      d.Sets (equal.admits ·) (greater.admits ·) result ∧
      (t = .timestamp → d.Sets
        (fun x => ¬ ∃ k ∈ [less, equal, greater], k.admits x = true)
        (fun x => ∃ k ∈ [less, equal, greater], k.admits x = true) result) := by
  obtain ⟨hfield, hblank, htype⟩ := hbound.checked hdot ht
  have hpath : FieldPath.ofText? field = some ⟨names⟩ :=
    FieldPath.ofText?_eq_some_iff.mpr ⟨hdot, hblank⟩
  have hkey := sortKey_of_declares hdot hblank ht
  have hrank : OrderBy.CanRank ⟨field, d, r.sortKey entity field⟩ c.documents := by
    intro hvalue names' hdot'
    cases hdot.unique hdot'
    rcases htype with rfl | rfl
    · exact hintegers rfl
    · cases hkey.symm.trans hvalue
  obtain ⟨result, hsort⟩ := OrderBy.exists_sort hrank sorting
  have hrun := (c.run_unfiltered sorting ⟨field, d, r.sortKey entity field⟩).trans hsort
  refine ⟨_, result, hq.compile hfield, hrun, OrderBy.sort_perm hsort, ?_⟩
  rw [hkey] at hrank hsort
  rcases htype with rfl | rfl
  · obtain ⟨hle, hlg, heg⟩ := hbound.sort_sets (o := ⟨field, d, .value⟩)
      (comparesBy_integer hdot ht) hpath hrank SortKey.value_ordersBy_integer hsort
    refine ⟨hle, hlg, heg, ?_⟩
    intro h
    cases h
  · have hcompares := comparesBy_instant hdot ht
    obtain ⟨hle, hlg, heg⟩ := hbound.sort_sets (o := ⟨field, d, .instant⟩) hcompares hpath hrank
      SortKey.instant_ordersBy_instant hsort
    refine ⟨hle, hlg, heg, ?_⟩
    intro _
    -- what no condition admits stores no instant, and the sort key puts it first
    apply OrderBy.sort_sets (o := ⟨field, d, .instant⟩) hpath hrank hsort
    intro x _ y _ hx hy
    rw [hbound.exists_admits_iff hcompares] at hx hy
    obtain ⟨i, hi⟩ := hy
    apply SortKey.instant_order_of_none ?_ hi
    exact Option.eq_none_iff_forall_ne_some.mpr (not_exists.mp hx)

/-- Logins before, at and after a second, one of them in the leap second that
follows it, from the last to the first. -/
theorem Registry.ordering_agrees_with_comparing_leap :
    let r : Registry := ⟨[⟨"logins", none, [("at", .timestamp)]⟩]⟩
    let at' (v : Value) : Value := .object [("at", v)]
    let c : Collection := ⟨[at' (.string "2016-12-31T23:59:60Z"), at' (.string "now"),
      at' (.string "2017-01-01T00:59:59+01:00"), at' (.string "2016-12-31"), at' .null]⟩
    let less : Condition := .timestamp ⟨["at"]⟩ (.lt ⟨1483228799, 0⟩)
    let equal : Condition := .timestamp ⟨["at"]⟩ (.eq ⟨1483228799, 0⟩)
    let greater : Condition := .timestamp ⟨["at"]⟩ (.gt ⟨1483228799, 0⟩)
    Bound r "logins" "at" "2016-12-31T23:59:59" less equal greater ∧
    ∃ p result, r.compile "logins" ⟨none, some "at", some "Desc"⟩ = .ok p ∧
      c.run .insertion p = some result ∧ result.Perm c.documents ∧
      Precedes (greater.admits ·) (equal.admits ·) result ∧
      Precedes (equal.admits ·) (less.admits ·) result := by
  intro r at' c less equal greater
  have hdot : Dotted "at" ["at"] := dotted_iff.mpr (by decide +kernel)
  have ht : r.Declares "logins" ["at"] .timestamp := ⟨_, rfl, .field rfl⟩
  have hbound : Bound r "logins" "at" "2016-12-31T23:59:59" less equal greater := by
    refine ⟨⟨none, ?_⟩, ⟨none, ?_⟩, ⟨none, ?_⟩⟩ <;>
      exact Except.toOption_eq_some_iff.mp (by decide +kernel)
  have hq : Request.OrdersAllBy ⟨none, some "at", some "Desc"⟩ "at" .descending :=
    ⟨rfl, rfl, by decide +kernel⟩
  obtain ⟨p, result, hp, hrun, hperm, hle, -, heg, -⟩ :=
    ordering_agrees_with_comparing hdot ht hbound c (fun h => by cases h) hq .insertion
  exact ⟨hbound, p, result, hp, hrun, hperm, heg, hle⟩

end DocSieve
