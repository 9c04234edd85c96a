-- SUMMARY: Sorting by a total preorder: it is never given up, the result is in order, and it commutes with leaving elements out.
import DocSieve.Proofs.Filter.Meaning
import DocSieve.Proofs.Store.Order
import DocSieve.Proofs.Store.Sorting

/-!
# Sorting by rank

Three things about sorting need an order with laws. Sorting is not given up, the
result is in order, and leaving elements out before sorting is the same as
leaving them out afterwards. The laws are asked for on the elements of the list
only, because the order of values has them only where no integer is blurred by a
double. There all sorts agree, and with any other list some sort gives up.
-/

namespace DocSieve

open Json

variable {α : Type} {order : α → α → Ordering} {as bs : List α} {a b : α} {p q : α → Prop}

/-! ## Ranking -/

/-- An order that is a total preorder on the elements of a list. -/
structure Ranks (order : α → α → Ordering) (as : List α) : Prop where
  swap : ∀ a b, order b a = (order a b).swap
  trans : ∀ a ∈ as, ∀ b ∈ as, ∀ c ∈ as,
    (order a b).isLE → (order b c).isLE → (order a c).isLE

namespace Ranks

theorem of_subset (h : Ranks order bs) (hsub : as ⊆ bs) : Ranks order as where
  swap := h.swap
  trans a ha b hb c hc := h.trans a (hsub ha) b (hsub hb) c (hsub hc)

/-- Downwards a list is ranked as it is upwards. -/
theorem flip (h : Ranks order as) : Ranks (fun a b => order b a) as where
  swap a b := h.swap b a
  trans a ha b hb c hc hab hbc := h.trans c hc b hb a ha hbc hab

theorem isLE_iff (h : Ranks order as) : (order b a).isLE ↔ order a b ≠ .lt := by
  rw [h.swap a b]
  cases order a b <;> simp

/-- The elements of a list may come in any order, sorted or not. -/
theorem cons_reverse_stableSort (h : Ranks order (as ++ [a])) :
    Ranks order (a :: (stableSort order as).reverse) := by
  apply h.of_subset
  intro b hb
  rcases List.mem_cons.mp hb with rfl | hb
  · simp
  · simp [(stableSort_perm order as).mem_iff.mp (List.mem_reverse.mp hb)]

end Ranks

/-! ## Insertion

The list that insertion works on is kept from the last element to the first. -/

theorem insertLast_of_forall_ne_lt (h : ∀ b ∈ bs, order a b ≠ .lt) :
    insertLast order a bs = a :: bs := by
  cases bs with
  | nil => rfl
  | cons b bs => exact if_neg (h b List.mem_cons_self)

/-- An element that is not before the first one is before none. -/
theorem Ranks.forall_ne_lt (h : Ranks order (a :: b :: bs))
    (hbs : (b :: bs).Pairwise fun b c => (order c b).isLE) (hab : order a b ≠ .lt) :
    ∀ c ∈ b :: bs, order a c ≠ .lt := by
  intro c hc
  rcases List.mem_cons.mp hc with rfl | hmem
  · exact hab
  · -- `c` is at most `b`, and `b` is at most `a`
    have hcb : (order c b).isLE := (List.pairwise_cons.mp hbs).1 c hmem
    have hba : (order b a).isLE := h.isLE_iff.mpr hab
    exact h.isLE_iff.mp (h.trans c (by simp [hmem]) b (by simp) a (by simp) hcb hba)

theorem insertLast_sorted (h : Ranks order (a :: bs))
    (hbs : bs.Pairwise fun b c => (order c b).isLE) :
    (insertLast order a bs).Pairwise fun b c => (order c b).isLE := by
  induction bs with
  | nil => simp [insertLast]
  | cons b bs ih =>
    obtain ⟨hb, hrest⟩ := List.pairwise_cons.mp hbs
    unfold insertLast
    split
    · rename_i hlt
      apply List.pairwise_cons.mpr
      refine ⟨?_, ih (h.of_subset (by simp)) hrest⟩
      intro c hc
      rcases List.mem_cons.mp ((insertLast_perm order a bs).mem_iff.mp hc) with rfl | hc
      · rw [hlt]
        rfl
      · exact hb c hc
    · rename_i hnlt
      apply List.pairwise_cons.mpr
      refine ⟨?_, hbs⟩
      intro c hc
      exact h.isLE_iff.mpr (h.forall_ne_lt hbs hnlt c hc)

/-- Elements that are left out have no part in where another one goes. -/
theorem insertLast_filter (h : Ranks order (a :: bs))
    (hbs : bs.Pairwise fun b c => (order c b).isLE) (keep : α → Bool) :
    (insertLast order a bs).filter keep =
      if keep a then insertLast order a (bs.filter keep) else bs.filter keep := by
  induction bs with
  | nil => simp [insertLast, List.filter_cons]
  | cons b bs ih =>
    have hrest := ih (h.of_subset (by simp)) (List.pairwise_cons.mp hbs).2
    by_cases hab : order a b = .lt
    · -- `a` passes `b`, whether or not `b` stays
      rw [insertLast, if_pos hab, List.filter_cons, hrest, List.filter_cons]
      by_cases hb : keep b = true
      · by_cases ha : keep a = true <;> simp [ha, hb, insertLast, hab]
      · simp [hb]
    · -- `a` passes none of the elements, so it passes none of those that stay
      have hall := h.forall_ne_lt hbs hab
      have hkept : ∀ c ∈ (b :: bs).filter keep, order a c ≠ .lt := by
        intro c hc
        exact hall c (List.mem_filter.mp hc).1
      rw [insertLast_of_forall_ne_lt hall, insertLast_of_forall_ne_lt hkept, List.filter_cons]

/-! ## Sorting a list -/

theorem stableSort_sorted (h : Ranks order as) :
    (stableSort order as).Pairwise fun a b => (order a b).isLE := by
  induction as using List.reverseRecOn with
  | nil => exact .nil
  | append_singleton as a ih =>
    rw [stableSort_concat, List.pairwise_reverse]
    apply insertLast_sorted h.cons_reverse_stableSort
    exact List.pairwise_reverse.mpr (ih (h.of_subset (by simp)))

/-- Leaving elements out commutes with sorting. -/
theorem stableSort_filter (h : Ranks order as) (keep : α → Bool) :
    (stableSort order as).filter keep = stableSort order (as.filter keep) := by
  induction as using List.reverseRecOn with
  | nil => rfl
  | append_singleton as a ih =>
    have has : Ranks order as := h.of_subset (by simp)
    have hsorted : (stableSort order as).reverse.Pairwise fun b c => (order c b).isLE :=
      List.pairwise_reverse.mpr (stableSort_sorted has)
    rw [stableSort_concat, List.filter_reverse, insertLast_filter h.cons_reverse_stableSort hsorted,
      List.filter_reverse, ih has, List.filter_append]
    by_cases ha : keep a = true
    · simp [ha, stableSort_concat]
    · simp [ha]

/-- In the list, all that is `p` stands before all that is `q`. -/
def Precedes (p q : α → Prop) (as : List α) : Prop :=
  ∀ (i j : Nat) (hi : i < as.length) (hj : j < as.length), p as[i] → q as[j] → i < j

theorem stableSort_precedes (h : Ranks order as)
    (hpq : ∀ a ∈ as, ∀ b ∈ as, p a → q b → order a b = .lt) :
    Precedes p q (stableSort order as) := by
  intro i j hi hj hp hq
  have hmem : ∀ k, (hk : k < (stableSort order as).length) → (stableSort order as)[k] ∈ as :=
    fun k hk => (stableSort_perm order as).mem_iff.mp (List.getElem_mem hk)
  have hlt := hpq _ (hmem i hi) _ (hmem j hj) hp hq
  rcases lt_trichotomy i j with hij | rfl | hji
  · exact hij
  · -- nothing is before itself
    have hself := h.swap (stableSort order as)[i] (stableSort order as)[i]
    rw [hlt] at hself
    cases hself
  · have hle := List.pairwise_iff_getElem.mp (stableSort_sorted h) j i hj hi hji
    exact absurd hlt (h.isLE_iff.mp hle)

/-! ## Any sort -/

section Positions

variable {n : Nat} {positions : Fin n → Fin n → Ordering}

theorem StandsBefore.asymm (horder : Std.TransCmp positions) {i j : Fin n}
    (h : StandsBefore positions i j) : ¬ StandsBefore positions j i := by
  have hswap : positions j i = (positions i j).swap := Std.OrientedCmp.eq_swap
  intro h'
  unfold StandsBefore at h h'
  rw [hswap] at h'
  cases ho : positions i j <;> simp [ho] at h h'
  omega

/-- All sorts arrange positions alike that a total preorder is given for. -/
theorem Sorting.arrange_eq_stableSort (sorting : Sorting) (horder : Std.TransCmp positions) :
    sorting.arrange n positions = some (stableSort positions (List.finRange n)) := by
  obtain ⟨arranged, harranged, hpairwise⟩ := sorting.stable positions horder
  have hperm : arranged.Perm (stableSort positions (List.finRange n)) :=
    (sorting.perm harranged).trans (stableSort_perm positions _).symm
  rw [harranged]
  congr 1
  refine hperm.eq_of_pairwise ?_ hpairwise (stableSort_pairwise horder)
  intro i j _ _ hij hji
  exact absurd hji (hij.asymm horder)

end Positions

/-- The order of the elements of a list as an order of their positions. -/
theorem ranks_iff_transCmp (hswap : ∀ a b, order b a = (order a b).swap) :
    Ranks order as ↔ Std.TransCmp fun i j : Fin as.length => order as[i] as[j] := by
  constructor
  · intro h
    refine { eq_swap := h.swap _ _, isLE_trans := ?_ }
    intro i j k
    exact h.trans _ (List.getElem_mem i.isLt) _ (List.getElem_mem j.isLt) _
      (List.getElem_mem k.isLt)
  · intro h
    refine ⟨hswap, fun a ha b hb c hc => ?_⟩
    obtain ⟨i, hi, rfl⟩ := List.getElem_of_mem ha
    obtain ⟨j, hj, rfl⟩ := List.getElem_of_mem hb
    obtain ⟨k, hk, rfl⟩ := List.getElem_of_mem hc
    exact h.isLE_trans (a := ⟨i, hi⟩) (b := ⟨j, hj⟩) (c := ⟨k, hk⟩)

theorem Ranks.sort_eq_stableSort (h : Ranks order as) (sorting : Sorting) :
    sorting.sort order as = some (stableSort order as) := by
  have helements : (List.finRange as.length).map (as[·]) = as := List.map_getElem_finRange as
  rw [Sorting.sort_eq_arrange sorting order as rfl,
    sorting.arrange_eq_stableSort ((ranks_iff_transCmp h.swap).mp h), Option.map_some,
    ← stableSort_map, helements]

open Classical in
/-- The sort that gives up on all that is no total preorder. -/
noncomputable def Sorting.strict : Sorting where
  arrange n order :=
    if Std.TransCmp order then some (stableSort order (List.finRange n)) else none
  perm h := by
    obtain ⟨-, h⟩ := Option.ite_none_right_eq_some.mp h
    cases h
    exact stableSort_perm _ _
  stable order horder := ⟨_, if_pos horder, stableSort_pairwise horder⟩

/-- Some sort gives a list up exactly if the order is no total preorder on it. -/
theorem exists_sort_eq_none_iff (hswap : ∀ a b, order b a = (order a b).swap) :
    (∃ sorting : Sorting, sorting.sort order as = none) ↔ ¬ Ranks order as := by
  constructor
  · rintro ⟨sorting, hnone⟩ h
    rw [h.sort_eq_stableSort sorting] at hnone
    contradiction
  · intro h
    rw [ranks_iff_transCmp hswap] at h
    exact ⟨.strict, Option.map_eq_none_iff.mpr (if_neg h)⟩

/-! ## Sort keys -/

namespace SortKey

theorem order_swap (key : SortKey) (x y : Option Value) : key.order y x = (key.order x y).swap := by
  cases key with
  | value => exact value_order_swap x y
  | instant =>
    apply orderMissing_swap
    intro i j
    rw [Instant.order_eq_compare, Instant.order_eq_compare]
    exact Std.OrientedOrd.eq_swap

/-- Of the sort keys only values can be out of order, and only if they are
blurred. -/
theorem order_trans_iff (key : SortKey) (x y z : Option Value) :
    ((key.order x y).isLE → (key.order y z).isLE → (key.order x z).isLE) ↔
      (key = .value → ¬ Blurred x y z) := by
  cases key with
  | value => simpa using value_order_trans_iff x y z
  | instant =>
    refine iff_of_true (orderMissing_trans ?_) nofun
    intro i _ j _ k _
    rw [Instant.order_eq_compare, Instant.order_eq_compare, Instant.order_eq_compare]
    exact Std.TransOrd.isLE_trans

end SortKey

theorem Direction.apply_swap (d : Direction) (o : Ordering) :
    d.apply o.swap = (d.apply o).swap := by
  cases d <;> rfl

/-! ## Documents -/

/-- All numbers that the names lead to are signed 64-bit integers. -/
def IntegersAt (names : List String) (documents : List Value) : Prop :=
  ∀ d ∈ documents, ∀ n, FieldPath.Reaches d names (.number n) →
    ∃ i, n = .int i ∧ (-2 ^ 63 ≤ i ∧ i < 2 ^ 63)

theorem IntegersAt.not_blurred {names : List String} {documents : List Value} {d : Value}
    (h : IntegersAt names documents) (hd : d ∈ documents) (x z : Option Value) :
    ¬ SortKey.Blurred x (FieldPath.follow names d) z := by
  rintro ⟨_, n, _, -, hn, -, hblurred⟩
  obtain ⟨i, hi⟩ := h d hd n (FieldPath.reaches_iff_follow.mpr hn)
  have hint : (Value.number n).int64? = some i :=
    Value.int64?_eq_some_iff.mpr ⟨congrArg Value.number hi.1, hi.2⟩
  cases hint.symm.trans hblurred.other

namespace OrderBy

/-- Documents that the ordering can rank: where it compares values, the numbers
among them are signed 64-bit integers. -/
def CanRank (o : OrderBy) (documents : List Value) : Prop :=
  o.key = .value → ∀ names, Dotted o.field names → IntegersAt names documents

theorem CanRank.filter {o : OrderBy} {documents : List Value} (h : o.CanRank documents)
    (keep : Value → Bool) : o.CanRank (documents.filter keep) :=
  fun hkey names hdot d hd => h hkey names hdot d (List.mem_filter.mp hd).1

/-- Three of the documents have blurred numbers where the ordering compares
values. -/
def Blurs (o : OrderBy) (names : List String) (documents : List Value) : Prop :=
  o.key = .value ∧ ∃ a ∈ documents, ∃ b ∈ documents, ∃ c ∈ documents,
    SortKey.Blurred (FieldPath.follow names a) (FieldPath.follow names b)
      (FieldPath.follow names c)

variable {o : OrderBy} {path : FieldPath} {names : List String} {documents : List Value}

theorem compareAt_swap (o : OrderBy) (path : FieldPath) (a b : Value) :
    o.compareAt path b a = (o.compareAt path a b).swap := by
  unfold compareAt
  rw [o.key.order_swap, Direction.apply_swap]

/-- Blurred numbers are all that keeps documents from being ranked. -/
theorem ranks_iff : Ranks (o.compareAt path) documents ↔ ¬ o.Blurs path.segments documents := by
  have hup : Ranks (fun a b => o.key.order (path.lookup a) (path.lookup b)) documents ↔
      ¬ o.Blurs path.segments documents := by
    constructor
    · rintro h ⟨hkey, a, ha, b, hb, c, hc, hblurred⟩
      exact (o.key.order_trans_iff _ _ _).mp (h.trans a ha b hb c hc) hkey hblurred
    · intro h
      refine ⟨fun _ _ => o.key.order_swap _ _, fun a ha b hb c hc => ?_⟩
      apply (o.key.order_trans_iff _ _ _).mpr
      exact fun hkey hblurred => h ⟨hkey, a, ha, b, hb, c, hc, hblurred⟩
  rw [← hup]
  obtain ⟨field, direction, key⟩ := o
  cases direction with
  | ascending => exact Iff.rfl
  | descending =>
    have hdown : compareAt ⟨field, .descending, key⟩ path =
        fun a b => key.order (path.lookup b) (path.lookup a) := by
      funext a b
      exact (key.order_swap _ _).symm
    rw [hdown]
    exact ⟨Ranks.flip, Ranks.flip⟩

/-- Where numbers are blurred there is an integer that a double may not hold. -/
theorem Blurs.exceeds (h : o.Blurs names documents) :
    ∃ d ∈ documents, ∃ n : Int, FieldPath.Reaches d names (.int n) ∧ 2 ^ 53 < n.natAbs := by
  obtain ⟨-, a, ha, _, -, c, hc, x, _, z, hx, -, hz, hblurred⟩ := h
  obtain ⟨n, rfl | rfl, hn⟩ := hblurred.exceeds
  · exact ⟨a, ha, n, FieldPath.reaches_iff_follow.mpr hx, hn⟩
  · exact ⟨c, hc, n, FieldPath.reaches_iff_follow.mpr hz, hn⟩

theorem ranks (hpath : FieldPath.ofText? o.field = some path) (h : o.CanRank documents) :
    Ranks (o.compareAt path) documents := by
  rw [ranks_iff]
  rintro ⟨hkey, _, -, b, hb, _, -, hblurred⟩
  exact (h hkey _ (FieldPath.ofText?_eq_some_iff.mp hpath).1).not_blurred hb _ _ hblurred

theorem sort_of_ranks (hpath : FieldPath.ofText? o.field = some path)
    (h : Ranks (o.compareAt path) documents) (sorting : Sorting) :
    o.sort sorting documents = some (stableSort (o.compareAt path) documents) := by
  unfold sort
  rw [hpath]
  exact h.sort_eq_stableSort sorting

theorem sort_of_no_path (hpath : FieldPath.ofText? o.field = none) (sorting : Sorting) :
    o.sort sorting documents = some documents := by
  unfold sort
  rw [hpath]

theorem exists_sort (h : o.CanRank documents) (sorting : Sorting) :
    ∃ sorted, o.sort sorting documents = some sorted := by
  cases hpath : FieldPath.ofText? o.field with
  | none => exact ⟨_, sort_of_no_path hpath sorting⟩
  | some path => exact ⟨_, sort_of_ranks hpath (ranks hpath h) sorting⟩

/-- Leaving documents out commutes with sorting them. -/
theorem sort_filter (h : o.CanRank documents) (sorting : Sorting) (keep : Value → Bool) :
    (o.sort sorting documents).map (·.filter keep) = o.sort sorting (documents.filter keep) := by
  cases hpath : FieldPath.ofText? o.field with
  | none => rw [sort_of_no_path hpath, sort_of_no_path hpath, Option.map_some]
  | some path =>
    have hranks := ranks hpath h
    have hkept : Ranks (o.compareAt path) (documents.filter keep) :=
      hranks.of_subset (List.filter_subset_self documents)
    rw [sort_of_ranks hpath hranks, sort_of_ranks hpath hkept, Option.map_some,
      stableSort_filter hranks]

end OrderBy

/-- In the list, all that is `p` stands before all that is `q`, or behind it if
the direction is down. -/
def Direction.Sets (d : Direction) (p q : Value → Prop) (documents : List Value) : Prop :=
  match d with
  | .ascending => Precedes p q documents
  | .descending => Precedes q p documents

theorem OrderBy.sort_sets {o : OrderBy} {path : FieldPath} {sorting : Sorting}
    {documents sorted : List Value} {p q : Value → Prop}
    (hpath : FieldPath.ofText? o.field = some path) (h : o.CanRank documents)
    (hsort : o.sort sorting documents = some sorted)
    (hpq : ∀ a ∈ documents, ∀ b ∈ documents, p a → q b →
      o.key.order (path.lookup a) (path.lookup b) = .lt) :
    o.direction.Sets p q sorted := by
  have hranks := ranks hpath h
  obtain rfl : stableSort (o.compareAt path) documents = sorted :=
    Option.some.inj ((sort_of_ranks hpath hranks sorting).symm.trans hsort)
  cases hd : o.direction with
  | ascending =>
    apply stableSort_precedes hranks
    intro a ha b hb hp hq
    simp only [compareAt, hd, Direction.apply]
    exact hpq a ha b hb hp hq
  | descending =>
    apply stableSort_precedes hranks
    intro b hb a ha hq hp
    simp only [compareAt, hd, Direction.apply, ← SortKey.order_swap]
    exact hpq a ha b hb hp hq

/-! ## Queries -/

namespace Collection

variable {c : Collection} {q q' : Query}

/-- Queries that admit the same documents and order them alike have the same
result. -/
theorem run_congr (horder : q.order = q'.order)
    (hadmits : ∀ d ∈ c.documents, q.admits d = q'.admits d) (sorting : Sorting) :
    c.run sorting q = c.run sorting q' := by
  unfold run
  rw [List.filter_congr hadmits, horder]

theorem exists_run (hranks : ∀ o ∈ q.order, o.CanRank c.documents) (sorting : Sorting) :
    ∃ documents, c.run sorting q = some documents := by
  unfold run
  cases ho : q.order with
  | none => exact ⟨_, rfl⟩
  | some o => exact OrderBy.exists_sort ((hranks o ho).filter _) sorting

/-- The result of a query that admits less is what it admits of the result of
the other. -/
theorem run_filter (horder : q.order = q'.order)
    (hranks : ∀ o ∈ q.order, o.CanRank c.documents)
    (hadmits : ∀ d ∈ c.documents, q'.admits d = true → q.admits d = true) (sorting : Sorting) :
    c.run sorting q' = (c.run sorting q).map (·.filter q'.admits) := by
  have hfound : c.documents.filter q'.admits = (c.documents.filter q.admits).filter q'.admits := by
    rw [List.filter_filter]
    apply List.filter_congr
    intro d hd
    cases hq' : q'.admits d with
    | false => rfl
    | true => simp [hadmits d hd hq']
  unfold run
  rw [hfound, ← horder]
  cases ho : q.order with
  | none => rfl
  | some o => exact (OrderBy.sort_filter ((hranks o ho).filter _) sorting _).symm

/-- Among the documents that the query selects, three have blurred numbers where
its ordering compares values. -/
def Blurs (c : Collection) (q : Query) : Prop :=
  ∃ o ∈ q.order, ∃ path, FieldPath.ofText? o.field = some path ∧
    o.Blurs path.segments (c.documents.filter q.admits)

/-- Some sort gives a query up exactly if the query blurs numbers. -/
theorem exists_run_eq_none_iff : (∃ sorting, c.run sorting q = none) ↔ c.Blurs q := by
  unfold run Blurs
  cases q.order with
  | none => simp
  | some o =>
    unfold OrderBy.sort
    cases hpath : FieldPath.ofText? o.field with
    | none => simp [hpath]
    | some path => simp [hpath, exists_sort_eq_none_iff (o.compareAt_swap path), OrderBy.ranks_iff]

/-- A query that blurs numbers selects a document with an integer that a double
may not hold. -/
theorem Blurs.exceeds (h : c.Blurs q) :
    ∃ d ∈ c.documents, ∃ (names : List String) (n : Int),
      FieldPath.Reaches d names (.int n) ∧ 2 ^ 53 < n.natAbs := by
  obtain ⟨_, -, path, -, hblurs⟩ := h
  obtain ⟨d, hd, n, hn⟩ := hblurs.exceeds
  exact ⟨d, (List.mem_filter.mp hd).1, path.segments, n, hn⟩

end Collection

end DocSieve
