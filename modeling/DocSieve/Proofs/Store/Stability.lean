-- SUMMARY: Sorting documents is a stable sort by the rank of what stands at the path, in both directions and one sort after another.
import Mathlib.Data.List.Lex
import Mathlib.Data.List.Pairwise
import Mathlib.Data.String.Basic
import Mathlib.Order.WithBot
import DocSieve.Proofs.Store.Ranking

/-!
# Stability

A stable sort permutes a list, puts it in order and keeps elements of the same
rank in the order in which they came. There is one such list only, so these
three properties say all about sorting, and what is shown of sorts from here on
needs no look at how they work. Ranks are given by tables of their own, to
which the comparisons of documents turn out to be equal.
-/

namespace DocSieve

open Json

variable {α : Type} {order order' : α → α → Ordering} {as bs cs : List α} {a b c : α}

/-! ## Stable sorts -/

/-- `bs` is `as` sorted stably: no element is of a higher rank than a later one,
and those of the same rank stand as they came. -/
structure IsStableSort (order : α → α → Ordering) (as bs : List α) : Prop where
  perm : bs.Perm as
  ordered : bs.Pairwise fun a b => (order a b).isLE
  stable : ∀ a ∈ as, bs.filter (order a · = .eq) = as.filter (order a · = .eq)

namespace Ranks

theorem eq_self (h : Ranks order as) (a : α) : order a a = .eq := by
  have hself := h.swap a a
  cases ho : order a a <;> simp [ho] at hself ⊢

theorem eq_comm (h : Ranks order as) : order a b = .eq ↔ order b a = .eq := by
  rw [h.swap a b]
  cases order a b <;> simp

theorem eq_of_isLE (h : Ranks order as) (hab : (order a b).isLE) (hba : (order b a).isLE) :
    order a b = .eq := by
  rw [h.swap a b] at hba
  cases ho : order a b <;> simp [ho] at hab hba ⊢

/-- Elements of one rank are of the same rank as each other. -/
theorem eq_trans (h : Ranks order as) (ha : a ∈ as) (hb : b ∈ as) (hc : c ∈ as)
    (hab : order a b = .eq) (hac : order a c = .eq) : order b c = .eq := by
  have hle {x y : α} (hxy : order x y = .eq) : (order x y).isLE := by rw [hxy]; rfl
  apply h.eq_of_isLE
  · exact h.trans b hb a ha c hc (hle (h.eq_comm.mp hab)) (hle hac)
  · exact h.trans c hc a ha b hb (hle (h.eq_comm.mp hac)) (hle hab)

end Ranks

/-- A list in order stays as it is. -/
theorem stableSort_eq_self (h : Ranks order as)
    (hordered : as.Pairwise fun a b => (order a b).isLE) : stableSort order as = as := by
  induction as using List.reverseRecOn with
  | nil => rfl
  | append_singleton as a ih =>
    obtain ⟨has, -, hlast⟩ := List.pairwise_append.mp hordered
    have hpasses : ∀ b ∈ as.reverse, order a b ≠ .lt := by
      intro b hb
      exact h.isLE_iff.mp (hlast b (List.mem_reverse.mp hb) a (by simp))
    rw [stableSort_concat, ih (h.of_subset (by simp)) has, insertLast_of_forall_ne_lt hpasses]
    simp

theorem isStableSort_stableSort (h : Ranks order as) :
    IsStableSort order as (stableSort order as) where
  perm := stableSort_perm order as
  ordered := stableSort_sorted h
  stable a ha := by
    rw [stableSort_filter h]
    -- what is left in is of one rank, so it is in order as it came
    apply stableSort_eq_self (h.of_subset (List.filter_subset_self as))
    apply List.pairwise_of_forall_mem_list
    intro b hb c hc
    obtain ⟨hb, hab⟩ := List.mem_filter.mp hb
    obtain ⟨hc, hac⟩ := List.mem_filter.mp hc
    rw [h.eq_trans ha hb hc (of_decide_eq_true hab) (of_decide_eq_true hac)]
    rfl

namespace IsStableSort

/-- Elements of the same rank stand in the order that they had before. -/
theorem pairwise {r : α → α → Prop} (hranks : Ranks order as) (h : IsStableSort order as bs)
    (has : as.Pairwise r) : bs.Pairwise fun a b => order a b = .eq → r a b := by
  apply List.pairwise_iff_getElem.mpr
  intro i j hi hj hij heq
  have hmem : bs[i] ∈ as := h.perm.mem_iff.mp (List.getElem_mem hi)
  have hfiltered : (bs.filter (order bs[i] · = .eq)).Pairwise r := by
    rw [h.stable _ hmem]
    exact has.filter _
  have hall := List.pairwise_iff_getElem.mp (List.pairwise_filter.mp hfiltered) i j hi hj hij
  exact hall (by simpa using hranks.eq_self _) (by simpa using heq)

end IsStableSort

/-- Lists in order that hold the same elements of each rank in the same order
are equal. -/
theorem eq_of_ordered (hranks : Ranks order bs) (hperm : bs.Perm cs)
    (hbs : bs.Pairwise fun a b => (order a b).isLE) (hcs : cs.Pairwise fun a b => (order a b).isLE)
    (hstable : ∀ a ∈ bs, bs.filter (order a · = .eq) = cs.filter (order a · = .eq)) : bs = cs := by
  induction bs generalizing cs with
  | nil => exact (List.nil_perm.mp hperm).symm
  | cons b bs ih =>
    cases cs with
    | nil => exact absurd hperm.length_eq (by simp)
    | cons c cs =>
      obtain ⟨hb, hbs'⟩ := List.pairwise_cons.mp hbs
      obtain ⟨hc, hcs'⟩ := List.pairwise_cons.mp hcs
      -- both heads are of the lowest rank
      have hrank : order b c = .eq := by
        rcases List.mem_cons.mp (hperm.mem_iff.mp List.mem_cons_self) with rfl | hmem
        · exact hranks.eq_self b
        rcases List.mem_cons.mp (hperm.mem_iff.mpr List.mem_cons_self) with rfl | hmem'
        · exact hranks.eq_self c
        exact hranks.eq_of_isLE (hb c hmem') (hc b hmem)
      have hheads := hstable b List.mem_cons_self
      rw [List.filter_cons_of_pos (by simpa using hranks.eq_self b),
        List.filter_cons_of_pos (by simpa using hrank)] at hheads
      obtain ⟨rfl, -⟩ := List.cons.inj hheads
      congr 1
      refine ih (hranks.of_subset (by simp)) hperm.cons_inv hbs' hcs' ?_
      intro a ha
      have hfiltered := hstable a (List.mem_cons_of_mem b ha)
      rw [List.filter_cons, List.filter_cons] at hfiltered
      split at hfiltered
      · exact (List.cons.inj hfiltered).2
      · exact hfiltered

namespace IsStableSort

/-- There is only one way to sort a list stably. -/
theorem unique (hranks : Ranks order as) (hb : IsStableSort order as bs)
    (hc : IsStableSort order as cs) : bs = cs := by
  apply eq_of_ordered (hranks.of_subset hb.perm.subset) (hb.perm.trans hc.perm.symm) hb.ordered
    hc.ordered
  intro a ha
  have hmem := hb.perm.mem_iff.mp ha
  rw [hb.stable a hmem, hc.stable a hmem]

/-- Turned around, a list is sorted the other way round. -/
theorem reverse (hranks : Ranks order as) (h : IsStableSort order as.reverse bs) :
    IsStableSort (fun a b => order b a) as bs.reverse where
  perm := (List.reverse_perm bs).trans (h.perm.trans (List.reverse_perm as))
  ordered := List.pairwise_reverse.mpr h.ordered
  stable a ha := by
    have hsame : (fun b => decide (order b a = .eq)) = fun b => decide (order a b = .eq) := by
      funext b
      exact decide_eq_decide.mpr hranks.eq_comm
    rw [hsame, List.filter_reverse, h.stable a (List.mem_reverse.mpr ha), List.filter_reverse,
      List.reverse_reverse]

/-- Sorting what is sorted by another rank already leaves that rank to decide
between elements of the same rank. -/
theorem trans (hranks : Ranks order as) (h' : IsStableSort order' as bs)
    (h : IsStableSort order bs cs) :
    IsStableSort (fun a b => (order a b).then (order' a b)) as cs where
  perm := h.perm.trans h'.perm
  ordered := by
    have hbs := h.pairwise (hranks.of_subset h'.perm.subset) h'.ordered
    refine h.ordered.imp₂ ?_ hbs
    intro a b hab hties
    cases ho : order a b with
    | lt => rfl
    | eq => exact hties ho
    | gt => simp [ho] at hab
  stable a ha := by
    have hboth (ds : List α) : ds.filter (fun b => (order a b).then (order' a b) = .eq) =
        (ds.filter (order a · = .eq)).filter (order' a · = .eq) := by
      simp [List.filter_filter, Ordering.then_eq_eq, Bool.and_comm]
    rw [hboth, hboth, h.stable a (h'.perm.mem_iff.mpr ha), List.filter_comm, h'.stable a ha,
      List.filter_comm]

end IsStableSort

/-! ## Ranks of values -/

/-- The exact value of a number, in units of the least double. -/
def Json.Number.scaled : Number → Int
  | .int n => n * Double.unit
  | .double d => d.value

/-- The rank of a value: its kind, of numbers also how great they are, and of
strings also their characters. -/
def Json.Value.place : Option Value → ℕ ×ₗ ℤ ×ₗ List Char
  | none => toLex (0, toLex (0, []))
  | some .null => toLex (1, toLex (0, []))
  | some (.bool b) => toLex (if b then 3 else 2, toLex (0, []))
  | some (.number n) => toLex (4, toLex (n.scaled, []))
  | some (.string s) => toLex (5, toLex (0, s.toList))
  | some (.array _) => toLex (6, toLex (0, []))
  | some (.object _) => toLex (7, toLex (0, []))

/-- The rank of an instant that a value stores, below all others if it stores
none. -/
def Json.Value.moment (x : Option Value) : WithBot Instant :=
  match x.bind Value.instant? with
  | some i => i
  | none => ⊥

namespace SortKey

/-- What values are ranked by. -/
def Rank : SortKey → Type
  | .value => ℕ ×ₗ ℤ ×ₗ List Char
  | .instant => WithBot Instant

instance : (key : SortKey) → LinearOrder key.Rank
  | .value => inferInstanceAs (LinearOrder (ℕ ×ₗ ℤ ×ₗ List Char))
  | .instant => inferInstanceAs (LinearOrder (WithBot Instant))

def rank : (key : SortKey) → Option Value → key.Rank
  | .value => Value.place
  | .instant => Value.moment

end SortKey

/-! ## Comparing by rank -/

theorem isLE_compare_iff {ρ : Type} [LinearOrder ρ] {a b : ρ} :
    (compare a b).isLE ↔ a ≤ b :=
  Ordering.isLE_iff_ne_gt.trans compare_le_iff_le

namespace Json.Value

variable {x y : Value}

theorem place_lt_of_rank_lt (h : x.rank < y.rank) : place (some x) < place (some y) := by
  cases x <;> cases y <;> simp [rank] at h <;> simp [place, Prod.Lex.toLex_lt_toLex] <;> grind

/-- The value is no number, or a signed 64-bit integer. -/
def IsClear (x : Value) : Prop := ∀ n, x = .number n → ∃ i, n.int64? = some i

theorem place_int_le_iff {i j : Int} : place (some (.int i)) ≤ place (some (.int j)) ↔ i ≤ j := by
  obtain ⟨e, he⟩ := Double.exists_unit_eq
  have hunit : (0 : Int) < Double.unit := by
    rw [he]
    exact_mod_cast Nat.two_pow_pos e
  have hplace : place (some (.int i)) ≤ place (some (.int j)) ↔
      i * (Double.unit : Int) ≤ j * (Double.unit : Int) := by
    simp only [place, Value.int, Number.scaled, Prod.Lex.toLex_le_toLex, lt_irrefl, le_refl,
      and_true, true_and, false_or]
    exact le_iff_lt_or_eq.symm
  rw [hplace, Int.mul_le_mul_right hunit]

theorem place_none_lt (x : Value) : place none < place (some x) := by
  cases x <;> simp [place, Prod.Lex.toLex_lt_toLex]
  grind

/-- On values that hold no blurred number the order is the order of ranks. -/
theorem order_isLE_iff (hx : x.IsClear) (hy : y.IsClear) :
    (x.order y).isLE ↔ place (some x) ≤ place (some y) := by
  rcases lt_trichotomy x.rank y.rank with hlt | heq | hgt
  · rw [order_of_rank_ne hlt.ne, isLE_compare_iff]
    exact iff_of_true hlt.le (place_lt_of_rank_lt hlt).le
  · cases x with
    | null | array | object => cases y <;> cases heq; exact iff_of_true rfl le_rfl
    | bool b =>
      cases y <;> cases heq
      rename_i c
      cases b <;> cases c <;> decide
    | number m =>
      cases y <;> cases heq
      rename_i n
      obtain ⟨i, hi⟩ := hx m rfl
      obtain ⟨j, hj⟩ := hy n rfl
      cases Number.eq_int_of_int64? hi
      cases Number.eq_int_of_int64? hj
      change ((Number.int i).order (.int j)).isLE ↔ _
      rw [Number.order_of_int64? hi hj, isLE_compare_iff]
      exact place_int_le_iff.symm
    | string s =>
      cases y <;> cases heq
      rename_i t
      simp [order, place, Prod.Lex.toLex_le_toLex, isLE_compare_iff, String.le_iff_toList_le]
  · rw [order_of_rank_ne hgt.ne', isLE_compare_iff]
    exact iff_of_false hgt.not_ge (place_lt_of_rank_lt hgt).not_ge

end Json.Value

namespace SortKey

variable {key : SortKey} {x y : Option Value}

theorem order_isLE_iff (h : key = .value → (∀ v ∈ x, v.IsClear) ∧ ∀ v ∈ y, v.IsClear) :
    (key.order x y).isLE ↔ key.rank x ≤ key.rank y := by
  cases key with
  | value =>
    obtain ⟨hx, hy⟩ := h rfl
    change (orderMissing Value.order x y).isLE ↔ Value.place x ≤ Value.place y
    cases x with
    | none =>
      cases y with
      | none => exact iff_of_true rfl le_rfl
      | some y => exact iff_of_true rfl (Value.place_none_lt y).le
    | some x =>
      cases y with
      | none => exact iff_of_false (by simp [orderMissing]) (Value.place_none_lt x).not_ge
      | some y => exact Value.order_isLE_iff (hx x rfl) (hy y rfl)
  | instant =>
    change (orderMissing Instant.order (x.bind Value.instant?) (y.bind Value.instant?)).isLE ↔
      Value.moment x ≤ Value.moment y
    unfold Value.moment
    cases x.bind Value.instant? with
    | none => exact iff_of_true (by cases y.bind Value.instant? <;> rfl) bot_le
    | some i =>
      cases y.bind Value.instant? with
      | none => simp [orderMissing]
      | some j => simp [orderMissing, Instant.order_eq_compare, isLE_compare_iff]

/-- Values are compared by their ranks. -/
theorem order_eq_compare (h : key = .value → (∀ v ∈ x, v.IsClear) ∧ ∀ v ∈ y, v.IsClear) :
    key.order x y = compare (key.rank x) (key.rank y) := by
  have hle := order_isLE_iff h
  have hge := order_isLE_iff (fun hkey => (h hkey).symm)
  rw [key.order_swap x y] at hge
  rcases lt_trichotomy (key.rank x) (key.rank y) with hlt | heq | hgt
  · rw [compare_lt_iff_lt.mpr hlt]
    cases ho : key.order x y <;> simp [ho, hlt.le, hlt.not_ge] at hle hge ⊢
  · rw [compare_eq_iff_eq.mpr heq]
    cases ho : key.order x y <;> simp [ho, heq] at hle hge ⊢
  · rw [compare_gt_iff_gt.mpr hgt]
    cases ho : key.order x y <;> simp [ho, hgt.le, hgt.not_ge] at hle hge ⊢

end SortKey

/-! ## Documents -/

theorem IntegersAt.isClear {names : List String} {documents : List Value} {d v : Value}
    (h : IntegersAt names documents) (hd : d ∈ documents)
    (hv : v ∈ FieldPath.follow names d) : v.IsClear := by
  rintro n rfl
  obtain ⟨i, hi⟩ := h d hd n (FieldPath.reaches_iff_follow.mpr hv)
  exact ⟨i, Value.int64?_eq_some_iff.mpr ⟨congrArg Value.number hi.1, hi.2⟩⟩

namespace OrderBy

variable {o o' : OrderBy} {names names' : List String} {documents : List Value}

/-- The field of the ordering is the path of these names. -/
structure Follows (o : OrderBy) (names : List String) : Prop where
  dotted : Dotted o.field names
  notBlank : ∀ n ∈ names, Text.isBlank n = false

/-- The ordering is by instants, or all numbers that the names lead to are
signed 64-bit integers. -/
def HasRanks (o : OrderBy) (names : List String) (documents : List Value) : Prop :=
  o.key = .instant ∨ IntegersAt names documents

/-- The order of documents by the ranks of what the names lead to. -/
def rankOrder (o : OrderBy) (names : List String) (a b : Value) : Ordering :=
  o.direction.apply
    (compare (o.key.rank (FieldPath.follow names a)) (o.key.rank (FieldPath.follow names b)))

theorem ranks_rankOrder (o : OrderBy) (names : List String) (documents : List Value) :
    Ranks (o.rankOrder names) documents where
  swap a b := by
    unfold rankOrder
    rw [← Direction.apply_swap, ← Std.OrientedOrd.eq_swap]
  trans a _ b _ c _ := by
    unfold rankOrder
    cases o.direction with
    | ascending =>
      simp only [Direction.apply, isLE_compare_iff]
      exact le_trans
    | descending =>
      simp only [Direction.apply, ← Std.OrientedOrd.eq_swap, isLE_compare_iff]
      exact fun hab hbc => hbc.trans hab

/-- Sorting is stable sorting by rank. -/
theorem sort_eq_stableSort (h : o.Follows names) (hranks : o.HasRanks names documents)
    (sorting : Sorting) :
    o.sort sorting documents = some (stableSort (o.rankOrder names) documents) := by
  have hpath : FieldPath.ofText? o.field = some ⟨names⟩ :=
    FieldPath.ofText?_eq_some_iff.mpr ⟨h.dotted, h.notBlank⟩
  rw [← (o.ranks_rankOrder names documents).sort_eq_stableSort sorting]
  unfold sort
  rw [hpath]
  apply Sorting.sort_congr
  intro a ha b hb
  unfold compareAt rankOrder
  congr 1
  apply SortKey.order_eq_compare
  intro hkey
  rcases hranks with hinstant | hintegers
  · cases hkey.symm.trans hinstant
  · exact ⟨fun v hv => hintegers.isClear ha hv, fun v hv => hintegers.isClear hb hv⟩

theorem exists_isStableSort (h : o.Follows names) (hranks : o.HasRanks names documents)
    (sorting : Sorting) :
    ∃ sorted, o.sort sorting documents = some sorted ∧
      IsStableSort (o.rankOrder names) documents sorted :=
  ⟨_, sort_eq_stableSort h hranks sorting,
    isStableSort_stableSort (o.ranks_rankOrder names documents)⟩

/-- The ordering in the other direction. -/
def towards (o : OrderBy) (d : Direction) : OrderBy := { o with direction := d }

theorem rankOrder_descending (o : OrderBy) (names : List String) (a b : Value) :
    (o.towards .descending).rankOrder names a b = (o.towards .ascending).rankOrder names b a := by
  change (compare (o.key.rank _) (o.key.rank _)).swap = compare (o.key.rank _) (o.key.rank _)
  rw [← Std.OrientedOrd.eq_swap]

theorem Follows.towards (h : o.Follows names) (d : Direction) : (o.towards d).Follows names :=
  ⟨h.dotted, h.notBlank⟩

theorem HasRanks.of_perm {documents' : List Value} (h : o.HasRanks names documents)
    (hperm : documents'.Perm documents) : o.HasRanks names documents' :=
  h.imp id fun hintegers d hd => hintegers d (hperm.mem_iff.mp hd)

/-- **Sorting is stable sorting by rank.** An ordering whose field is no path
leaves documents as they are. Any other one sorts them stably in its direction,
where sorting downwards is sorting the reversed list upwards and reversing the
result, and where one sort after another is one stable sort by both ranks, the
later one first. None of these sorts is given up. -/
theorem sort_is_stable (o : OrderBy) (sorting : Sorting) (documents : List Value) :
    ((¬ ∃ names, o.Follows names) → o.sort sorting documents = some documents) ∧
    ∀ names, o.Follows names → o.HasRanks names documents →
      (∃ sorted, o.sort sorting documents = some sorted ∧
        IsStableSort (o.rankOrder names) documents sorted) ∧
      (∃ sorted, (o.towards .ascending).sort sorting documents.reverse = some sorted ∧
        (o.towards .descending).sort sorting documents = some sorted.reverse) ∧
      ∀ (o' : OrderBy) names', o'.Follows names' → o'.HasRanks names' documents →
        ∃ once twice, o'.sort sorting documents = some once ∧ o.sort sorting once = some twice ∧
          IsStableSort (fun a b => (o.rankOrder names a b).then (o'.rankOrder names' a b))
            documents twice := by
  refine ⟨?invalid, ?valid⟩
  case invalid =>
    intro hno
    apply sort_of_no_path
    apply Option.eq_none_iff_forall_ne_some.mpr
    intro path hpath
    obtain ⟨hdot, hblank⟩ := FieldPath.ofText?_eq_some_iff.mp hpath
    exact hno ⟨path.segments, hdot, hblank⟩
  case valid =>
    intro names h hranks
    refine ⟨exists_isStableSort h hranks sorting, ?duality, ?twice⟩
    case duality =>
      have hup : (o.towards .ascending).HasRanks names documents.reverse :=
        hranks.of_perm (List.reverse_perm documents)
      obtain ⟨up, hsortUp, hstableUp⟩ := exists_isStableSort (h.towards .ascending) hup sorting
      obtain ⟨down, hsortDown, hstableDown⟩ :=
        exists_isStableSort (o := o.towards .descending) (h.towards .descending) hranks sorting
      have hturned := hstableUp.reverse (ranks_rankOrder _ names documents)
      have horder : (fun a b => (o.towards .ascending).rankOrder names b a) =
          (o.towards .descending).rankOrder names := by
        funext a b
        exact (o.rankOrder_descending names a b).symm
      rw [horder] at hturned
      have hdown : down = up.reverse :=
        hstableDown.unique (ranks_rankOrder _ names documents) hturned
      exact ⟨up, hsortUp, hdown ▸ hsortDown⟩
    case twice =>
      intro o' names' h' hranks'
      obtain ⟨once, hsort, hfirst⟩ := exists_isStableSort h' hranks' sorting
      obtain ⟨twice, hsort', hsecond⟩ :=
        exists_isStableSort h (hranks.of_perm hfirst.perm) sorting
      exact ⟨once, twice, hsort, hsort',
        hfirst.trans (o.ranks_rankOrder names documents) hsecond⟩

/-- Posts of every kind of rank, two of them equal, sorted by their dates and
then downwards by their ranks. -/
theorem sort_is_stable_posts :
    let post (rank : Value) (since : String) : Value :=
      .object [("rank", rank), ("since", .string since)]
    let posts : List Value := [post (.int 7) "2024-07-16", post .null "now",
      post (.string "b") "2024-07-16T01:00:00+02:00", post (.int 7) "2024-07-15", .null,
      post (.int (-2 ^ 63)) "2024-07-16T00:00:00"]
    let byRank : OrderBy := ⟨"rank", .descending, .value⟩
    let bySince : OrderBy := ⟨"since", .ascending, .instant⟩
    byRank.Follows ["rank"] ∧ byRank.HasRanks ["rank"] posts ∧
      (∃ sorted, byRank.sort .insertion posts = some sorted ∧
        IsStableSort (byRank.rankOrder ["rank"]) posts sorted) ∧
      (∃ once twice, bySince.sort .insertion posts = some once ∧
        byRank.sort .insertion once = some twice ∧
        IsStableSort (fun a b => (byRank.rankOrder ["rank"] a b).then
          (bySince.rankOrder ["since"] a b)) posts twice) ∧
      OrderBy.sort ⟨"rank.", .ascending, .value⟩ .insertion posts = some posts := by
  intro post posts byRank bySince
  have hrank : byRank.Follows ["rank"] := ⟨dotted_iff.mpr (by decide +kernel), by decide +kernel⟩
  have hsince : bySince.Follows ["since"] := ⟨dotted_iff.mpr (by decide +kernel), by decide +kernel⟩
  have hposts : byRank.HasRanks ["rank"] posts := by
    refine .inr fun d hd n hn => ?_
    rw [FieldPath.reaches_iff_follow] at hn
    simp only [posts, List.mem_cons, List.not_mem_nil, or_false] at hd
    rcases hd with rfl | rfl | rfl | rfl | rfl | rfl <;> cases hn <;> exact ⟨_, rfl, by decide⟩
  obtain ⟨hsorted, -, htwice⟩ := (byRank.sort_is_stable .insertion posts).2 _ hrank hposts
  refine ⟨hrank, hposts, hsorted, htwice bySince _ hsince (.inl rfl),
    (sort_is_stable _ .insertion posts).1 ?_⟩
  rintro ⟨names, hdot, hblank⟩
  cases dotted_iff.mp hdot
  exact absurd (hblank "" (by decide +kernel)) (by decide)

end OrderBy

end DocSieve
