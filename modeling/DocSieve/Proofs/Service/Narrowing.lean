-- SUMMARY: More clauses select fewer documents, in the same order, and neither the order nor the repetition of clauses matters.
import DocSieve.Proofs.Service.Answer
import DocSieve.Proofs.Store.Ranking

/-!
# Narrowing

Each clause is compiled by itself, and a document has to meet all of them, so a
request with more clauses is refused more often and admits fewer documents. The
documents that remain keep their places among each other, since leaving
documents out commutes with sorting.
-/

namespace DocSieve

open Json

/-! ## Requests -/

/-- Requests with the same ordering, where each clause of the first is one of
the second. How often and in which order the clauses come is left open. -/
structure Request.NarrowedBy (q q' : Request) : Prop where
  clauses : q.filters.getD [] ⊆ q'.filters.getD []
  orderBy : q.orderBy = q'.orderBy
  orderDirection : q.orderDirection = q'.orderDirection

/-- What a request compiles to admits the documents that meet its clauses. -/
theorem Registry.admits_iff_of_compile {r : Registry} {entity : String} {q : Request} {p : Query}
    (h : r.compile entity q = .ok p) (document : Value) :
    p.admits document = true ↔ ∀ c ∈ q.filters.getD [], c.MetBy r entity document :=
  Clause.compileAll_admits_iff (compile_ok_iff.mp h).1 document

namespace Request.NarrowedBy

variable {q q' : Request}

theorem stripRequest (h : q.NarrowedBy q') (d : Denylist) :
    (d.stripRequest q).NarrowedBy (d.stripRequest q') where
  clauses := by
    intro c hc
    rw [Denylist.stripRequest_filters, Denylist.mem_keep_iff] at hc ⊢
    exact ⟨h.clauses hc.1, hc.2⟩
  orderBy := by simp only [Denylist.stripRequest, h.orderBy]
  orderDirection := h.orderDirection

/-- A request that asks less compiles when the other does, orders alike and
admits at least as much. -/
theorem compile {r : Registry} {entity : String} {p' : Query} (h : q.NarrowedBy q')
    (hp' : r.compile entity q' = .ok p') :
    ∃ p, r.compile entity q = .ok p ∧ p.order = p'.order ∧
      ∀ document, p'.admits document = true → p.admits document = true := by
  obtain ⟨hconditions, horder⟩ := Registry.compile_ok_iff.mp hp'
  have hall := Clause.compileAll_ok_iff.mp ⟨_, hconditions⟩
  obtain ⟨conditions, hcompiled⟩ :=
    Clause.compileAll_ok_iff.mpr fun c hc => hall c (h.clauses hc)
  have hp : r.compile entity q =
      .ok ⟨conditions, r.orderBy? entity q.orderBy q.orderDirection⟩ :=
    Registry.compile_ok_iff.mpr ⟨hcompiled, rfl⟩
  refine ⟨_, hp, ?_, ?_⟩
  · rw [horder, h.orderBy, h.orderDirection]
  · intro document hmet
    rw [Registry.admits_iff_of_compile hp' document] at hmet
    rw [Registry.admits_iff_of_compile hp document]
    intro c hc
    exact hmet c (h.clauses hc)

end Request.NarrowedBy

/-! ## Answers -/

namespace Service

/-- The stored documents can be ranked by the ordering of a request: if it
compares values, the numbers among them are signed 64-bit integers. -/
def CanOrder (s : Service) (name : String) (q : Request) : Prop :=
  ∀ c ∈ s.collections.lookup name,
    ∀ o ∈ s.registry.orderBy? name (s.denylist.stripRequest q).orderBy q.orderDirection,
      o.CanRank c.documents

/-- Narrowing a request that compiles narrows the run of its query. -/
theorem exists_runs_of_narrowedBy {s : Service} {name : String} {q q' : Request}
    {outcome' : Option (List Value)} (h : q.NarrowedBy q')
    (h' : s.query name q' = .ok outcome') :
    ∃ collection p p', s.collections.lookup name = some collection ∧
      s.registry.compile name (s.denylist.stripRequest q) = .ok p ∧
      s.registry.compile name (s.denylist.stripRequest q') = .ok p' ∧
      s.query name q = .ok (collection.run s.sorting p) ∧
      collection.run s.sorting p' = outcome' ∧
      p.order = p'.order ∧ ∀ d, p'.admits d = true → p.admits d = true := by
  obtain ⟨collection, p', hcollection, hp', hrun'⟩ := query_eq_ok_iff.mp h'
  obtain ⟨p, hp, horder, hadmits⟩ := (h.stripRequest s.denylist).compile hp'
  have hquery := query_eq_ok_iff.mpr ⟨collection, p, hcollection, hp, rfl⟩
  exact ⟨collection, p, p', hcollection, hp, hp', hquery, hrun', horder, hadmits⟩

/-- Requests that narrow each other have the same answer. -/
theorem query_eq_of_narrowedBy {s : Service} {name : String} {q q' : Request}
    {outcome : Option (List Value)} (h : q.NarrowedBy q') (h' : q'.NarrowedBy q)
    (houtcome : s.query name q = .ok outcome) : s.query name q' = .ok outcome := by
  obtain ⟨collection, p', p, -, hp', hp, hquery', rfl, horder, hadmits⟩ :=
    exists_runs_of_narrowedBy h' houtcome
  rw [hquery']
  congr 1
  refine Collection.run_congr horder ?_ s.sorting
  intro d _
  -- the other direction admits at least as much, so both admit the same
  obtain ⟨p₂, hp₂, -, hadmits'⟩ := (h.stripRequest s.denylist).compile hp'
  cases hp.symm.trans hp₂
  exact Bool.eq_iff_iff.mpr ⟨hadmits' d, hadmits d⟩

open Classical in
/-- **More clauses narrow the answer.** If each clause of a request is one of
another, then the first is accepted whenever the second is. As far as the
ordering can rank the documents both are answered then, and the answer to the
second is what meets its allowed clauses of the answer to the first, at the same
places. Requests with the same clauses in another order or number have the same
answers. -/
theorem query_narrows {s : Service} {name : String} {q q' : Request} (h : q.NarrowedBy q') :
    ((∃ outcome', s.query name q' = .ok outcome') → ∃ outcome, s.query name q = .ok outcome) ∧
    (s.CanOrder name q → ∀ outcome', s.query name q' = .ok outcome' →
      ∃ answer answer', s.query name q = .ok (some answer) ∧ outcome' = some answer' ∧
        answer' = answer.filter fun document =>
          ∀ c ∈ q'.filters.getD [], c.field ∉ s.denylist.fields →
            c.MetBy s.registry name document) ∧
    (q'.NarrowedBy q →
      ∀ outcome, s.query name q = .ok outcome ↔ s.query name q' = .ok outcome) := by
  refine ⟨?accepted, ?narrowed, ?same⟩
  case accepted =>
    rintro ⟨outcome', h'⟩
    obtain ⟨collection, p, p', -, -, -, hquery, -⟩ := exists_runs_of_narrowedBy h h'
    exact ⟨_, hquery⟩
  case narrowed =>
    intro hranks outcome' h'
    obtain ⟨collection, p, p', hcollection, hp, hp', hquery, rfl, horder, hadmits⟩ :=
      exists_runs_of_narrowedBy h h'
    have hcanRank : ∀ o ∈ p.order, o.CanRank collection.documents := by
      rw [(Registry.compile_ok_iff.mp hp).2]
      exact hranks collection hcollection
    obtain ⟨answer, hrun⟩ := Collection.exists_run hcanRank s.sorting
    refine ⟨answer, _, hrun ▸ hquery, ?_, rfl⟩
    rw [Collection.run_filter horder hcanRank (fun d _ => hadmits d) s.sorting, hrun,
      Option.map_some, Option.some.injEq]
    apply List.filter_congr
    intro d _
    rw [Bool.eq_iff_iff, decide_eq_true_iff, Registry.admits_iff_of_compile hp' d,
      Denylist.stripRequest_filters, Denylist.forall_keep_iff]
  case same =>
    intro h' outcome
    exact ⟨query_eq_of_narrowedBy h h', query_eq_of_narrowedBy h' h⟩

/-- A request for the staff whose grade is not 5, ordered by grade, with more
clauses in front. -/
def graded (more : List Clause) : Request where
  filters := some (more ++ [.of "job.grade" .notEquals "5"])
  orderBy := some "job.grade"
  orderDirection := some "asc"

open Classical in
/-- All three records have a grade other than 5, two of them since 2017. The
clause on the denied pin changes nothing, and neither does the repeated one. -/
theorem query_narrows_staff :
    let q := graded []
    let q' := graded [.of "job.grade" .notEquals "5", .of "pin" .equals "1",
      .of "job.since" .greaterThan "2017-01-01"]
    ∃ answer answer', staff.query "staff" q = .ok (some answer) ∧
      staff.query "staff" q' = .ok (some answer') ∧ answer.length = 3 ∧ answer'.length = 2 ∧
      answer' = answer.filter fun document =>
        ∀ c ∈ q'.filters.getD [], c.field ∉ staff.denylist.fields →
          c.MetBy staff.registry "staff" document := by
  intro q q'
  obtain ⟨answer, hanswer, hlength⟩ : ∃ answer, staff.query "staff" q = .ok (some answer) ∧
      answer.length = 3 := exists_answer_of_length (by decide +kernel)
  obtain ⟨answer', hanswer', hlength'⟩ : ∃ answer', staff.query "staff" q' = .ok (some answer') ∧
      answer'.length = 2 := exists_answer_of_length (by decide +kernel)
  have hnarrowed : q.NarrowedBy q' := ⟨by decide +kernel, rfl, rfl⟩
  have hcanOrder : staff.CanOrder "staff" q := by
    have horder : staff.registry.orderBy? "staff" (staff.denylist.stripRequest q).orderBy
        q.orderDirection = some ⟨"job.grade", .ascending, .value⟩ := by decide +kernel
    intro c hc o ho _ names hdot d hd n hn
    cases hc
    cases horder.symm.trans ho
    have hnames : names = ["job", "grade"] :=
      hdot.unique (dotted_iff.mpr (by decide +kernel))
    rw [hnames, FieldPath.reaches_iff_follow] at hn
    simp only [List.mem_cons, List.not_mem_nil, or_false] at hd
    rcases hd with rfl | rfl | rfl <;> cases hn
    · exact ⟨3, rfl, by decide⟩
    · exact ⟨7, rfl, by decide⟩
    · exact ⟨3, rfl, by decide⟩
  obtain ⟨-, hfilter, -⟩ := @query_narrows staff "staff" q q' hnarrowed
  obtain ⟨_, _, hanswer₂, hanswer₂', heq⟩ := hfilter hcanOrder _ hanswer'
  cases hanswer.symm.trans hanswer₂
  cases hanswer₂'
  exact ⟨answer, answer', hanswer, hanswer', hlength, hlength', heq⟩

end Service

end DocSieve
