-- SUMMARY: A denied field stays hidden: which documents are selected depends neither on what it holds nor on what is asked of it.
import DocSieve.Proofs.Service.Answer
import DocSieve.Proofs.Store.Agreement

/-!
# Denied fields

Two runs are compared that differ in the values of a denied field and in what
the requests say about denied fields. A denied clause is dropped before it is
looked at, and a path that is not denied has other names than the denied one,
so both runs fail alike or select the same positions. Sorting sees the documents
through comparisons, which have the same outcomes, so it is given up in both
runs or in neither.
-/

namespace DocSieve

open Json

/-! ## Requests -/

/-- Requests that are the same without their clauses on denied fields and
without an ordering by one. -/
structure Request.AgreeOff (denied : List String) (q q' : Request) : Prop where
  filters : (q.filters.getD []).filter (·.field ∉ denied) =
    (q'.filters.getD []).filter (·.field ∉ denied)
  orderBy : q.orderBy.filter (· ∉ denied) = q'.orderBy.filter (· ∉ denied)
  orderDirection : q.orderDirection = q'.orderDirection

theorem Denylist.stripRequest_orderBy (d : Denylist) (q : Request) :
    (d.stripRequest q).orderBy = q.orderBy.filter (· ∉ d.fields) := by
  simp [stripRequest, contains]

theorem Request.AgreeOff.compileAllowed_eq {d : Denylist} {q q' : Request}
    (h : q.AgreeOff d.fields q') (r : Registry) (entity : String) :
    r.compileAllowed d entity q = r.compileAllowed d entity q' := by
  have hfilters : (d.stripRequest q).filters.getD [] = (d.stripRequest q').filters.getD [] := by
    simpa only [Denylist.stripRequest_filters, Denylist.keep_eq_filter] using h.filters
  have horderBy : (d.stripRequest q).orderBy = (d.stripRequest q').orderBy := by
    simpa only [Denylist.stripRequest_orderBy] using h.orderBy
  have hdirection : (d.stripRequest q).orderDirection = (d.stripRequest q').orderDirection :=
    h.orderDirection
  unfold Registry.compileAllowed Registry.compile
  rw [hfilters, horderBy, hdirection]

/-- What is compiled does not look at a denied field, since only the text of
that field spells its names. -/
theorem Registry.compileAllowed_avoids {r : Registry} {d : Denylist} {entity denied : String}
    {q : Request} {compiled : Query} {names : List String}
    (h : r.compileAllowed d entity q = .ok compiled) (hd : denied ∈ d.fields)
    (hnames : Dotted denied names) : compiled.Avoids names := by
  obtain ⟨hconditions, horder⟩ := compile_ok_iff.mp h
  have hspelled {field : String} {ns : List String} (hfield : field ∉ d.fields)
      (hns : Dotted field ns) : ns ≠ names := by
    rintro rfl
    exact hfield (hns.text_unique hnames ▸ hd)
  refine ⟨fun k hk => ?_, fun o ho path hpath => ?_⟩
  · obtain ⟨c, hc, hcompile⟩ := Clause.exists_compile_of_mem hconditions hk
    rw [Denylist.stripRequest_filters] at hc
    exact hspelled (Denylist.mem_keep_iff.mp hc).2 (Clause.compile_names hcompile)
  · have hfield := orderBy?_field (horder ▸ ho)
    rw [Denylist.stripRequest_orderBy, Option.filter_eq_some_iff] at hfield
    exact hspelled (of_decide_eq_true hfield.2) (FieldPath.ofText?_eq_some_iff.mp hpath).1

/-! ## Two runs -/

namespace Service

/-- **Denied fields do not interfere.** Take collections that agree off a denied
field, and requests that agree off denied fields. Both queries fail with the
same error, or both are given up, or both select the same positions in the same
order. -/
theorem query_noninterference {r : Registry} {d : Denylist} {sorting : Sorting}
    {collections collections' : List (String × Collection)} {name denied : String}
    {names : List String} {q q' : Request}
    (hd : denied ∈ d.fields) (hnames : Dotted denied names)
    (hrequests : q.AgreeOff d.fields q')
    (hstored : Option.Rel
      (fun c c' => List.Forall₂ (Value.AgreeOff names) c.documents c'.documents)
      (collections.lookup name) (collections'.lookup name)) :
    (∃ e, query ⟨r, d, collections, sorting⟩ name q = .error e ∧
      query ⟨r, d, collections', sorting⟩ name q' = .error e) ∨
    (query ⟨r, d, collections, sorting⟩ name q = .ok none ∧
      query ⟨r, d, collections', sorting⟩ name q' = .ok none) ∨
    ∃ c c' compiled positions, collections.lookup name = some c ∧
      collections'.lookup name = some c' ∧
      c.positions sorting compiled = some positions ∧
      c'.positions sorting compiled = some positions ∧
      query ⟨r, d, collections, sorting⟩ name q = .ok (some (positions.map c.documentAt)) ∧
      query ⟨r, d, collections', sorting⟩ name q' = .ok (some (positions.map c'.documentAt)) := by
  generalize hlookup : collections.lookup name = found at hstored
  generalize hlookup' : collections'.lookup name = found' at hstored
  cases hstored with
  | none => exact .inl ⟨.unknownCollection name, by simp [query, hlookup], by simp [query, hlookup']⟩
  | @some c c' hdocuments =>
    have hcompile := hrequests.compileAllowed_eq r name
    cases hcompiled : r.compileAllowed d name q' with
    | error e =>
      refine .inl ⟨.filter e, ?_, ?_⟩
      · simp [query, hlookup, hcompile, hcompiled]
      · simp [query, hlookup', hcompiled]
    | ok compiled =>
      have havoids := Registry.compileAllowed_avoids hcompiled hd hnames
      have hsame := havoids.positions_eq hdocuments sorting
      cases hpositions : c.positions sorting compiled with
      | none =>
        refine .inr (.inl ⟨?_, ?_⟩)
        · simp [query, hlookup, hcompile, hcompiled, Collection.run_eq_positions, hpositions]
        · simp [query, hlookup', hcompiled, Collection.run_eq_positions, ← hsame, hpositions]
      | some positions =>
        refine .inr (.inr ⟨c, c', compiled, positions, rfl, rfl, hpositions,
          hsame.symm.trans hpositions, ?_, ?_⟩)
        · simp [query, hlookup, hcompile, hcompiled, Collection.run_eq_positions, hpositions]
        · simp [query, hlookup', hcompiled, Collection.run_eq_positions, ← hsame, hpositions]

/-- A record of staff with members that a job has besides its beginning. -/
def staffRecord (name : String) (job : List (String × Value)) : Value :=
  .object [("name", .string name), ("job", .object (("since", .string "2024-07-16") :: job))]

theorem staffRecord_agreeOff (name : String) {job job' : List (String × Value)}
    (hrest : ∀ m, m ≠ "grade" → job.lookup m = job'.lookup m)
    (hgrade : ∀ x, job.lookup "grade" = some x → x.isObject = false)
    (hgrade' : ∀ x, job'.lookup "grade" = some x → x.isObject = false) :
    Value.AgreeOff ["job", "grade"] (staffRecord name job) (staffRecord name job') := by
  refine .nested (fun m hm => ?_) rfl rfl (.last (fun m hm => ?_) hgrade hgrade')
  · simp [List.lookup_cons, beq_eq_false_iff_ne.mpr hm]
  · rw [List.lookup_cons, List.lookup_cons, hrest m hm]

/-- Neither two grades nor a clause on them and an ordering by them make a
difference where grades are denied. Both queries select two documents. -/
theorem query_noninterference_staff :
    let collections := [("staff", Collection.mk
      [staffRecord "Ada" [("grade", .int 3)], staffRecord "Eve" [], staffRecord "Bob" []])]
    let collections' := [("staff", Collection.mk
      [staffRecord "Ada" [], staffRecord "Eve" [], staffRecord "Bob" [("grade", .string "7")]])]
    let asked : Clause := .of "name" .notEquals "eve"
    let q : Request := ⟨some [asked, ⟨"job.grade", none, none, none⟩], some "job.grade", some "asc"⟩
    let q' : Request := ⟨some [asked], none, some "asc"⟩
    let s : Service := ⟨staff.registry, ⟨["job.grade"]⟩, collections, .insertion⟩
    let s' : Service := ⟨staff.registry, ⟨["job.grade"]⟩, collections', .insertion⟩
    (∃ answer, s.query "staff" q = .ok (some answer) ∧ answer.length = 2) ∧
    ((∃ e, s.query "staff" q = .error e ∧ s'.query "staff" q' = .error e) ∨
      (s.query "staff" q = .ok none ∧ s'.query "staff" q' = .ok none) ∨
      ∃ c c' compiled positions, collections.lookup "staff" = some c ∧
        collections'.lookup "staff" = some c' ∧
        c.positions .insertion compiled = some positions ∧
        c'.positions .insertion compiled = some positions ∧
        s.query "staff" q = .ok (some (positions.map c.documentAt)) ∧
        s'.query "staff" q' = .ok (some (positions.map c'.documentAt))) := by
  have hgrade {x : Value} (hx : x.isObject = false) (y : Value)
      (hy : [("grade", x)].lookup "grade" = some y) : y.isObject = false := by
    cases hy
    exact hx
  have hrest (x : Value) (m : String) (hm : m ≠ "grade") : [("grade", x)].lookup m = none := by
    simp [List.lookup_cons, beq_eq_false_iff_ne.mpr hm]
  have hnames : Dotted "job.grade" ["job", "grade"] := dotted_iff.mpr (by decide +kernel)
  refine ⟨exists_answer_of_length (by decide +kernel), ?_⟩
  refine query_noninterference (by simp) hnames ⟨by decide +kernel, by decide +kernel, rfl⟩
    (.some (.cons ?_ (.cons ?_ (.cons ?_ .nil))))
  · exact staffRecord_agreeOff _ (hrest _) (hgrade rfl) (by simp)
  · exact staffRecord_agreeOff _ (by simp) (by simp) (by simp)
  · exact staffRecord_agreeOff _ (fun m hm => (hrest _ m hm).symm) (by simp) (hgrade rfl)

end Service

end DocSieve
