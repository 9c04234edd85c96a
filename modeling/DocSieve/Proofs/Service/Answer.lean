-- SUMMARY: The answer to a query: the stored documents that meet every clause on a field that is not denied.
import DocSieve.Proofs.Filter.Meaning
import DocSieve.Proofs.Store.Sorting
import DocSieve.Service.Query

/-!
# Answers

A query that is answered is answered with stored documents, each as often as it
is stored, and which ones these are is said by the clauses alone.
-/

namespace DocSieve

open Json

theorem Denylist.keep_eq_filter (d : Denylist) (cs : List Clause) :
    d.keep cs = cs.filter (·.field ∉ d.fields) := by
  simp [keep, contains]

theorem Denylist.mem_keep_iff {d : Denylist} {cs : List Clause} {c : Clause} :
    c ∈ d.keep cs ↔ c ∈ cs ∧ c.field ∉ d.fields := by
  simp [keep_eq_filter]

theorem Denylist.forall_keep_iff {d : Denylist} {cs : List Clause} {P : Clause → Prop} :
    (∀ c ∈ d.keep cs, P c) ↔ ∀ c ∈ cs, c.field ∉ d.fields → P c := by
  simp only [mem_keep_iff, and_imp]

theorem Denylist.stripRequest_filters (d : Denylist) (q : Request) :
    (d.stripRequest q).filters.getD [] = d.keep (q.filters.getD []) := by
  cases h : q.filters <;> simp [stripRequest, strip, h, keep]

namespace Service

/-- An answer comes from the collection of that name, by a query that compiles
without the denied fields. -/
theorem query_eq_ok_iff {s : Service} {name : String} {q : Request}
    {outcome : Option (List Value)} :
    s.query name q = .ok outcome ↔ ∃ collection compiled,
      s.collections.lookup name = some collection ∧
      s.registry.compile name (s.denylist.stripRequest q) = .ok compiled ∧
      collection.run s.sorting compiled = outcome := by
  unfold query
  cases s.collections.lookup name with
  | none => simp
  | some collection =>
    simp only [Except.bind_eq_ok_iff, Except.mapError_eq_ok_iff, Except.pure_eq_ok,
      Except.ok.injEq, Option.some.injEq, Registry.compileAllowed]
    constructor
    · rintro ⟨compiled, hc, h⟩
      exact ⟨collection, compiled, rfl, hc, h⟩
    · rintro ⟨_, compiled, rfl, hc, h⟩
      exact ⟨compiled, hc, h⟩

open Classical in
/-- **What a query answers.** An answer is, up to order, the stored documents
that meet every clause on a field that is not denied. -/
theorem query_answers_what_clauses_ask {s : Service} {name : String} {q : Request}
    {answer : List Value} (h : s.query name q = .ok (some answer)) :
    ∃ stored, s.collections.lookup name = some ⟨stored⟩ ∧
      answer.Perm (stored.filter fun document =>
        ∀ c ∈ q.filters.getD [], c.field ∉ s.denylist.fields →
          c.MetBy s.registry name document) := by
  obtain ⟨⟨stored⟩, compiled, hstored, hcompiled, hrun⟩ := query_eq_ok_iff.mp h
  refine ⟨stored, hstored, (Collection.run_perm hrun).trans (.of_eq ?_)⟩
  obtain ⟨hconditions, -⟩ := Registry.compile_ok_iff.mp hcompiled
  rw [Denylist.stripRequest_filters] at hconditions
  refine List.filter_congr fun document _ => ?_
  rw [Bool.eq_iff_iff, decide_eq_true_iff, Query.admits,
    Clause.compileAll_admits_iff hconditions]
  constructor
  · intro hmet c hc hfield
    exact hmet c (Denylist.mem_keep_iff.mpr ⟨hc, hfield⟩)
  · intro hmet c hc
    obtain ⟨hc, hfield⟩ := Denylist.mem_keep_iff.mp hc
    exact hmet c hc hfield

/-- An answer is there if its length is. -/
theorem exists_answer_of_length {s : Service} {name : String} {q : Request} {n : Nat}
    (h : (s.query name q).toOption.map (·.map List.length) = some (some n)) :
    ∃ answer, s.query name q = .ok (some answer) ∧ answer.length = n := by
  obtain ⟨outcome, houtcome, hsome⟩ := Option.map_eq_some_iff.mp h
  obtain ⟨answer, rfl, hlength⟩ := Option.map_eq_some_iff.mp hsome
  exact ⟨answer, Except.toOption_eq_some_iff.mp houtcome, hlength⟩

/-! ## An example -/

/-- A service with three records of staff. Their pins are denied. -/
def staff : Service where
  registry := ⟨[⟨"staff", none, [("name", .text),
    ("job", .object [("since", .timestamp), ("grade", .integerId)]), ("pin", .text)]⟩]⟩
  denylist := ⟨["pin"]⟩
  collections := [("staff", ⟨[
    .object [("name", .string "ΟΔΟΣ"),
      ("job", .object [("since", .string "2024-07-16T12:00:00+02:00"), ("grade", .int 3)])],
    .object [("name", .string "Ada"),
      ("job", .object [("since", .string "2016-12-31T23:59:60Z"), ("grade", .int 7)])],
    .object [("name", .null),
      ("job", .object [("since", .string "2024-07-16"), ("grade", .int 3)])]]⟩)]
  sorting := .insertion

/-- A request with a clause of each type, and one on a denied field. -/
def staffRequest : Request where
  filters := some [.of "name" .endsWith "ς", .between "job.grade" "+3" "007",
    .of "job.since" .greaterThan "2016-12-31T23:59:59", .of "pin" .lessThan "0"]
  orderBy := some "job.since"
  orderDirection := some "DESC"

open Classical in
/-- The one answer to the request is the first record. -/
theorem query_answers_what_clauses_ask_staff :
    ∃ answer, staff.query "staff" staffRequest = .ok (some answer) ∧ answer.length = 1 ∧
      ∃ stored, staff.collections.lookup "staff" = some ⟨stored⟩ ∧
        answer.Perm (stored.filter fun document =>
          ∀ c ∈ staffRequest.filters.getD [], c.field ∉ staff.denylist.fields →
            c.MetBy staff.registry "staff" document) := by
  obtain ⟨answer, hok, hlength⟩ : ∃ answer, staff.query "staff" staffRequest = .ok (some answer) ∧
      answer.length = 1 := exists_answer_of_length (by decide +kernel)
  exact ⟨answer, hok, hlength, query_answers_what_clauses_ask hok⟩

end Service

end DocSieve
