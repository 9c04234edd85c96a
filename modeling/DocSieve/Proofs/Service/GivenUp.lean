-- SUMMARY: When a query is given up: exactly where its ordering compares numbers that a double blurs.
import DocSieve.Proofs.Service.Answer
import DocSieve.Proofs.Store.Ranking

/-!
# Queries that are given up

An accepted query has an answer unless sorting the documents is given up. Which
sorts give up is left open, but none does as long as the documents can be ranked,
and where they cannot there is one that does. So what is to be said of every sort
is said by the blurred numbers that a query finds.
-/

namespace DocSieve

open Json

namespace Service

variable {s : Service} {name : String} {q : Request}

/-- The service with another sort. -/
def withSorting (s : Service) (sorting : Sorting) : Service := { s with sorting := sorting }

/-- The request is accepted, and among the documents that it selects three have
blurred numbers where its ordering compares values. -/
def Blurs (s : Service) (name : String) (q : Request) : Prop :=
  ∃ collection compiled, s.collections.lookup name = some collection ∧
    s.registry.compileAllowed s.denylist name q = .ok compiled ∧ collection.Blurs compiled

/-- Some sort gives a request up exactly if the request blurs numbers. -/
theorem exists_given_up_iff :
    (∃ sorting, (s.withSorting sorting).query name q = .ok none) ↔ s.Blurs name q := by
  simp only [query_eq_ok_iff, withSorting]
  constructor
  · rintro ⟨sorting, collection, compiled, hcollection, hcompiled, hrun⟩
    exact ⟨collection, compiled, hcollection, hcompiled,
      Collection.exists_run_eq_none_iff.mp ⟨sorting, hrun⟩⟩
  · rintro ⟨collection, compiled, hcollection, hcompiled, hblurs⟩
    obtain ⟨sorting, hrun⟩ := Collection.exists_run_eq_none_iff.mpr hblurs
    exact ⟨sorting, collection, compiled, hcollection, hcompiled, hrun⟩

/-- A request that is given up asks a collection that stores an integer that a
double may not hold. -/
theorem exceeds_of_given_up (h : s.query name q = .ok none) :
    ∃ collection, s.collections.lookup name = some collection ∧
      ∃ d ∈ collection.documents, ∃ (names : List String) (n : Int),
        FieldPath.Reaches d names (.int n) ∧ 2 ^ 53 < n.natAbs := by
  obtain ⟨collection, compiled, hcollection, -, hblurs⟩ : s.Blurs name q :=
    exists_given_up_iff.mp ⟨s.sorting, h⟩
  exact ⟨collection, hcollection, hblurs.exceeds⟩

/-! ## An example -/

/-- Three kinds of amounts, so arranged that insertion does not put them in order
when two of them differ and the third is equal to both. -/
def tangled {α : Type} (lesser double greater : α) : List α :=
  [lesser, greater, lesser, greater, double, greater, greater, greater, lesser, lesser, greater,
    double, lesser, greater, double, lesser, greater, lesser, greater, double, double]

/-- A ledger of two integers that differ by one and a double that both are
rounded to. -/
def ledger : Service where
  registry := ⟨[⟨"ledger", none, [("amount", .float)]⟩]⟩
  denylist := ⟨[]⟩
  collections :=
    let amounts : List Number :=
      tangled (.int (2 ^ 53)) (.double (.ofInt (2 ^ 53))) (.int (2 ^ 53 + 1))
    [("ledger", ⟨amounts.map fun amount => .object [("amount", .number amount)]⟩)]
  sorting := .insertion

/-- A request for the whole ledger from the least amount to the greatest. -/
def byAmount : Request := ⟨none, some "amount", some "asc"⟩

theorem ledger_given_up : ledger.query "ledger" byAmount = .ok none := by
  have hnone : (ledger.query "ledger" byAmount).toOption.map Option.isNone = some true := by
    decide +kernel
  obtain ⟨outcome, houtcome, hnone⟩ := Option.map_eq_some_iff.mp hnone
  rw [Except.toOption_eq_some_iff.mp houtcome, Option.isNone_iff_eq_none.mp hnone]

end Service

end DocSieve
