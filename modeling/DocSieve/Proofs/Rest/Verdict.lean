-- SUMMARY: What a posted query is answered: one verdict for each request that is not given up, and the status and body of each verdict.
import DocSieve.Proofs.Path
import DocSieve.Proofs.Service.GivenUp
import DocSieve.Proofs.Text.Utf8
import DocSieve.Rest.Router

/-!
# Verdicts on queries

Several things can be wrong with a query at once: its content type, its body,
the collection and the filters. The verdicts say in which order these count,
without the steps of the router. A query that is not given up has exactly one
verdict, and the verdict is all that its answer shows. One that is given up has
neither.
-/

namespace DocSieve

open Json

/-! ## Routes -/

namespace Target

/-- The path of a query, for a piece without a slash. -/
theorem route?_query {encoded : String} (h : '/' ∉ encoded.toList) :
    route? ("/collections/" ++ encoded ++ "/query") = some (.query encoded) := by
  have hjoined : ("/collections/" ++ encoded ++ "/query").toList =
      ['/'].intercalate (["", "collections", encoded, "query"].map String.toList) := by
    simp [List.intercalate]
  have hslash : ∀ p ∈ ["", "collections", encoded, "query"].map String.toList, '/' ∉ p := by
    simp [h]
  have hpieces : Text.pieces '/' ("/collections/" ++ encoded ++ "/query") =
      ["", "collections", encoded, "query"] := by
    unfold Text.pieces
    rw [Text.splitAt_eq_splitOn, hjoined, List.splitOn_intercalate '/' hslash (by simp)]
    simp
  simp only [route?, hpieces]

end Target

/-! ## Verdicts -/

/-- What becomes of a query. -/
inductive Verdict where
  | invalidBody (error : BodyError)
  | unknownCollection
  | badFilter (error : FilterError)
  | found (documents : List Value)

namespace Verdict

def status : Verdict → Nat
  | .invalidBody _ => 400
  | .unknownCollection => 404
  | .badFilter _ => 400
  | .found _ => 200

/-- The body that says what is wrong. -/
def errorBody (text code : String) : Value :=
  .object [("error", .string text), ("code", .string code)]

/-- The body of the answer to a query of the collection `name`. -/
def body (name : String) : Verdict → Value
  | .invalidBody error => errorBody ("Invalid request body: " ++ error.message) "INVALID_BODY"
  | .unknownCollection => errorBody ("Collection not found: " ++ name) "COLLECTION_NOT_FOUND"
  | .badFilter error => errorBody error.text error.code
  | .found documents => .object [("data", .array documents), ("count", .int documents.length)]

/-- The result of a query with this verdict. -/
def result (name : String) : Verdict → Except Rejection (Option (List Value))
  | .invalidBody error => .error (.invalidBody error)
  | .unknownCollection => .error (.unknownCollection name)
  | .badFilter error => .error (.filter error)
  | .found documents => .ok (some documents)

theorem result_injective (name : String) : Function.Injective (result name) := by
  intro v v' h
  cases v <;> cases v' <;> simp_all [result]

end Verdict

/-- The content type of a request stands for JSON. -/
def HttpRequest.IsJson (r : HttpRequest) : Prop :=
  ∃ type, r.header? "content-type" = some type ∧ MediaType.isJson type = true

/-- What the front of the body decodes to. -/
def HttpRequest.decoded (r : HttpRequest) : Except Fault Request :=
  Request.decoder.front (Text.glyphsOfBytes r.body)

namespace Service

variable {s : Service} {name : String} {r : HttpRequest}

/-- The verdict on a query of the collection `name`. -/
inductive Judges (s : Service) (name : String) (r : HttpRequest) : Verdict → Prop where
  | contentType : ¬ r.IsJson → Judges s name r (.invalidBody .contentType)
  | malformed {fault : Fault} : r.IsJson → r.decoded = .error fault →
      Judges s name r (.invalidBody (.json fault))
  | unknownCollection {q : Request} : r.IsJson → r.decoded = .ok q →
      s.collections.lookup name = none → Judges s name r .unknownCollection
  | badFilter {q : Request} {collection : Collection} {error : FilterError} : r.IsJson →
      r.decoded = .ok q → s.collections.lookup name = some collection →
      s.registry.compileAllowed s.denylist name q = .error error →
      Judges s name r (.badFilter error)
  | found {q : Request} {collection : Collection} {compiled : Query} {documents : List Value} :
      r.IsJson → r.decoded = .ok q → s.collections.lookup name = some collection →
      s.registry.compileAllowed s.denylist name q = .ok compiled →
      s.query name q = .ok (some documents) → Judges s name r (.found documents)

theorem isJson_iff : (r.header? "content-type").any MediaType.isJson = true ↔ r.IsJson := by
  simp [HttpRequest.IsJson, Option.any_eq_true]

theorem filterRequest_of_isJson (h : r.IsJson) (hsize : r.body.size ≤ maxBodyLength) :
    r.filterRequest = r.decoded.mapError .json := by
  unfold HttpRequest.filterRequest
  rw [isJson_iff.mpr h]
  simp [Nat.not_lt.mpr hsize, HttpRequest.decoded]

theorem filterRequest_of_not_isJson (h : ¬ r.IsJson) : r.filterRequest = .error .contentType := by
  rw [← isJson_iff, Bool.not_eq_true] at h
  simp [HttpRequest.filterRequest, h]

/-- The verdict decides the result. -/
theorem Judges.queryBody_eq {v : Verdict} (h : s.Judges name r v)
    (hsize : r.body.size ≤ maxBodyLength) : s.queryBody name r = v.result name := by
  unfold queryBody
  cases h with
  | contentType h => rw [filterRequest_of_not_isJson h]; rfl
  | malformed h hq => rw [filterRequest_of_isJson h hsize, hq]; rfl
  | unknownCollection h hq hs =>
    rw [filterRequest_of_isJson h hsize, hq]
    simp [query, hs, Verdict.result]
  | badFilter h hq hs hc =>
    rw [filterRequest_of_isJson h hsize, hq]
    simp [query, hs, hc, Verdict.result]
  | found h hq hs hc hd =>
    rw [filterRequest_of_isJson h hsize, hq]
    simp [hd, Verdict.result]

/-- The request in the body is given up. -/
def GivesUp (s : Service) (name : String) (r : HttpRequest) : Prop :=
  ∃ q, r.IsJson ∧ r.decoded = .ok q ∧ s.query name q = .ok none

theorem GivesUp.queryBody_eq (h : s.GivesUp name r) (hsize : r.body.size ≤ maxBodyLength) :
    s.queryBody name r = .ok none := by
  obtain ⟨q, hjson, hq, hnone⟩ := h
  rw [queryBody, filterRequest_of_isJson hjson hsize, hq]
  simp [hnone]

/-- Every query has a verdict or is given up. -/
theorem judges_or_givesUp (s : Service) (name : String) (r : HttpRequest) :
    (∃ v, s.Judges name r v) ∨ s.GivesUp name r := by
  by_cases hjson : r.IsJson
  case neg => exact .inl ⟨_, .contentType hjson⟩
  cases hq : r.decoded with
  | error fault => exact .inl ⟨_, .malformed hjson hq⟩
  | ok q =>
    cases hs : s.collections.lookup name with
    | none => exact .inl ⟨_, .unknownCollection hjson hq hs⟩
    | some collection =>
      cases hc : s.registry.compileAllowed s.denylist name q with
      | error e => exact .inl ⟨_, .badFilter hjson hq hs hc⟩
      | ok compiled =>
        have hd : s.query name q = .ok (collection.run s.sorting compiled) := by
          simp [query, hs, hc]
        cases hrun : collection.run s.sorting compiled with
        | none => exact .inr ⟨q, hjson, hq, hrun ▸ hd⟩
        | some documents => exact .inl ⟨_, .found hjson hq hs hc (hrun ▸ hd)⟩

/-- A query is given up exactly if no verdict fits. -/
theorem givesUp_iff (hsize : r.body.size ≤ maxBodyLength) :
    s.GivesUp name r ↔ ¬ ∃ v, s.Judges name r v := by
  constructor
  · rintro h ⟨v, hv⟩
    have hresult := (hv.queryBody_eq hsize).symm.trans (h.queryBody_eq hsize)
    cases v <;> cases hresult
  · exact (s.judges_or_givesUp name r).resolve_left

theorem existsUnique_judges (hsize : r.body.size ≤ maxBodyLength) {v : Verdict}
    (h : s.Judges name r v) : ∃! v, s.Judges name r v := by
  refine ⟨v, h, fun v' h' => Verdict.result_injective name ?_⟩
  rw [← h.queryBody_eq hsize, h'.queryBody_eq hsize]

/-- The request in the body blurs numbers. -/
def BlursIn (s : Service) (name : String) (r : HttpRequest) : Prop :=
  ∃ q, r.IsJson ∧ r.decoded = .ok q ∧ s.Blurs name q

/-- Some sort gives a query up exactly if the request in the body blurs numbers. -/
theorem exists_givesUp_iff :
    (∃ sorting, (s.withSorting sorting).GivesUp name r) ↔ s.BlursIn name r := by
  unfold GivesUp BlursIn
  constructor
  · rintro ⟨sorting, q, hjson, hq, hnone⟩
    exact ⟨q, hjson, hq, exists_given_up_iff.mp ⟨sorting, hnone⟩⟩
  · rintro ⟨q, hjson, hq, hblurs⟩
    obtain ⟨sorting, hnone⟩ := exists_given_up_iff.mpr hblurs
    exact ⟨sorting, q, hjson, hq, hnone⟩

end Service

/-! ## Answers -/

/-- The answer with the result of a query, unless it is given up. -/
def HttpAnswer.ofResult : Except Rejection (Option (List Value)) → Option HttpAnswer
  | .ok documents => documents.map fun ds => .of 200 (.json (Service.listing ds))
  | .error r => some (.rejected r)

namespace Router

variable {request : HttpRequest} {encoded name : String}

/-- A posted query is answered with its result, to the origins that may read it. -/
theorem answer_eq_ofResult (router : Router) (hmethod : request.method = "POST")
    (hpath : Target.path request.target = "/collections/" ++ encoded ++ "/query")
    (hpiece : '/' ∉ encoded.toList) (hname : Target.decodeText? encoded = some name) :
    router.answer request =
      (HttpAnswer.ofResult (router.service.queryBody name request)).map fun a =>
        { a with allowOrigin := router.origins.allowed? (request.header? "origin") } := by
  have hservice : router.service.answer request =
      HttpAnswer.ofResult (router.service.queryBody name request) := by
    unfold Service.answer
    rw [hpath, Target.route?_query hpiece]
    simp only [hmethod, if_true, Service.queryAnswer, hname]
    rfl
  rw [answer, if_neg (by simp [hmethod]), hservice]

/-- The router with another sort. -/
def withSorting (router : Router) (sorting : Sorting) : Router :=
  { router with service := router.service.withSorting sorting }

/-- A query has no answer exactly if it is given up. -/
theorem answer_eq_none_iff (router : Router) (hmethod : request.method = "POST")
    (hpath : Target.path request.target = "/collections/" ++ encoded ++ "/query")
    (hpiece : '/' ∉ encoded.toList) (hname : Target.decodeText? encoded = some name)
    (hsize : request.body.size ≤ maxBodyLength) :
    router.answer request = none ↔ router.service.GivesUp name request := by
  rw [answer_eq_ofResult router hmethod hpath hpiece hname, Option.map_eq_none_iff]
  rcases router.service.judges_or_givesUp name request with ⟨v, hv⟩ | h
  · refine iff_of_false ?_ fun h => (Service.givesUp_iff hsize).mp h ⟨v, hv⟩
    rw [hv.queryBody_eq hsize]
    cases v <;> exact Option.some_ne_none _
  · rw [h.queryBody_eq hsize]
    exact iff_of_true rfl h

/-- **What a posted query is answered.** If a verdict fits, its status and body
are the answer: a body that is no request counts before an unknown collection,
and that before a filter that does not compile. Every answer but that with the
documents is an object with an error and a code. Exactly one verdict fits
unless the query is given up and not answered. Some sort gives it up exactly if
the request blurs numbers, and then the collection stores an integer that a
double may not hold. -/
theorem answer_is_verdict (router : Router) {request : HttpRequest} {encoded name : String}
    (hmethod : request.method = "POST")
    (hpath : Target.path request.target = "/collections/" ++ encoded ++ "/query")
    (hpiece : '/' ∉ encoded.toList) (hname : Target.decodeText? encoded = some name)
    (hsize : request.body.size ≤ maxBodyLength) :
    (∀ v, router.service.Judges name request v →
      router.answer request =
        some { status := v.status
               body := .json (v.body name)
               contentType := some "application/json"
               allow := none
               allowOrigin := router.origins.allowed? (request.header? "origin") } ∧
      (v.status ≠ 200 → ∃ text code, v.body name = Verdict.errorBody text code)) ∧
    ((∃! v, router.service.Judges name request v) ↔ router.answer request ≠ none) ∧
    ((∃ sorting, (router.withSorting sorting).answer request = none) ↔
      router.service.BlursIn name request) ∧
    (router.answer request = none →
      ∃ collection, router.service.collections.lookup name = some collection ∧
        ∃ d ∈ collection.documents, ∃ (names : List String) (n : Int),
          FieldPath.Reaches d names (.int n) ∧ 2 ^ 53 < n.natAbs) := by
  have hunanswered (router : Router) :=
    answer_eq_none_iff router hmethod hpath hpiece hname hsize
  refine ⟨?verdict, ?unique, ?blurs, ?exceeds⟩
  case verdict =>
    intro v hv
    refine ⟨?_, fun hstatus => ?_⟩
    · rw [answer_eq_ofResult router hmethod hpath hpiece hname, hv.queryBody_eq hsize]
      cases v <;> rfl
    · cases v with
      | found => exact absurd rfl hstatus
      | _ => exact ⟨_, _, rfl⟩
  case unique =>
    rw [Ne, hunanswered router, Service.givesUp_iff hsize, not_not]
    exact ⟨ExistsUnique.exists, fun ⟨v, hv⟩ => Service.existsUnique_judges hsize hv⟩
  case blurs =>
    simp only [hunanswered]
    exact Service.exists_givesUp_iff
  case exceeds =>
    intro hnone
    obtain ⟨q, -, -, hgiven⟩ := (hunanswered router).mp hnone
    exact Service.exceeds_of_given_up hgiven

/-- A body with a clause on a denied field and one whose operator has no use on
its field. -/
def containsThree : String :=
  "\x7b\"filters\": [\x7b\"field\": \"pin\"\x7d, " ++
    "\x7b\"field\": \"job.grade\", \"operator\": \"CONTAINS\", \"value\": \"3\"\x7d]\x7d and more"

/-- What follows the request in the body and a letter that is percent-encoded make
no difference. The first clause is incomplete, but dropped. -/
theorem answer_is_verdict_unsupported :
    let request : HttpRequest :=
      { method := "POST"
        target := "http://localhost/collections/st%61ff/query?pretty"
        headers := [("Content-Type", "application/vnd.staff+JSON; charset=utf-8")]
        body := containsThree.toUTF8 }
    let error : FilterError := .unsupportedOperator .contains .integerId ⟨["job", "grade"]⟩
    Service.staff.Judges "staff" request (.badFilter error) ∧
    Router.answer ⟨Service.staff, .any⟩ request =
      some { status := 400
             body := .json (Verdict.errorBody error.text "FILTER_INVALID")
             contentType := some "application/json"
             allow := none
             allowOrigin := some "*" } := by
  intro request error
  have hdecoded : request.decoded =
      .ok ⟨some [⟨"pin", none, none, none⟩, .of "job.grade" .contains "3"], none, none⟩ := by
    have hglyphs : Text.glyphsOfBytes request.body = Text.glyphs containsThree :=
      Text.glyphsOfBytes_toUTF8 _
    rw [HttpRequest.decoded, hglyphs]
    exact Except.toOption_eq_some_iff.mp (by decide +kernel)
  have hverdict : Service.staff.Judges "staff" request (.badFilter error) :=
    .badFilter ⟨_, rfl, by decide +kernel⟩ hdecoded rfl (by decide +kernel)
  obtain ⟨hanswer, -⟩ := @answer_is_verdict ⟨Service.staff, .any⟩ request "st%61ff" "staff" rfl
    (by decide +kernel) (by decide +kernel) (by decide +kernel) (by decide +kernel)
  exact ⟨hverdict, (hanswer _ hverdict).1⟩

/-- The body of a request for the whole ledger by amount. -/
def byAmountText : String := "\x7b\"orderBy\": \"amount\", \"orderDirection\": \"asc\"\x7d"

/-- Nothing is wrong with the request, but sorting the ledger by insertion is
given up, so no verdict fits and there is no answer. -/
theorem ledger_has_no_verdict :
    let request : HttpRequest :=
      { method := "POST"
        target := "/collections/ledger/query"
        headers := [("Content-Type", "application/json")]
        body := byAmountText.toUTF8 }
    (¬ ∃ v, Service.ledger.Judges "ledger" request v) ∧
      Router.answer ⟨Service.ledger, .any⟩ request = none := by
  intro request
  have hdecoded : request.decoded = .ok Service.byAmount := by
    have hglyphs : Text.glyphsOfBytes request.body = Text.glyphs byAmountText :=
      Text.glyphsOfBytes_toUTF8 _
    rw [HttpRequest.decoded, hglyphs]
    exact Except.toOption_eq_some_iff.mp (by decide +kernel)
  have hgiven : Service.ledger.GivesUp "ledger" request :=
    ⟨_, ⟨_, rfl, by decide +kernel⟩, hdecoded, Service.ledger_given_up⟩
  have hsize : request.body.size ≤ maxBodyLength := by decide +kernel
  exact ⟨(Service.givesUp_iff hsize).mp hgiven,
    (@answer_eq_none_iff request "ledger" "ledger" ⟨Service.ledger, .any⟩ rfl (by decide +kernel)
      (by decide +kernel) (by decide +kernel) hsize).mpr hgiven⟩

end Router

end DocSieve
