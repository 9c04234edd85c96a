-- SUMMARY: The query command and a posted query agree: they decode one text to one request and give one result.
import DocSieve.CommandLine.Run
import DocSieve.Json.Printer
import DocSieve.Proofs.Rest.Verdict

/-!
# The command line and HTTP

The same query can be asked on the command line and over HTTP. The one decodes
a whole line, the other the front of a body, and each has its own form for
what it answers. Both forms are read as data or as an error with its code, and
read so they say the same. What the one gives up the other gives up as well.
-/

namespace DocSieve

open Json

/-! ## Input -/

theorem Files.Entry.textOfBytes_toUTF8 (s : String) : textOfBytes s.toUTF8 = .ok s := by
  have h : String.fromUTF8? s.toUTF8 = some s := by
    simp only [String.fromUTF8?, String.toUTF8_eq_toByteArray, dif_pos s.isValidUTF8]
    rfl
  rw [textOfBytes, h]

theorem firstLine_eq_self {bytes : List UInt8} (h : 10 ∉ bytes) : firstLine bytes = bytes := by
  induction bytes with
  | nil => rfl
  | cons b bs ih =>
    obtain ⟨hb, hbs⟩ := not_or.mp (List.mem_cons.not.mp h)
    rw [firstLine, if_neg (Ne.symm hb), ih hbs]

/-- A text without a line end is read as the line that it is. -/
theorem Request.ofInput_toUTF8 {text : String} (h : '\n' ∉ text.toList) :
    Request.ofInput text.toUTF8 = Request.ofLine text := by
  have hbytes : (10 : UInt8) ∉ text.toUTF8.toList := fun hmem =>
    h (Text.mem_toList_of_mem_toUTF8 rfl (by decide) hmem)
  have hline : (⟨(firstLine text.toUTF8.toList).toArray⟩ : ByteArray) = text.toUTF8 := by
    rw [firstLine_eq_self hbytes, Text.toList_eq_data_toList]
  rw [Request.ofInput, hline, Files.Entry.textOfBytes_toUTF8]

theorem Request.parse_of_ofLine {line : String} {q : Request} (h : Request.ofLine line = .ok q) :
    Request.parse line = .ok q := by
  unfold Request.ofLine at h
  split at h
  · contradiction
  · exact Except.mapError_eq_ok_iff.mp h

/-- A text that decodes as a whole decodes at its front. -/
theorem Json.Decoder.front_of_run {α : Type} {d : Decoder α} {text : String} {a : α}
    (h : d.run text = .ok a) : d.front (Text.glyphs text) = .ok a := by
  unfold run at h
  unfold front
  generalize Tree.read (Text.glyphs text) = progress at h ⊢
  obtain ⟨b, hb, hrest⟩ := Except.bind_eq_ok_iff.mp h
  rw [hb]
  split at hrest
  · exact hrest
  · contradiction

/-- Characters that decode at their front, with nothing but space behind, decode
as a whole. -/
theorem Json.Decoder.run_of_front {α : Type} {d : Decoder α} {cs : List Char} {a : α}
    (h : d.front (cs.map some) = .ok a)
    (hrest : (Tree.read (cs.map some)).2.map skipSpace = some []) :
    d.run (String.ofList cs) = .ok a := by
  unfold front at h
  unfold run Text.glyphs
  rw [String.toList_ofList]
  simp only [h, hrest]
  rfl

/-! ## The two sides -/

/-- The router is built from what the settings in the file `config` name, among
them a directory of documents. -/
inductive Surroundings.Builds (w : Surroundings) (config : String) : Router → Prop where
  | of {settings : Settings} {registry : Registry} {dir : String}
      {collections : List (String × Collection)} {origins : List String} {router : Router} :
      w.boot config = .ok (settings, registry) → settings.dataDir = some dir →
      w.collections dir = .ok collections → settings.allowedOrigins = .ok origins →
      Router.of? ⟨registry, settings.denylist, collections, w.sorting⟩ origins = some router →
      Builds w config router

/-- The line says that all is well and gives `data`. -/
def Json.Value.GivesData (line data : Value) : Prop :=
  line.get? "status" = some (.string "ok") ∧ line.get? "data" = some data

/-- The line says that there is an error and what it is. -/
def Json.Value.GivesError (line : Value) (code text : String) : Prop :=
  line.get? "status" = some (.string "error") ∧ line.get? "code" = some (.string code) ∧
    line.get? "message" = some (.string text)

namespace HttpAnswer

/-- The answer says that all is well and gives `data`. -/
def GivesData (a : HttpAnswer) (data : Value) : Prop :=
  a.status = 200 ∧ ∃ v, a.body = .json v ∧ v.get? "data" = some data

/-- The answer says that there is an error and what it is. -/
def GivesError (a : HttpAnswer) (code text : String) : Prop :=
  a.status ≠ 200 ∧ ∃ v, a.body = .json v ∧ v.get? "code" = some (.string code) ∧
    v.get? "error" = some (.string text)

end HttpAnswer

namespace Surroundings

variable {w : Surroundings} {config entity : String} {router : Router}

theorem Builds.run_query (h : w.Builds config router) {q : Request}
    (hread : Request.ofInput w.input = .ok q) :
    w.run (.query config entity) =
      .ok ((DocSieve.queryAnswer (router.service.query entity q)).map ([·])) := by
  obtain ⟨hboot, hdir, hcollections, -, hrouter⟩ := h
  obtain ⟨origins, -, rfl⟩ := Option.map_eq_some_iff.mp hrouter
  simp [run, query, hboot, hdir, hcollections, request, hread, Except.map]

/-- Replacing the port changes nothing else. -/
theorem overridden_eq_ok {settings changed : Settings} {port : Option Nat}
    (h : overridden settings port = .ok changed) :
    ∃ p, changed = { settings with port := p } := by
  cases port with
  | none => exact ⟨settings.port, by cases h; rfl⟩
  | some port =>
    refine ⟨port, ?_⟩
    cases hcheck : ({ settings with port := port } : Settings).check with
    | ok => simpa [overridden, Settings.overridePort, hcheck] using h.symm
    | error => simp [overridden, Settings.overridePort, hcheck] at h

/-- What the command `serve` answers with is built from the settings, whatever
the port. -/
theorem Builds.of_serve {settings : Settings} {registry : Registry} {port : Option Nat}
    {service : Service} {origins : List String} {address : SocketAddress}
    (hboot : w.boot config = .ok (settings, registry)) (hdata : settings.dataDir.isSome = true)
    (h : w.serve config port = .ok (service, origins, address))
    (hrouter : Router.of? service origins = some router) : w.Builds config router := by
  obtain ⟨dir, hdir⟩ := Option.isSome_iff_exists.mp hdata
  simp only [serve, hboot, Except.bind_ok] at h
  obtain ⟨changed, hchanged, h⟩ := Except.bind_eq_ok_iff.mp h
  obtain ⟨p, rfl⟩ := overridden_eq_ok hchanged
  obtain ⟨_, -, h⟩ := Except.bind_eq_ok_iff.mp h
  simp only [hdir] at h
  obtain ⟨collections, hcollections, h⟩ := Except.bind_eq_ok_iff.mp h
  obtain ⟨_, horigins, h⟩ := Except.bind_eq_ok_iff.mp h
  split at h
  · contradiction
  · cases h
    exact .of hboot hdir hcollections (Except.mapError_eq_ok_iff.mp horigins) hrouter

end Surroundings

/-! ## Agreement -/

/-- A line and an answer say the same: the same data, or the same error. -/
def HttpAnswer.Agrees (a : HttpAnswer) (line : Value) : Prop :=
  (∀ data, line.GivesData data ↔ a.GivesData data) ∧
    ∀ code text, line.GivesError code text ↔ a.GivesError code text

/-- The line gives data or an error. -/
def Json.Value.IsGiven (line : Value) : Prop :=
  (∃ data, line.GivesData data) ∨ ∃ code text, line.GivesError code text

/-- The forms in which the two sides give one result agree. -/
theorem HttpAnswer.ofResult_agrees (result : Except Rejection (Option (List Value)))
    (origin : Option String) :
    (queryAnswer result = none ∧ ofResult result = none) ∨
      ∃ line a, queryAnswer result = some line ∧ ofResult result = some a ∧
        { a with allowOrigin := origin }.Agrees line ∧ line.IsGiven := by
  rcases result with r | _ | documents
  case error =>
    refine .inr ⟨_, _, rfl, rfl, ?_, .inr ⟨_, _, rfl, rfl, rfl⟩⟩
    have hstatus : r.kind.status ≠ 200 := by
      unfold RejectionKind.status
      split <;> decide
    simp [Agrees, rejected, of, errorAnswer, GivesData, GivesError, Value.GivesData,
      Value.GivesError, Value.get?, RejectionKind.toValue, Rejection.code, Rejection.text,
      List.lookup_cons, hstatus]
  case ok.none => exact .inl ⟨rfl, rfl⟩
  case ok.some =>
    refine .inr ⟨_, _, rfl, rfl, ?_, .inl ⟨_, rfl, rfl⟩⟩
    simp [Agrees, of, okAnswer, GivesData, GivesError, Value.GivesData, Value.GivesError,
      Value.get?, Service.listing, List.lookup_cons]

namespace Surroundings

/-- **The command line and HTTP give the same answers.** A text that the query
command takes as its input line is decoded to the same request when it is posted,
and the line that the command writes says the same as the answer over HTTP. The
line gives data or an error, so nothing is left that only one of them says. If
there is no line, then there is no answer either. -/
theorem query_agrees_with_post {w : Surroundings} {config entity encoded text : String}
    {router : Router} {q : Request} {request : HttpRequest} (hrouter : w.Builds config router)
    (hline : '\n' ∉ text.toList) (hinput : w.input = text.toUTF8)
    (hread : Request.ofInput w.input = .ok q) (hmethod : request.method = "POST")
    (hpath : Target.path request.target = "/collections/" ++ encoded ++ "/query")
    (hpiece : '/' ∉ encoded.toList) (hname : Target.decodeText? encoded = some entity)
    (hjson : request.IsJson) (hbody : request.body = text.toUTF8)
    (hsize : text.toUTF8.size ≤ maxBodyLength) :
    request.filterRequest = .ok q ∧
    ((w.run (.query config entity) = .ok none ∧ router.answer request = none) ∨
      ∃ line answer, w.run (.query config entity) = .ok (some [line]) ∧
        router.answer request = some answer ∧ answer.Agrees line ∧ line.IsGiven) := by
  have hdecoded : request.decoded = .ok q := by
    rw [hinput, Request.ofInput_toUTF8 hline] at hread
    rw [HttpRequest.decoded, hbody, Text.glyphsOfBytes_toUTF8]
    exact Decoder.front_of_run (Request.parse_of_ofLine hread)
  have hfilter : request.filterRequest = .ok q := by
    rw [Service.filterRequest_of_isJson hjson (hbody ▸ hsize), hdecoded]
    rfl
  have hresult : router.service.queryBody entity request = router.service.query entity q := by
    simp [Service.queryBody, hfilter]
  refine ⟨hfilter, ?_⟩
  rw [hrouter.run_query hread, Router.answer_eq_ofResult router hmethod hpath hpiece hname, hresult]
  rcases HttpAnswer.ofResult_agrees (router.service.query entity q)
    (router.origins.allowed? (request.header? "origin")) with
    ⟨hline, hanswer⟩ | ⟨line, a, hline, hanswer, hagrees, hgiven⟩
  · exact .inl ⟨by rw [hline]; rfl, by rw [hanswer]; rfl⟩
  · exact .inr ⟨line, _, by rw [hline]; rfl, by rw [hanswer]; rfl, hagrees, hgiven⟩

/-- A request for the records whose name starts with an A. -/
def startsWithA : String :=
  "\x7b\"filters\":[\x7b\"field\":\"name\",\"operator\":\"STARTS_WITH\",\"value\":\"A\"\x7d]\x7d"

/-- The request that the text stands for. -/
def startingWithA : Request := ⟨some [.of "name" .startsWith "A"], none, none⟩

/-- A directory with settings, a schema of the staff and two records of it. -/
def office : Surroundings where
  files := .ofRoot (.directory [
    ("config.json", .file "\x7b\"schema_dir\": \"schemas\", \"data_dir\": \"data\"\x7d".toUTF8),
    ("schemas", .directory [("staff.json", .file
      "\x7b\"entity\":\"staff\",\"fields\":\x7b\"name\":\x7b\"type\":0\x7d\x7d\x7d".toUTF8)]),
    ("data", .directory [("staff.json", .file
      "[\x7b\"name\": \"Ada\"\x7d, \x7b\"name\": \"Bo\"\x7d]".toUTF8)])])
  input := startsWithA.toUTF8
  takenPorts := []
  sorting := .insertion

/-- What the office serves is built from its settings, and selects one record. -/
theorem office_builds : ∃ router record, office.Builds "config.json" router ∧
    router.service.query "staff" startingWithA = .ok (some [record]) ∧
    record.get? "name" = some (.string "Ada") := by
  have hboot : (office.boot "config.json").toOption.map (·.1) =
      some { Settings.ofSchemaDir "schemas" with dataDir := some "data" } := by
    decide +kernel
  have hserve : (office.serve "config.json" none).toOption.map (fun served => (served.2.1,
      (served.1.query "staff" startingWithA).toOption.map
        (·.map (·.map fun d => (d.get? "name").bind Value.text?)))) =
      some ([], some (some [some "Ada"])) := by
    decide +kernel
  obtain ⟨⟨settings, registry⟩, hboot, rfl⟩ := Option.map_eq_some_iff.mp hboot
  obtain ⟨⟨service, origins, address⟩, hserve, hboth⟩ := Option.map_eq_some_iff.mp hserve
  obtain ⟨rfl, hquery⟩ := Prod.mk.inj hboth
  have hbuilds : office.Builds "config.json" ⟨service, .any⟩ :=
    .of_serve (Except.toOption_eq_some_iff.mp hboot) rfl (Except.toOption_eq_some_iff.mp hserve) rfl
  obtain ⟨outcome, hquery, houtcome⟩ := Option.map_eq_some_iff.mp hquery
  obtain ⟨documents, rfl, hnames⟩ := Option.map_eq_some_iff.mp houtcome
  obtain ⟨record, rfl, hname⟩ := List.map_eq_singleton_iff.mp hnames
  obtain ⟨name, hname, htext⟩ := Option.bind_eq_some_iff.mp hname
  rw [Value.text?_eq_some_iff.mp htext] at hname
  exact ⟨_, record, hbuilds, Except.toOption_eq_some_iff.mp hquery, hname⟩

/-- A collection whose name is percent-encoded, and a content type with a
parameter. Both sides give the one record. -/
theorem query_agrees_with_post_office :
    let request : HttpRequest :=
      { method := "POST"
        target := "/collections/st%61ff/query?pretty"
        headers := [("Content-Type", "application/json; charset=utf-8")]
        body := startsWithA.toUTF8 }
    ∃ router record answer, office.Builds "config.json" router ∧
      record.get? "name" = some (.string "Ada") ∧
      office.run (.query "config.json" "staff") = .ok (some [okAnswer (.array [record])]) ∧
      router.answer request = some answer ∧ answer.Agrees (okAnswer (.array [record])) := by
  intro request
  obtain ⟨router, record, hrouter, hquery, hname⟩ := office_builds
  have hread : Request.ofInput office.input = .ok startingWithA := by decide +kernel
  have hrun : office.run (.query "config.json" "staff") =
      .ok (some [okAnswer (.array [record])]) := by
    rw [hrouter.run_query hread, hquery]
    rfl
  obtain ⟨-, hboth⟩ :=
    @query_agrees_with_post office "config.json" "staff" "st%61ff" startsWithA router _ request
      hrouter (by decide +kernel) rfl hread rfl (by decide +kernel) (by decide +kernel)
      (by decide +kernel) ⟨_, rfl, by decide +kernel⟩ rfl (by decide +kernel)
  rw [hrun] at hboth
  rcases hboth with ⟨hnone, -⟩ | ⟨line, answer, hline, hanswer, hagrees, -⟩
  · cases hnone
  · cases hline
    exact ⟨router, record, answer, hrouter, hname, hrun, hanswer, hagrees⟩

end Surroundings

end DocSieve
