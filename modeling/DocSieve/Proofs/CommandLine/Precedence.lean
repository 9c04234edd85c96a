-- SUMMARY: The commands that answer one request: the first stage that fails decides the failure, and without one there is one line unless the query is given up.
import DocSieve.Proofs.CommandLine.Surfaces
import DocSieve.Proofs.Json.Line
import DocSieve.Proofs.Store.Directory

/-!
# Stages of a command

Compiling and querying go through stages, and several of them can fail at once.
What makes a stage fail is said for each of them on its own, without the order
in which a command takes them. A command ends with the failure of its first
stage that fails. When none does, all that is wrong with the request is written
as an answer.
-/

namespace DocSieve

open Json

/-- What a command does before it has an answer. -/
inductive Stage where
  | settings
  | schemas
  /-- The settings name a directory of documents. -/
  | dataDir
  | collections
  /-- The first line of the input is a request. -/
  | input
deriving DecidableEq

/-- The code of the failures of a stage. -/
def Stage.code : Stage → String
  | .settings | .dataDir => "QG_CLI_CONFIG_ERROR"
  | .schemas | .collections => "QG_CLI_LOAD_FAILED"
  | .input => "QG_CLI_IO_ERROR"

/-- What is done with the request of the input. -/
inductive Task where
  | compile
  | query
deriving DecidableEq

namespace Task

def command : Task → String → String → Command
  | .compile => .compile
  | .query => .query

/-- The stages in their order. -/
def stages : Task → List Stage
  | .compile => [.settings, .schemas, .input]
  | .query => [.settings, .schemas, .dataDir, .collections, .input]

end Task

/-! ## Failing stages -/

namespace Surroundings

variable {w : Surroundings} {config entity : String} {task : Task} {stage : Stage} {f : Failure}

/-- The failure of a stage. A stage that reads the settings does not fail when
there are none. -/
def failure? (w : Surroundings) (config : String) : Stage → Option Failure
  | .settings => (Settings.load w.files config).error?.map .settings
  | .schemas => do
    let settings ← (Settings.load w.files config).toOption
    (Registry.load w.files settings.schemaDir).error?.map .schemas
  | .dataDir => do
    let settings ← (Settings.load w.files config).toOption
    if settings.dataDir.isNone then some .noDataDir else none
  | .collections => do
    let settings ← (Settings.load w.files config).toOption
    let dir ← settings.dataDir
    (Collection.load w.files dir).error?.map .collections
  | .input => (Request.ofInput w.input).error?.map .input

theorem code_of_failure? (h : w.failure? config stage = some f) : f.kind.code = stage.code := by
  cases stage with
  | settings | input =>
    obtain ⟨_, -, rfl⟩ := Option.map_eq_some_iff.mp h
    rfl
  | schemas =>
    obtain ⟨_, -, h⟩ := Option.bind_eq_some_iff.mp h
    obtain ⟨_, -, rfl⟩ := Option.map_eq_some_iff.mp h
    rfl
  | dataDir =>
    obtain ⟨_, -, h⟩ := Option.bind_eq_some_iff.mp h
    obtain ⟨-, h⟩ := Option.ite_none_right_eq_some.mp h
    cases h
    rfl
  | collections =>
    obtain ⟨_, -, h⟩ := Option.bind_eq_some_iff.mp h
    obtain ⟨_, -, h⟩ := Option.bind_eq_some_iff.mp h
    obtain ⟨_, -, rfl⟩ := Option.map_eq_some_iff.mp h
    rfl

end Surroundings

/-! ## Answers -/

/-- The settings, the schemas and the request of the input are there. -/
structure Surroundings.Ready (w : Surroundings) (config : String) (settings : Settings)
    (registry : Registry) (request : Request) : Prop where
  load : Settings.load w.files config = .ok settings
  schemas : Registry.load w.files settings.schemaDir = .ok registry
  input : Request.ofInput w.input = .ok request

namespace Surroundings.Ready

variable {w : Surroundings} {config entity dir : String} {settings : Settings}
  {registry : Registry} {request : Request} {collections : List (String × Collection)}

theorem compile (h : w.Ready config settings registry request) :
    w.compile config entity =
      .ok (compileAnswer (registry.compileAllowed settings.denylist entity request)) := by
  simp [Surroundings.compile, boot, Surroundings.request, h.load, h.schemas, h.input]

theorem query (h : w.Ready config settings registry request) (hdir : settings.dataDir = some dir)
    (hcollections : Collection.load w.files dir = .ok collections) :
    w.query config entity = .ok (queryAnswer
      (Service.query ⟨registry, settings.denylist, collections, w.sorting⟩ entity request)) := by
  simp [Surroundings.query, boot, Surroundings.request, h.load, h.schemas, h.input, hdir,
    Surroundings.collections, hcollections]

end Surroundings.Ready

/-- Everything is there that a query needs, and it compiles. -/
inductive Surroundings.Accepts (w : Surroundings) (config entity : String) :
    Collection → Query → Prop where
  | of {settings : Settings} {registry : Registry} {request : Request} {dir : String}
      {collections : List (String × Collection)} {collection : Collection} {q : Query} :
      w.Ready config settings registry request → settings.dataDir = some dir →
      Collection.load w.files dir = .ok collections → collections.lookup entity = some collection →
      registry.compileAllowed settings.denylist entity request = .ok q →
      Accepts w config entity collection q

namespace Task

/-- What a task comes to, once everything that it needs is there. A query needs
the collections as well, and the one that it asks for may be missing. -/
inductive ComesTo (w : Surroundings) (config entity : String) :
    Task → Except Rejection Value → Prop where
  | compiled {settings : Settings} {registry : Registry} {request : Request} {q : Query} :
      w.Ready config settings registry request →
      registry.compileAllowed settings.denylist entity request = .ok q →
      ComesTo w config entity .compile (.ok q.toValue)
  | notCompiled {settings : Settings} {registry : Registry} {request : Request} {e : FilterError} :
      w.Ready config settings registry request →
      registry.compileAllowed settings.denylist entity request = .error e →
      ComesTo w config entity .compile (.error (.filter e))
  | noCollection {settings : Settings} {registry : Registry} {request : Request} {dir : String}
      {collections : List (String × Collection)} :
      w.Ready config settings registry request → settings.dataDir = some dir →
      Collection.load w.files dir = .ok collections → collections.lookup entity = none →
      ComesTo w config entity .query (.error (.unknownCollection entity))
  | notQueried {settings : Settings} {registry : Registry} {request : Request} {dir : String}
      {collections : List (String × Collection)} {collection : Collection} {e : FilterError} :
      w.Ready config settings registry request → settings.dataDir = some dir →
      Collection.load w.files dir = .ok collections → collections.lookup entity = some collection →
      registry.compileAllowed settings.denylist entity request = .error e →
      ComesTo w config entity .query (.error (.filter e))
  | queried {collection : Collection} {q : Query} {documents : List Value} :
      w.Accepts config entity collection q → collection.run w.sorting q = some documents →
      ComesTo w config entity .query (.ok (.array documents))

/-- The task is a query whose documents are not sorted. -/
inductive GivesUp (w : Surroundings) (config entity : String) : Task → Prop where
  | queried {collection : Collection} {q : Query} : w.Accepts config entity collection q →
      collection.run w.sorting q = none → GivesUp w config entity .query

/-- The task is a query that blurs numbers. -/
inductive Blurs (w : Surroundings) (config entity : String) : Task → Prop where
  | queried {collection : Collection} {q : Query} : w.Accepts config entity collection q →
      collection.Blurs q → Blurs w config entity .query

end Task

/-- The line says what a task comes to. -/
structure Json.Value.Reports (line : Value) (outcome : Except Rejection Value) : Prop where
  status_iff : line.get? "status" = some (.string "ok") ↔ ∃ data, outcome = .ok data
  data : ∀ data, outcome = .ok data → line.GivesData data
  error : ∀ r, outcome = .error r → line.GivesError r.code r.text
  oneLine : OneLine line.toText.toList

theorem okAnswer_reports (data : Value) : (okAnswer data).Reports (.ok data) where
  status_iff := by simp [okAnswer, Value.get?]
  data := by rintro _ ⟨⟩; exact ⟨rfl, rfl⟩
  error := nofun
  oneLine := Value.oneLine_toText _

theorem errorAnswer_reports (r : Rejection) : (errorAnswer r.code r.text).Reports (.error r) where
  status_iff := by simp [errorAnswer, Value.get?]
  data := nofun
  error := by rintro _ ⟨⟩; exact ⟨rfl, rfl, rfl⟩
  oneLine := Value.oneLine_toText _

/-! ## Runs -/

namespace Surroundings

variable {w : Surroundings} {config entity : String} {task : Task} {f : Failure}

/-- What the command of a task answers, unless it is given up. -/
def answer (w : Surroundings) (config entity : String) : Task → Except Failure (Option Value)
  | .compile => (w.compile config entity).map some
  | .query => w.query config entity

theorem run_command : w.run (task.command config entity) =
    (w.answer config entity task).map fun line => line.map ([·]) := by
  cases task with
  | compile => cases h : w.compile config entity <;> simp [Task.command, run, answer, h, Except.map]
  | query => rfl

/-- A command answers what the task comes to. -/
theorem answer_of_comesTo {outcome : Except Rejection Value}
    (h : task.ComesTo w config entity outcome) :
    ∃ line, w.answer config entity task = .ok (some line) ∧ line.Reports outcome := by
  cases h with
  | compiled hready hcompiled =>
    refine ⟨_, ?_, okAnswer_reports _⟩
    rw [answer, hready.compile, hcompiled]
    rfl
  | notCompiled hready hcompiled =>
    refine ⟨_, ?_, errorAnswer_reports _⟩
    rw [answer, hready.compile, hcompiled]
    rfl
  | noCollection hready hdir hcollections hlookup =>
    refine ⟨_, ?_, errorAnswer_reports _⟩
    simp [answer, hready.query hdir hcollections, queryAnswer, Service.query, hlookup]
  | notQueried hready hdir hcollections hlookup hcompiled =>
    refine ⟨_, ?_, errorAnswer_reports _⟩
    simp [answer, hready.query hdir hcollections, queryAnswer, Service.query, hlookup, hcompiled]
  | queried haccepts hrun =>
    obtain ⟨hready, hdir, hcollections, hlookup, hcompiled⟩ := haccepts
    refine ⟨_, ?_, okAnswer_reports _⟩
    simp [answer, hready.query hdir hcollections, queryAnswer, Service.query, hlookup, hcompiled,
      hrun]

theorem answer_of_givesUp (h : task.GivesUp w config entity) :
    w.answer config entity task = .ok none := by
  obtain ⟨⟨hready, hdir, hcollections, hlookup, hcompiled⟩, hrun⟩ := h
  simp [answer, hready.query hdir hcollections, queryAnswer, Service.query, hlookup, hcompiled,
    hrun]

/-- A task ends with the first failure of its stages, comes to something or is
given up. -/
inductive Ends (w : Surroundings) (config entity : String) (task : Task) : Prop where
  | fails {f : Failure} : task.stages.findSome? (w.failure? config) = some f →
      w.answer config entity task = .error f → Ends w config entity task
  | answers {outcome : Except Rejection Value} :
      task.stages.findSome? (w.failure? config) = none →
      task.ComesTo w config entity outcome → Ends w config entity task
  | givesUp : task.stages.findSome? (w.failure? config) = none →
      task.GivesUp w config entity → Ends w config entity task

section

variable {settings : Settings} {registry : Registry}
  (hload : Settings.load w.files config = .ok settings)
  (hschemas : Registry.load w.files settings.schemaDir = .ok registry)

include hload hschemas

theorem compile_ends (entity : String) : w.Ends config entity .compile := by
  rcases hinput : Request.ofInput w.input with e | q
  · refine .fails (f := .input e) ?_ ?_
    · simp [Task.stages, failure?, hload, hschemas, hinput, Except.toOption]
    · simp [answer, compile, boot, request, hload, hschemas, hinput, Except.map]
  have hnone : Task.compile.stages.findSome? (w.failure? config) = none := by
    simp [Task.stages, failure?, hload, hschemas, hinput, Except.toOption]
  have hready : w.Ready config settings registry q := ⟨hload, hschemas, hinput⟩
  rcases hcompiled : registry.compileAllowed settings.denylist entity q with e | query
  · exact .answers hnone (.notCompiled hready hcompiled)
  · exact .answers hnone (.compiled hready hcompiled)

theorem query_ends (entity : String) : w.Ends config entity .query := by
  rcases hdir : settings.dataDir with _ | dir
  · refine .fails (f := .noDataDir) ?_ ?_
    · simp [Task.stages, failure?, hload, hschemas, hdir, Except.toOption]
    · simp [answer, query, boot, hload, hschemas, hdir]
  rcases hcollections : Collection.load w.files dir with e | found
  · refine .fails (f := .collections e) ?_ ?_
    · simp [Task.stages, failure?, hload, hschemas, hdir, hcollections, Except.toOption]
    · simp [answer, query, boot, collections, hload, hschemas, hdir, hcollections]
  rcases hinput : Request.ofInput w.input with e | q
  · refine .fails (f := .input e) ?_ ?_
    · simp [Task.stages, failure?, hload, hschemas, hdir, hcollections, hinput, Except.toOption]
    · simp [answer, query, boot, collections, request, hload, hschemas, hdir, hcollections, hinput]
  have hnone : Task.query.stages.findSome? (w.failure? config) = none := by
    simp [Task.stages, failure?, hload, hschemas, hdir, hcollections, hinput, Except.toOption]
  have hready : w.Ready config settings registry q := ⟨hload, hschemas, hinput⟩
  rcases hlookup : found.lookup entity with _ | collection
  · exact .answers hnone (.noCollection hready hdir hcollections hlookup)
  rcases hcompiled : registry.compileAllowed settings.denylist entity q with e | query
  · exact .answers hnone (.notQueried hready hdir hcollections hlookup hcompiled)
  have haccepts : w.Accepts config entity collection query :=
    .of hready hdir hcollections hlookup hcompiled
  rcases hrun : collection.run w.sorting query with _ | documents
  · exact .givesUp hnone (.queried haccepts hrun)
  · exact .answers hnone (.queried haccepts hrun)

end

theorem ends (w : Surroundings) (config entity : String) (task : Task) :
    w.Ends config entity task := by
  rcases hload : Settings.load w.files config with e | settings
  · refine .fails (f := .settings e) ?_ ?_ <;> cases task <;>
      simp [Task.stages, failure?, answer, compile, query, boot, hload, Except.map]
  rcases hschemas : Registry.load w.files settings.schemaDir with e | registry
  · refine .fails (f := .schemas e) ?_ ?_ <;> cases task <;>
      simp [Task.stages, failure?, answer, compile, query, boot, hload, hschemas, Except.toOption,
        Except.map]
  cases task with
  | compile => exact compile_ends hload hschemas entity
  | query => exact query_ends hload hschemas entity

theorem run_eq_error_iff :
    w.run (task.command config entity) = .error f ↔
      task.stages.findSome? (w.failure? config) = some f := by
  rw [run_command]
  cases w.ends config entity task with
  | fails hfirst hanswer => simp [hfirst, hanswer, Except.map]
  | answers hnone hcomes =>
    obtain ⟨line, hanswer, -⟩ := answer_of_comesTo hcomes
    simp [hnone, hanswer, Except.map]
  | givesUp hnone hgiven => simp [hnone, answer_of_givesUp hgiven, Except.map]

/-- A task has an answer exactly if it comes to something. -/
theorem answer_isSome_iff :
    (∃ line, w.answer config entity task = .ok (some line)) ↔
      ∃ outcome, task.ComesTo w config entity outcome := by
  constructor
  · rintro ⟨line, hline⟩
    cases w.ends config entity task with
    | fails _ hanswer => cases hline.symm.trans hanswer
    | answers _ hcomes => exact ⟨_, hcomes⟩
    | givesUp _ hgiven => cases hline.symm.trans (answer_of_givesUp hgiven)
  · rintro ⟨outcome, hcomes⟩
    obtain ⟨line, hanswer, -⟩ := answer_of_comesTo hcomes
    exact ⟨line, hanswer⟩

/-- No line is written exactly if the task is given up. -/
theorem run_eq_none_iff :
    w.run (task.command config entity) = .ok none ↔ task.GivesUp w config entity := by
  rw [run_command]
  constructor
  · intro h
    cases w.ends config entity task with
    | fails _ hanswer => simp [hanswer, Except.map] at h
    | answers _ hcomes =>
      obtain ⟨line, hanswer, -⟩ := answer_of_comesTo hcomes
      simp [hanswer, Except.map] at h
    | givesUp _ hgiven => exact hgiven
  · intro h
    rw [answer_of_givesUp h]
    rfl

/-- What is given up comes to nothing. -/
theorem not_comesTo_of_givesUp (h : task.GivesUp w config entity) :
    ¬ ∃ outcome, task.ComesTo w config entity outcome := by
  rw [← answer_isSome_iff, answer_of_givesUp h]
  rintro ⟨line, hline⟩
  cases hline

theorem no_failure_iff :
    task.stages.findSome? (w.failure? config) = none ↔
      (∃ outcome, task.ComesTo w config entity outcome) ∨ task.GivesUp w config entity := by
  rw [← answer_isSome_iff, ← run_eq_none_iff, run_command]
  cases w.ends config entity task with
  | fails hfirst hanswer => simp [hfirst, hanswer, Except.map]
  | answers hnone hcomes =>
    obtain ⟨line, hanswer, -⟩ := answer_of_comesTo hcomes
    simp [hnone, hanswer]
  | givesUp hnone hgiven => simp [hnone, answer_of_givesUp hgiven, Except.map]

/-- The surroundings with another sort. -/
def withSorting (w : Surroundings) (sorting : Sorting) : Surroundings :=
  { w with sorting := sorting }

/-- Some sort gives a task up exactly if the task blurs numbers. -/
theorem exists_givesUp_iff :
    (∃ sorting, task.GivesUp (w.withSorting sorting) config entity) ↔
      task.Blurs w config entity := by
  constructor
  · rintro ⟨sorting, ⟨⟨load, schemas, input⟩, hdir, hcollections, hlookup, hcompiled⟩, hrun⟩
    exact .queried (.of ⟨load, schemas, input⟩ hdir hcollections hlookup hcompiled)
      (Collection.exists_run_eq_none_iff.mp ⟨sorting, hrun⟩)
  · rintro ⟨⟨⟨load, schemas, input⟩, hdir, hcollections, hlookup, hcompiled⟩, hblurs⟩
    obtain ⟨sorting, hrun⟩ := Collection.exists_run_eq_none_iff.mpr hblurs
    exact ⟨sorting, .queried (.of ⟨load, schemas, input⟩ hdir hcollections hlookup hcompiled) hrun⟩

/-- **The first stage that fails decides.** A command that compiles or queries
ends with the failure of its first stage that fails, which has the code of that
stage, and with no failure exactly if no stage fails. Then the task comes to
something, be it an error of the filter or of the lookup, and one line is
written that says what, or it is given up and no line is written. Some sort
gives it up exactly if it is a query that blurs numbers, and then the collection
stores an integer that a double may not hold. -/
theorem first_failing_stage_decides (w : Surroundings) (config entity : String) (task : Task) :
    (∀ f, w.run (task.command config entity) = .error f ↔
      ∃ before stage after, task.stages = before ++ stage :: after ∧
        w.failure? config stage = some f ∧ f.kind.code = stage.code ∧
        ∀ earlier ∈ before, w.failure? config earlier = none) ∧
    ((∃ f, w.run (task.command config entity) = .error f) ↔
      ∃ stage ∈ task.stages, (w.failure? config stage).isSome) ∧
    ((∀ stage ∈ task.stages, w.failure? config stage = none) ↔
      (∃ outcome, task.ComesTo w config entity outcome) ∨ task.GivesUp w config entity) ∧
    (∀ outcome, task.ComesTo w config entity outcome →
      ∃ line, w.run (task.command config entity) = .ok (some [line]) ∧ line.Reports outcome) ∧
    (w.run (task.command config entity) = .ok none ↔ task.GivesUp w config entity) ∧
    ((∃ sorting, (w.withSorting sorting).run (task.command config entity) = .ok none) ↔
      task.Blurs w config entity) ∧
    (w.run (task.command config entity) = .ok none →
      ∃ collection q, w.Accepts config entity collection q ∧
        ∃ d ∈ collection.documents, ∃ (names : List String) (n : Int),
          FieldPath.Reaches d names (.int n) ∧ 2 ^ 53 < n.natAbs) := by
  refine ⟨fun f => ?first, ?fails, ?passes, ?line, run_eq_none_iff, ?blurs, ?exceeds⟩
  case first =>
    rw [run_eq_error_iff, List.findSome?_eq_some_iff]
    constructor
    · rintro ⟨before, stage, after, hstages, hfailure, hbefore⟩
      exact ⟨before, stage, after, hstages, hfailure, code_of_failure? hfailure, hbefore⟩
    · rintro ⟨before, stage, after, hstages, hfailure, -, hbefore⟩
      exact ⟨before, stage, after, hstages, hfailure, hbefore⟩
  case fails =>
    simp only [run_eq_error_iff, ← Option.isSome_iff_exists, List.isSome_findSome?,
      List.any_eq_true]
  case passes => rw [← List.findSome?_eq_none_iff, no_failure_iff]
  case line =>
    intro outcome hcomes
    obtain ⟨line, hanswer, hreports⟩ := answer_of_comesTo hcomes
    exact ⟨line, by rw [run_command, hanswer]; rfl, hreports⟩
  case blurs => simp only [run_eq_none_iff, exists_givesUp_iff]
  case exceeds =>
    intro hnone
    obtain ⟨haccepts, hrun⟩ := run_eq_none_iff.mp hnone
    exact ⟨_, _, haccepts, (Collection.exists_run_eq_none_iff.mp ⟨w.sorting, hrun⟩).exceeds⟩

/-- No directory of documents and no input: a query fails for the one and a
compilation for the other. In the office nothing is missing but the collection,
which is an answer. -/
theorem first_failing_stage_decides_bare :
    let bare : Surroundings := {
      files := .ofRoot (.directory [
        ("config.json", .file "\x7b\"schema_dir\": \"schemas\"\x7d".toUTF8),
        ("schemas", .directory [])])
      input := .empty
      takenPorts := []
      sorting := .insertion }
    bare.run (.query "config.json" "jobs") = .error .noDataDir ∧
      bare.run (.compile "config.json" "jobs") = .error (.input .empty) ∧
      ∃ line, office.run (.query "config.json" "jobs") = .ok (some [line]) ∧
        line.GivesError "COLLECTION_NOT_FOUND" "Collection not found: jobs" := by
  intro bare
  have hinput : bare.failure? "config.json" .input = some (.input .empty) := by decide +kernel
  refine ⟨?query, ?compile, ?office⟩
  case query =>
    refine ((first_failing_stage_decides bare "config.json" "jobs" .query).1 .noDataDir).mpr
      ⟨[.settings, .schemas], .dataDir, [.collections, .input], rfl, ?_, rfl, ?_⟩ <;>
      decide +kernel
  case compile =>
    refine ((first_failing_stage_decides bare "config.json" "jobs" .compile).1 _).mpr
      ⟨[.settings, .schemas], .input, [], rfl, hinput, rfl, ?_⟩
    decide +kernel
  case office =>
    have hload : Settings.load office.files "config.json" =
        .ok { Settings.ofSchemaDir "schemas" with dataDir := some "data" } := by
      decide +kernel
    have hschemas : (Registry.load office.files "schemas").toOption.isSome := by decide +kernel
    have hcollections : (Collection.load office.files "data").toOption.map
        (·.lookup "jobs" |>.isNone) = some true := by
      decide +kernel
    have hrequest : Request.ofInput office.input = .ok startingWithA := by decide +kernel
    obtain ⟨registry, hschemas⟩ := Option.isSome_iff_exists.mp hschemas
    obtain ⟨collections, hcollections, hlookup⟩ := Option.map_eq_some_iff.mp hcollections
    obtain ⟨line, hrun, hreports⟩ :=
      (first_failing_stage_decides office "config.json" "jobs" .query).2.2.2.1 _
        (.noCollection ⟨hload, Except.toOption_eq_some_iff.mp hschemas, hrequest⟩ rfl
          (Except.toOption_eq_some_iff.mp hcollections) (Option.isNone_iff_eq_none.mp hlookup))
    exact ⟨line, hrun, hreports.error _ rfl⟩

/-! ## A query that is given up -/

/-- The characters of a file with the tangled ledger. -/
def ledgerFile : List Char :=
  let record (amount : String) : List Char :=
    "\x7b\"amount\": ".toList ++ amount.toList ++ "\x7d".toList
  let amounts := Service.tangled "9007199254740992" "9007199254740992.0" "9007199254740993"
  "[".toList ++ ", ".toList.intercalate (amounts.map record) ++ "]".toList

/-- The schema of a ledger. -/
def ledgerSchema : String :=
  "\x7b\"entity\":\"ledger\",\"fields\":\x7b\"amount\":\x7b\"type\":\"float\"\x7d\x7d\x7d"

/-- The query for the whole ledger by amount. -/
def ledgerQuery : Query := ⟨[], some ⟨"amount", .ascending, .value⟩⟩

theorem parse_ledgerFile : ∃ c, Collection.parse (String.ofList ledgerFile) = .ok c ∧
    c.run .insertion ledgerQuery = none := by
  -- the text is long, so it is decoded as a list of characters
  have hfront : ((Decoder.sequence Decoder.anyValue).front (ledgerFile.map some)).toOption.map
      (fun ds => (ds.all Value.isObject, (Collection.run ⟨ds⟩ .insertion ledgerQuery).isNone)) =
      some (true, true) := by
    decide +kernel
  have hrest : (Tree.read (ledgerFile.map some)).2.map skipSpace = some [] := by decide +kernel
  obtain ⟨ds, hds, hboth⟩ := Option.map_eq_some_iff.mp hfront
  obtain ⟨hobjects, hnone⟩ := Prod.mk.inj hboth
  have hrun := Decoder.run_of_front (Except.toOption_eq_some_iff.mp hds) hrest
  exact ⟨⟨ds⟩, Collection.parse_eq_ok_iff_run.mpr ⟨hrun, List.all_eq_true.mp hobjects⟩,
    Option.isNone_iff_eq_none.mp hnone⟩

/-- Settings, a schema and the tangled ledger. -/
def books : Surroundings where
  files :=
    { read path :=
        if path = "config.json" then
          .ok "\x7b\"schema_dir\": \"schemas\", \"data_dir\": \"data\"\x7d"
        else .error .notFound
      list dir :=
        if dir = "schemas" ∨ dir = "data" then .ok [.ofText "ledger.json"] else .error .notFound
      readIn dir _ :=
        if dir = "data" then .ok (String.ofList ledgerFile) else .ok ledgerSchema }
  input := Router.byAmountText.toUTF8
  takenPorts := []
  sorting := .insertion

theorem books_givesUp : Task.query.GivesUp books "config.json" "ledger" := by
  have hload : Settings.load books.files "config.json" =
      .ok { Settings.ofSchemaDir "schemas" with dataDir := some "data" } := by
    decide +kernel
  have hcompiled : (Registry.load books.files "schemas").toOption.map
      (·.compileAllowed ⟨["password"]⟩ "ledger" Service.byAmount) = some (.ok ledgerQuery) := by
    decide +kernel
  have hinput : Request.ofInput books.input = .ok Service.byAmount := by decide +kernel
  obtain ⟨registry, hschemas, hcompiled⟩ := Option.map_eq_some_iff.mp hcompiled
  obtain ⟨c, hparse, hrun⟩ := parse_ledgerFile
  have hname : Collection.nameOf? (.ofText "ledger.json") = some "ledger" := by decide +kernel
  have hcollections : Collection.load books.files "data" = .ok [("ledger", c)] := by
    simp [Collection.load, Collection.ofFiles, Collection.ofFile, books, hname, hparse]
  exact .queried (.of ⟨hload, Except.toOption_eq_some_iff.mp hschemas, hinput⟩ rfl hcollections rfl
    hcompiled) hrun

/-- No stage of the query fails, but sorting the ledger by insertion is given up,
so the query comes to nothing and writes no line. -/
theorem books_write_no_line :
    (∀ stage ∈ Task.query.stages, books.failure? "config.json" stage = none) ∧
      (¬ ∃ outcome, Task.query.ComesTo books "config.json" "ledger" outcome) ∧
      books.run (.query "config.json" "ledger") = .ok none := by
  have hstages := List.findSome?_eq_none_iff.mp (no_failure_iff.mpr (.inr books_givesUp))
  have hrun := run_eq_none_iff.mpr books_givesUp
  exact ⟨hstages, not_comesTo_of_givesUp books_givesUp, hrun⟩

end Surroundings

end DocSieve
