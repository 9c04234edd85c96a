-- SUMMARY: Which settings are accepted where their file lies, and what is left of them when the port is replaced.
import Mathlib.Tactic.SplitIfs
import DocSieve.Proofs.Except
import DocSieve.Settings

/-!
# Accepted settings

Settings are checked as they are going to be used. When they are loaded, their
directories have been joined with the place of the file by then, so a directory
that the file leaves empty is seen as such only if the path of the file says
nothing about its place. When the port is replaced, it has been written by then,
and it stays if it is refused.
-/

namespace DocSieve

namespace Files

variable {base path file : String}

theorem join_eq_empty_iff : join base path = "" ↔ base = "" ∧ path = "" := by
  unfold join
  split_ifs with habsolute hbase
  · have hpath : path ≠ "" := by
      rintro rfl
      contradiction
    exact iff_of_false hpath fun h => hpath h.2
  · exact String.append_eq_empty_iff
  · refine iff_of_false ?_ fun h => hbase (.inl h.1)
    simp

/-- The path says in which directory the file lies. -/
def SaysDirectory (file : String) : Prop := ∃ base, parent? file = some base ∧ base ≠ ""

end Files

namespace Settings

open Files (SaysDirectory)

variable {fs : Files.FileSystem} {file text : String} {s given : Settings} {port : Nat}

/-! ## Checks -/

/-- What the checks ask for. -/
structure Valid (s : Settings) : Prop where
  schemaDir : s.schemaDir ≠ ""
  denied : ∀ field ∈ s.denied, ¬ Text.isBlank field
  port : 0 < s.port
  origins : ∀ origin ∈ s.corsOrigins, isHeaderValue origin

theorem allowedOrigins_eq_ok_iff {origins : List String} : s.allowedOrigins = .ok origins ↔
    s.corsOrigins = origins ∧ ∀ origin ∈ s.corsOrigins, isHeaderValue origin := by
  unfold allowedOrigins
  cases hfind : s.corsOrigins.find? (!isHeaderValue ·) with
  | some origin =>
    refine iff_of_false nofun ?_
    rintro ⟨-, hall⟩
    simpa [hall origin (List.mem_of_find?_eq_some hfind)] using List.find?_some hfind
  | none =>
    have hall : ∀ origin ∈ s.corsOrigins, isHeaderValue origin := by
      simpa using List.find?_eq_none.mp hfind
    rw [Except.ok.injEq, and_iff_left hall]

theorem check_eq_ok_iff : s.check = .ok () ↔ s.Valid := by
  unfold check
  split_ifs with hdir hdenied hport
  · exact iff_of_false nofun fun h => h.schemaDir hdir
  · obtain ⟨field, hmem, hblank⟩ := List.any_eq_true.mp hdenied
    exact iff_of_false nofun fun h => h.denied field hmem hblank
  · exact iff_of_false nofun fun h => Nat.ne_of_gt h.port hport
  · constructor
    · intro h
      obtain ⟨_, horigins, -⟩ := Except.map_eq_ok_iff.mp h
      exact ⟨hdir, by simpa using hdenied, Nat.pos_of_ne_zero hport,
        (allowedOrigins_eq_ok_iff.mp horigins).2⟩
    · intro h
      exact Except.map_eq_ok_iff.mpr ⟨_, allowedOrigins_eq_ok_iff.mpr ⟨rfl, h.origins⟩, rfl⟩

/-- The directory of schemas is checked before anything else. -/
theorem check_eq_noSchemaDir_iff : s.check = .error .noSchemaDir ↔ s.schemaDir = "" := by
  unfold check
  split_ifs with hdir
  · exact iff_of_true rfl hdir
  · exact iff_of_false nofun hdir
  · exact iff_of_false nofun hdir
  · refine iff_of_false ?_ hdir
    unfold allowedOrigins
    cases s.corsOrigins.find? (!isHeaderValue ·) <;> exact nofun

/-! ## Loading -/

/-- The settings of a file at that path, with its directories as they are used. -/
def placedAt (given : Settings) (file : String) : Settings :=
  ((Files.parent? file).map given.relativeTo).getD given

theorem placedAt_schemaDir_eq_empty_iff :
    (given.placedAt file).schemaDir = "" ↔ given.schemaDir = "" ∧ ¬ SaysDirectory file := by
  unfold placedAt SaysDirectory
  cases Files.parent? file with
  | none => simp
  | some base => simp [relativeTo, Files.join_eq_empty_iff, and_comm]

/-- Where the file lies makes a difference to its directories only. -/
theorem placedAt_eq (given : Settings) (file : String) :
    ∃ schemaDir dataDir, given.placedAt file = { given with schemaDir, dataDir } := by
  unfold placedAt
  cases Files.parent? file with
  | none => exact ⟨_, _, rfl⟩
  | some base => exact ⟨_, _, rfl⟩

theorem valid_placedAt_iff : (given.placedAt file).Valid ↔
    (∀ field ∈ given.denied, ¬ Text.isBlank field) ∧ 0 < given.port ∧
      (∀ origin ∈ given.corsOrigins, isHeaderValue origin) ∧
      (given.schemaDir = "" → SaysDirectory file) := by
  have hdir : (given.placedAt file).schemaDir ≠ "" ↔
      (given.schemaDir = "" → SaysDirectory file) := by
    rw [Ne, placedAt_schemaDir_eq_empty_iff, not_and, Classical.not_not]
  obtain ⟨schemaDir, dataDir, heq⟩ := given.placedAt_eq file
  rw [← hdir, heq]
  exact ⟨fun h => ⟨h.denied, h.port, h.origins, h.schemaDir⟩,
    fun ⟨hdenied, hport, horigins, hschemaDir⟩ => ⟨hschemaDir, hdenied, hport, horigins⟩⟩

theorem load_eq_check (hread : fs.read file = .ok text) (hparse : parse text = .ok given) :
    load fs file = (given.placedAt file).check.map fun _ => given.placedAt file := by
  unfold load
  rw [hread, Except.mapError_ok, Except.bind_ok, hparse, Except.mapError_ok, Except.bind_ok]
  change (do (given.placedAt file).check; return given.placedAt file) = _
  cases (given.placedAt file).check <;> rfl

theorem load_eq_ok_iff (hread : fs.read file = .ok text) : load fs file = .ok s ↔
    ∃ given, parse text = .ok given ∧ given.placedAt file = s ∧ s.Valid := by
  cases hparse : parse text with
  | error fault => simp [load, hread, hparse]
  | ok given =>
    rw [load_eq_check hread hparse, ← check_eq_ok_iff]
    constructor
    · intro h
      obtain ⟨⟨⟩, hcheck, rfl⟩ := Except.map_eq_ok_iff.mp h
      exact ⟨given, rfl, rfl, hcheck⟩
    · rintro ⟨_, ⟨⟩, rfl, hcheck⟩
      exact Except.map_eq_ok_iff.mpr ⟨(), hcheck, rfl⟩

theorem exists_load_iff (hread : fs.read file = .ok text) : (∃ s, load fs file = .ok s) ↔
    ∃ given, parse text = .ok given ∧ (given.placedAt file).Valid := by
  simp only [load_eq_ok_iff hread]
  exact ⟨fun ⟨_, given, hparse, rfl, h⟩ => ⟨given, hparse, h⟩,
    fun ⟨given, hparse, h⟩ => ⟨_, given, hparse, rfl, h⟩⟩

/-- Accepted settings have passed the checks. -/
theorem valid_of_load (h : load fs file = .ok s) : s.Valid := by
  obtain ⟨text, hread, -⟩ := Except.bind_eq_ok_iff.mp h
  obtain ⟨given, -, -, hvalid⟩ := (load_eq_ok_iff (Except.mapError_eq_ok_iff.mp hread)).mp h
  exact hvalid

/-- **Which files of settings are accepted.** A file is accepted exactly if its
text is read as settings without blank names of denied fields, with a positive
port and with origins that can stand in a header, and if the directory of schemas
is not empty or the path says in which directory the file lies. An empty directory
of schemas is reported only if the path does not say it. So a text is accepted at
both of two paths or at none, unless it leaves that directory empty and just one
of them says its directory. Accepted settings pass all checks. -/
theorem accepted_at_path_iff (hread : fs.read file = .ok text) :
    ((∃ s, load fs file = .ok s) ↔ ∃ given, parse text = .ok given ∧
      (∀ field ∈ given.denied, ¬ Text.isBlank field) ∧ 0 < given.port ∧
      (∀ origin ∈ given.corsOrigins, isHeaderValue origin) ∧
      (given.schemaDir = "" → SaysDirectory file)) ∧
    (load fs file = .error .noSchemaDir ↔
      ∃ given, parse text = .ok given ∧ given.schemaDir = "" ∧ ¬ SaysDirectory file) ∧
    (∀ fs' file', Files.FileSystem.read fs' file' = .ok text →
      ((∃ given, parse text = .ok given ∧ given.schemaDir = "") →
        (SaysDirectory file ↔ SaysDirectory file')) →
      ((∃ s, load fs file = .ok s) ↔ ∃ s, load fs' file' = .ok s)) ∧
    ∀ s, load fs file = .ok s → s.Valid := by
  refine ⟨?accepted, ?empty, ?paths, fun s => valid_of_load⟩
  case accepted => simp only [exists_load_iff hread, valid_placedAt_iff]
  case empty =>
    cases hparse : parse text with
    | error fault => simp [load, hread, hparse]
    | ok given =>
      rw [load_eq_check hread hparse]
      simp only [Except.ok.injEq, exists_eq_left']
      rw [← placedAt_schemaDir_eq_empty_iff, ← check_eq_noSchemaDir_iff]
      cases (given.placedAt file).check <;> simp [Except.map]
  case paths =>
    intro fs' file' hread' hsays
    simp only [exists_load_iff hread, exists_load_iff hread', valid_placedAt_iff]
    refine exists_congr fun given => and_congr_right fun hparse => ?_
    refine and_congr_right' (and_congr_right' (and_congr_right' (forall_congr' fun hempty => ?_)))
    exact hsays ⟨given, hparse, hempty⟩

/-- A directory of schemas that is not empty is accepted wherever the file lies. -/
theorem accepted_at_path_iff_here :
    let entry := Files.Entry.file "\x7b\"schema_dir\":\"s\"\x7d".toUTF8
    let fs : Files.FileSystem := .ofRoot (.directory [("q.json", entry), ("d", .directory
      [("q.json", entry)])])
    fs.read "q.json" = .ok "\x7b\"schema_dir\":\"s\"\x7d" ∧
      (∃ s, load fs "q.json" = .ok s) ∧ ∃ s, load fs "d/q.json" = .ok s := by
  intro entry fs
  have hread : fs.read "q.json" = .ok "\x7b\"schema_dir\":\"s\"\x7d" := by decide +kernel
  have hread' : fs.read "d/q.json" = .ok "\x7b\"schema_dir\":\"s\"\x7d" := by decide +kernel
  have hparse : parse "\x7b\"schema_dir\":\"s\"\x7d" = .ok (ofSchemaDir "s") := by decide +kernel
  obtain ⟨hhere, -, hpaths, -⟩ := accepted_at_path_iff hread
  have haccepted : ∃ s, load fs "q.json" = .ok s :=
    hhere.mpr ⟨_, hparse, by decide +kernel, by decide, by decide, fun h => absurd h (by decide)⟩
  refine ⟨hread, haccepted, (hpaths fs "d/q.json" hread' ?_).mp haccepted⟩
  rintro ⟨given, hgiven, hempty⟩
  rw [← Except.ok.inj (hparse.symm.trans hgiven)] at hempty
  exact absurd hempty (by decide)

/-- One text with an empty directory of schemas, at a path that does not say a
directory and at two that do. -/
theorem empty_schema_dir_accepted :
    let entry := Files.Entry.file "\x7b\"schema_dir\":\"\"\x7d".toUTF8
    let fs : Files.FileSystem := .ofRoot (.directory [("q.json", entry), ("d", .directory
      [("q.json", entry)])])
    fs.read "d/q.json" = fs.read "q.json" ∧ fs.read "./q.json" = fs.read "q.json" ∧
      load fs "q.json" = .error .noSchemaDir ∧
      load fs "d/q.json" = .ok (ofSchemaDir "d/") ∧
      load fs "./q.json" = .ok (ofSchemaDir "./") := by
  intro entry fs
  refine ⟨?_, ?_, ?_, ?_, ?_⟩ <;> decide +kernel

/-! ## Replacing the port -/

/-- The settings after calls that replace the port, one after the other, whatever
they answer. -/
def overrideAll (s : Settings) (ports : List Nat) : Settings :=
  ports.foldl (fun s port => (s.overridePort port).2) s

/-- A call is refused for the port zero only, and it leaves the port that it was
given. The port before it does not count. -/
theorem Valid.overridePort_eq (h : s.Valid) (before port : Nat) :
    ({ s with port := before } : Settings).overridePort port =
      (if port = 0 then .error .zeroPort else .ok (), { s with port }) := by
  refine Prod.ext ?_ rfl
  change ({ s with port } : Settings).check = _
  split_ifs with hport
  · have hdenied : s.denied.any Text.isBlank = false := by simpa using h.denied
    simp [check, h.schemaDir, hdenied, hport]
  · exact check_eq_ok_iff.mpr ⟨h.schemaDir, h.denied, Nat.pos_of_ne_zero hport, h.origins⟩

theorem overrideAll_eq (s : Settings) (ports : List Nat) :
    s.overrideAll ports = { s with port := ports.getLast?.getD s.port } := by
  induction ports generalizing s with
  | nil => rfl
  | cons port ports ih =>
    rw [List.getLast?_cons, Option.getD_some]
    exact ih { s with port }

theorem Valid.overrideAll_iff (h : s.Valid) (ports : List Nat) :
    (s.overrideAll ports).Valid ↔ ports.getLast? ≠ some 0 := by
  have hport := h.port
  rw [overrideAll_eq]
  refine ⟨fun hafter hlast => ?_, fun hlast => ⟨h.schemaDir, h.denied, ?_, h.origins⟩⟩
  · simpa [hlast] using hafter.port
  · cases hget : ports.getLast? with
    | none => exact hport
    | some port => exact Nat.pos_of_ne_zero fun hzero => hlast (hzero ▸ hget)

/-- **What replacing the port leaves.** After any calls on settings that were
loaded, all but the port is as it was loaded, and the port is the one of the last
call, accepted or not. The next call is refused exactly for the port zero. The
settings still pass all checks, and they are as the accepted calls alone would
leave them, exactly if the last call was not refused. A refused call leaves the
settings as they were only behind another one. -/
theorem last_port_stays (hload : load fs file = .ok s) (ports : List Nat) :
    s.overrideAll ports = { s with port := ports.getLast?.getD s.port } ∧
    (∀ port, ((s.overrideAll ports).overridePort port).1 =
      if port = 0 then .error .zeroPort else .ok ()) ∧
    ((s.overrideAll ports).Valid ↔ ports.getLast? ≠ some 0) ∧
    (s.overrideAll ports = s.overrideAll (ports.filter (0 < ·)) ↔ ports.getLast? ≠ some 0) ∧
    (((s.overrideAll ports).overridePort 0).2 = s.overrideAll ports ↔
      ports.getLast? = some 0) := by
  have hvalid := valid_of_load hload
  refine ⟨overrideAll_eq s ports, ?answers, hvalid.overrideAll_iff ports, ?accepted, ?refused⟩
  case answers =>
    intro port
    rw [overrideAll_eq, hvalid.overridePort_eq]
  case accepted =>
    constructor
    · intro heq
      rw [← hvalid.overrideAll_iff, heq, hvalid.overrideAll_iff]
      intro hlast
      simpa using (List.mem_filter.mp (List.mem_of_getLast? hlast)).2
    · intro hlast
      rcases ports.eq_nil_or_concat with rfl | ⟨before, port, rfl⟩
      · rfl
      · have hport : 0 < port := Nat.pos_of_ne_zero (by simpa using hlast)
        simp [overrideAll_eq, List.filter_append, hport]
  case refused =>
    have hport : 0 ≠ s.port := Nat.ne_of_lt hvalid.port
    rw [overrideAll_eq, hvalid.overridePort_eq, Settings.mk.injEq]
    cases ports.getLast? with
    | none => simp [hport]
    | some port => simp [eq_comm]

/-- A port that is refused and then one that is accepted. -/
theorem last_port_stays_accepted :
    let fs : Files.FileSystem := .ofRoot (.directory [("q.json",
      .file "\x7b\"schema_dir\":\"s\"\x7d".toUTF8)])
    load fs "q.json" = .ok (ofSchemaDir "s") ∧
      (ofSchemaDir "s").overrideAll [0, 8080] = { ofSchemaDir "s" with port := 8080 } ∧
      ((ofSchemaDir "s").overrideAll [0, 8080]).Valid := by
  intro fs
  have hload : load fs "q.json" = .ok (ofSchemaDir "s") := by decide +kernel
  obtain ⟨hport, -, hvalid, -⟩ := last_port_stays hload [0, 8080]
  exact ⟨hload, hport, hvalid.mpr (by decide)⟩

/-- A refused call that leaves loaded settings with the port that it refused. -/
theorem refused_port_stays :
    let fs : Files.FileSystem := .ofRoot (.directory [("q.json",
      .file "\x7b\"schema_dir\":\"s\"\x7d".toUTF8)])
    load fs "q.json" = .ok (ofSchemaDir "s") ∧
      (ofSchemaDir "s").port = 54321 ∧
      (ofSchemaDir "s").overridePort 0 = (.error .zeroPort, { ofSchemaDir "s" with port := 0 }) ∧
      ¬ ({ ofSchemaDir "s" with port := 0 } : Settings).Valid := by
  intro fs
  refine ⟨by decide +kernel, rfl, by decide +kernel, fun h => ?_⟩
  exact absurd h.port (by decide)

end Settings

end DocSieve
