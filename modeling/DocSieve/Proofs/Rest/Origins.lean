-- SUMMARY: Which accepted settings have a router: those whose origins do not contain the sign for all.
import DocSieve.CommandLine.Run
import DocSieve.Proofs.Settings

/-!
# Origins and routers

Settings are accepted when their origins can stand in a header, and the sign
for all origins can. A list with that sign is refused only when the router is
built, after all checks. An empty list is the accepted way to allow all.
-/

namespace DocSieve

variable {fs : Files.FileSystem} {file : String} {s : Settings}

/-! ## Accepted settings -/

namespace Settings

/-- The settings that the program goes on with: those of a file, and those in
which the port was replaced, as long as nothing is refused. -/
inductive Accepted (fs : Files.FileSystem) (file : String) : Settings → Prop where
  | loaded {s : Settings} : load fs file = .ok s → Accepted fs file s
  | overridden {s s' : Settings} {port : Nat} : Accepted fs file s →
      s.overridePort port = (.ok (), s') → Accepted fs file s'

theorem Accepted.check_eq (h : Accepted fs file s) : s.check = .ok () := by
  cases h with
  | loaded h => exact check_eq_ok_iff.mpr (valid_of_load h)
  | overridden _ h =>
    obtain ⟨hcheck, rfl⟩ := Prod.mk.inj h
    exact hcheck

/-- The last check is that of the origins. -/
theorem allowedOrigins_of_check (h : s.check = .ok ()) : s.allowedOrigins = .ok s.corsOrigins :=
  allowedOrigins_eq_ok_iff.mpr ⟨rfl, (check_eq_ok_iff.mp h).origins⟩

end Settings

/-! ## Routers -/

theorem Origins.ofList?_eq_none_iff {origins : List String} :
    ofList? origins = none ↔ wildcard ∈ origins := by
  cases origins with
  | nil => simp [ofList?]
  | cons o os => simp [ofList?, or_iff_not_imp_left]

namespace Router

theorem exists_of?_iff {service : Service} {origins : List String} :
    (∃ router, of? service origins = some router) ↔ Origins.wildcard ∉ origins := by
  rw [← Origins.ofList?_eq_none_iff, ← Option.isSome_iff_exists, of?, Option.isSome_map,
    ← Option.not_isSome_iff_eq_none, Decidable.not_not]

/-- **Which accepted settings have a router.** The origins of accepted settings can
always be listed, and a service has a router for them exactly if the sign for
all origins is not among them. -/
theorem accepted_origins_have_router (h : s.Accepted fs file) (service : Service) :
    s.allowedOrigins = .ok s.corsOrigins ∧
    ((∃ router, of? service s.corsOrigins = some router) ↔ Origins.wildcard ∉ s.corsOrigins) :=
  ⟨Settings.allowedOrigins_of_check h.check_eq, exists_of?_iff⟩

/-- Two origins, and a port that replaces the one of the file. -/
theorem accepted_origins_have_router_two :
    let fs : Files.FileSystem := .ofRoot (.directory [("config.json", .file
      "\x7b\"schema_dir\":\"schemas\",\"cors_origins\":[\"http://a\",\"null\"]\x7d".toUTF8)])
    ∃ s : Settings, s.Accepted fs "config.json" ∧ s.port = 8080 ∧
      s.allowedOrigins = .ok ["http://a", "null"] ∧
      ∀ service, ∃ router, of? service ["http://a", "null"] = some router := by
  intro fs
  have hload : Settings.load fs "config.json" =
      .ok { Settings.ofSchemaDir "schemas" with corsOrigins := ["http://a", "null"] } := by
    decide +kernel
  have hport : Settings.overridePort
      { Settings.ofSchemaDir "schemas" with corsOrigins := ["http://a", "null"] } 8080 =
      (.ok (), { Settings.ofSchemaDir "schemas" with
        corsOrigins := ["http://a", "null"], port := 8080 }) := by
    decide +kernel
  have haccepted := Settings.Accepted.overridden (.loaded hload) hport
  refine ⟨_, haccepted, rfl, ?_, fun service => ?_⟩
  · exact (accepted_origins_have_router haccepted ⟨.empty, ⟨[]⟩, [], .insertion⟩).1
  · exact (accepted_origins_have_router haccepted service).2.mpr (by decide)

/-- Settings that name the sign for all origins are accepted, the command `serve`
takes all its steps with them, and then there is no router. -/
theorem wildcard_has_no_router :
    let w : Surroundings := {
      files := .ofRoot (.directory [
        ("config.json", .file "\x7b\"schema_dir\":\"schemas\",\"cors_origins\":[\"*\"]\x7d".toUTF8),
        ("schemas", .directory [])])
      input := .empty
      takenPorts := []
      sorting := .insertion }
    (∃ s : Settings, s.Accepted w.files "config.json" ∧ s.allowedOrigins = .ok ["*"]) ∧
    ∃ service address, w.serve "config.json" none = .ok (service, ["*"], address) ∧
      of? service ["*"] = none := by
  intro w
  have hload : Settings.load w.files "config.json" =
      .ok { Settings.ofSchemaDir "schemas" with corsOrigins := ["*"] } := by
    decide +kernel
  have hserve : (w.serve "config.json" none).toOption.map (·.2) =
      some (["*"], ⟨.v4 [0, 0, 0, 0], 54321⟩) := by
    decide +kernel
  obtain ⟨⟨service, origins, address⟩, hserve, heq⟩ := Option.map_eq_some_iff.mp hserve
  cases heq
  exact ⟨⟨_, .loaded hload, rfl⟩, service, _, Except.toOption_eq_some_iff.mp hserve, rfl⟩

end Router

end DocSieve
