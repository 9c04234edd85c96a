-- SUMMARY: Loading a directory of schemas: what the registry holds, and at which file loading stops, whatever the order of the listing.
import Mathlib.Data.List.Pairwise
import DocSieve.Proofs.Files.Name
import DocSieve.Proofs.Schema.History

/-!
# Directories of schemas

The files are sorted before they are read, so what comes of them depends on
what the directory holds and not on how it is listed. Up to the first file with
something wrong, the registry has one schema for each file. A file is wrong by
itself, or because of a file before it that has the same entity.
-/

namespace DocSieve

namespace Registry

open Files (FileSystem Name)

variable {fs fs' : FileSystem} {dir : String} {names names' files before : List Name}
  {name : Name} {r r' : Registry} {s t : EntitySchema} {e e' : SchemaError}

/-! ## One file -/

/-- The file holds the text of a valid schema. -/
def FileHolds (fs : FileSystem) (dir : String) (name : Name) (s : EntitySchema) : Prop :=
  ∃ text, fs.readIn dir name = .ok text ∧ EntitySchema.parse text = .ok s ∧
    s.structureError? = none

/-- What is wrong with a file by itself. -/
inductive FileFlaw (fs : FileSystem) (dir : String) (name : Name) : SchemaError → Prop where
  | unreadable {error : Files.Error} : fs.readIn dir name = .error error →
      FileFlaw fs dir name (.malformed (name.pathIn dir) (.unreadableFile error))
  | invalidJson {text : String} {fault : Json.Fault} : fs.readIn dir name = .ok text →
      EntitySchema.parse text = .error fault →
      FileFlaw fs dir name (.malformed (name.pathIn dir) (.invalidJson fault))
  | structure {text : String} {s : EntitySchema} {error : StructureError} :
      fs.readIn dir name = .ok text → EntitySchema.parse text = .ok s →
      s.structureError? = some error →
      FileFlaw fs dir name (.malformed (name.pathIn dir) (.structure error))

theorem FileHolds.unique (h : FileHolds fs dir name s) (h' : FileHolds fs dir name t) : s = t := by
  obtain ⟨text, hread, hparse, -⟩ := h
  obtain ⟨text', hread', hparse', -⟩ := h'
  cases hread.symm.trans hread'
  cases hparse.symm.trans hparse'
  rfl

theorem FileFlaw.unique (h : FileFlaw fs dir name e) (h' : FileFlaw fs dir name e') : e = e' := by
  cases h <;> cases h' <;> simp_all

theorem FileHolds.not_flaw (h : FileHolds fs dir name s) : ¬ FileFlaw fs dir name e := by
  obtain ⟨text, hread, hparse, hvalid⟩ := h
  rintro (_ | _ | _) <;> simp_all

/-- A file is flawed, or its schema is refused because its entity is known, or
taken in. -/
theorem insertFile_cases (fs : FileSystem) (dir : String) (r : Registry) (name : Name) :
    (∃ e, FileFlaw fs dir name e ∧ r.insertFile fs dir name = .error e) ∨
    ∃ s, FileHolds fs dir name s ∧
      (((∃ t, r.get? s.entity = some t) ∧
          r.insertFile fs dir name = .error (.duplicateEntity s.entity)) ∨
        (r.get? s.entity = none ∧ r.insertFile fs dir name = .ok ⟨r.schemas ++ [s]⟩)) := by
  unfold insertFile schemaOf
  cases hread : fs.readIn dir name with
  | error error => exact .inl ⟨_, .unreadable hread, rfl⟩
  | ok text =>
    cases hparse : EntitySchema.parse text with
    | error fault => exact .inl ⟨_, .invalidJson hread hparse, by simp [hparse]⟩
    | ok s =>
      cases hvalid : s.structureError? with
      | some error => exact .inl ⟨_, .structure hread hparse hvalid, by simp [hparse, insert, hvalid]⟩
      | none =>
        refine .inr ⟨s, ⟨text, hread, hparse, hvalid⟩, ?_⟩
        cases hentity : r.get? s.entity with
        | some t => exact .inl ⟨⟨t, rfl⟩, by simp [hparse, insert, hvalid, hentity]⟩
        | none => exact .inr ⟨rfl, by simp [hparse, insert, hvalid, hentity]⟩

/-! ## Files one after the other -/

/-- The registry has the schemas of the files in their order, and no two of them
have the same entity. -/
structure LoadedFrom (fs : FileSystem) (dir : String) (files : List Name) (r : Registry) :
    Prop where
  holds : List.Forall₂ (FileHolds fs dir) files r.schemas
  distinct : (r.schemas.map (·.entity)).Nodup

/-- Whatever the two files hold, it is of different entities. -/
def Apart (fs : FileSystem) (dir : String) (name name' : Name) : Prop :=
  ∀ s t, FileHolds fs dir name s → FileHolds fs dir name' t → s.entity ≠ t.entity

instance : Std.Symm (Apart fs dir) where
  symm _ _ h s t hs ht := (h t s ht hs).symm

namespace LoadedFrom

theorem nil : LoadedFrom fs dir [] empty := ⟨.nil, .nil⟩

theorem concat (h : LoadedFrom fs dir files r) (hs : FileHolds fs dir name s)
    (hnew : r.get? s.entity = none) : LoadedFrom fs dir (files ++ [name]) ⟨r.schemas ++ [s]⟩ := by
  refine ⟨List.rel_append h.holds (.cons hs .nil), ?_⟩
  rw [List.map_append, List.nodup_append_comm]
  exact List.nodup_cons.mpr ⟨get?_eq_none_iff.mp hnew, h.distinct⟩

theorem mem_schemas_iff (h : LoadedFrom fs dir files r) :
    s ∈ r.schemas ↔ ∃ name ∈ files, FileHolds fs dir name s := by
  constructor
  · exact exists_mem_of_forall₂ h.holds
  · rintro ⟨name, hname, hs⟩
    obtain ⟨t, ht, hholds⟩ := exists_mem_of_forall₂ h.holds.flip hname
    rwa [hs.unique hholds]

theorem exists_holds (h : LoadedFrom fs dir files r) (hname : name ∈ files) :
    ∃ s, FileHolds fs dir name s := by
  obtain ⟨s, -, hs⟩ := exists_mem_of_forall₂ h.holds.flip hname
  exact ⟨s, hs⟩

theorem wellFormed (h : LoadedFrom fs dir files r) : r.WellFormed := by
  refine ⟨fun s hs => ?_, h.distinct⟩
  obtain ⟨name, -, text, -, -, hvalid⟩ := h.mem_schemas_iff.mp hs
  exact hvalid

theorem get?_eq_some_iff (h : LoadedFrom fs dir files r) {entity : String} :
    r.get? entity = some s ↔ s.entity = entity ∧ ∃ name ∈ files, FileHolds fs dir name s := by
  rw [h.wellFormed.get?_eq_some_iff, h.mem_schemas_iff, and_comm]

/-- No two files hold schemas of one entity. -/
theorem pairwise_apart (h : LoadedFrom fs dir files r) : files.Pairwise (Apart fs dir) := by
  obtain ⟨schemas⟩ := r
  obtain ⟨hholds, hdistinct⟩ := h
  simp only at hholds hdistinct
  induction hholds with
  | nil => exact .nil
  | cons hs hrest ih =>
    rw [List.map_cons, List.nodup_cons] at hdistinct
    refine .cons (fun b hb s' t hs' ht heq => hdistinct.1 ?_) (ih hdistinct.2)
    obtain ⟨t', hmem, ht'⟩ := exists_mem_of_forall₂ hrest.flip hb
    rw [hs.unique hs', heq, ht.unique ht']
    exact List.mem_map_of_mem hmem

end LoadedFrom

/-- Either all files are taken in, or all in front of one that is refused. -/
theorem insertFiles_cases (h : LoadedFrom fs dir before r) (files : List Name) :
    (∃ r', r.insertFiles fs dir files = .ok r' ∧ LoadedFrom fs dir (before ++ files) r') ∨
    ∃ mid name after r' e, files = mid ++ name :: after ∧ LoadedFrom fs dir (before ++ mid) r' ∧
      r'.insertFile fs dir name = .error e ∧ r.insertFiles fs dir files = .error e := by
  induction files generalizing before r with
  | nil => exact .inl ⟨r, rfl, by rwa [List.append_nil]⟩
  | cons name files ih =>
    unfold insertFiles
    cases hstep : r.insertFile fs dir name with
    | error e => exact .inr ⟨[], name, files, r, e, rfl, by rwa [List.append_nil], hstep, rfl⟩
    | ok r' =>
      have h' : LoadedFrom fs dir (before ++ [name]) r' := by
        rcases insertFile_cases fs dir r name with ⟨e, -, he⟩ | ⟨s, hs, ⟨-, he⟩ | ⟨hnew, hr⟩⟩
        · cases hstep.symm.trans he
        · cases hstep.symm.trans he
        · cases hstep.symm.trans hr
          exact h.concat hs hnew
      rcases ih h' with ⟨r'', hr'', hall⟩ | ⟨mid, bad, after, r'', e, hfiles, hmid, hbad, herror⟩
      · exact .inl ⟨r'', hr'', by simpa using hall⟩
      · exact .inr ⟨name :: mid, bad, after, r'', e, by rw [hfiles]; rfl, by simpa using hmid, hbad,
          herror⟩

/-- What is read of files decides what comes of them. -/
theorem insertFiles_congr (r : Registry) {files : List Name}
    (h : ∀ name ∈ files, fs.readIn dir name = fs'.readIn dir name) :
    r.insertFiles fs dir files = r.insertFiles fs' dir files := by
  induction files generalizing r with
  | nil => rfl
  | cons name files ih =>
    unfold insertFiles insertFile
    rw [h name List.mem_cons_self]
    exact congrArg _ (funext fun r' => ih r' fun n hn => h n (List.mem_cons_of_mem _ hn))

/-! ## The files of a directory -/

theorem mem_schemaFiles_iff : name ∈ schemaFiles names ↔ name ∈ names ∧ name.IsJson := by
  rw [schemaFiles, List.mem_mergeSort, List.mem_filter, Name.isSome_jsonStem?_iff]

/-- Files are read in the order of their names, each of them once. -/
theorem pairwise_schemaFiles (h : names.Nodup) : (schemaFiles names).Pairwise (· < ·) := by
  have hnodup : (schemaFiles names).Nodup :=
    (List.mergeSort_perm ..).nodup_iff.mpr (h.filter _)
  exact (Name.pairwise_mergeSort _).imp₂ (fun _ _ hle hne => Name.lt_iff_le_and_ne.mpr ⟨hle, hne⟩)
    hnodup

/-- The listing tells no more than which schema files there are. -/
theorem schemaFiles_eq (h : names.Nodup) (h' : names'.Nodup)
    (hsame : ∀ name, name.IsJson → (name ∈ names ↔ name ∈ names')) :
    schemaFiles names = schemaFiles names' := by
  refine Name.mergeSort_eq_of_perm ((List.perm_ext_iff_of_nodup (h.filter _) (h'.filter _)).mpr ?_)
  intro name
  rw [List.mem_filter, List.mem_filter, Name.isSome_jsonStem?_iff]
  exact and_congr_left (hsame name)

/-- What is wrong with a file of a directory: something by itself, or that a file
before it has the same entity. -/
inductive Offence (fs : FileSystem) (dir : String) (names : List Name) (name : Name) :
    SchemaError → Prop where
  | flaw {e : SchemaError} : FileFlaw fs dir name e → Offence fs dir names name e
  | repeated {earlier : Name} {t s : EntitySchema} : earlier ∈ names → earlier.IsJson →
      earlier < name → FileHolds fs dir earlier t → FileHolds fs dir name s →
      t.entity = s.entity → Offence fs dir names name (.duplicateEntity s.entity)

/-- The first of the files that have something wrong, in the order of names. -/
structure FirstOffence (fs : FileSystem) (dir : String) (names : List Name) (name : Name)
    (e : SchemaError) : Prop where
  mem : name ∈ names
  isJson : name.IsJson
  offence : Offence fs dir names name e
  first : ∀ earlier ∈ names, earlier.IsJson → earlier < name →
    ∀ e', ¬ Offence fs dir names earlier e'

theorem Offence.unique (h : Offence fs dir names name e) (h' : Offence fs dir names name e') :
    e = e' := by
  cases h with
  | flaw h =>
    cases h' with
    | flaw h' => exact h.unique h'
    | repeated _ _ _ _ hs => exact absurd h hs.not_flaw
  | repeated _ _ _ _ hs =>
    cases h' with
    | flaw h' => exact absurd h' hs.not_flaw
    | repeated _ _ _ _ hs' => rw [hs.unique hs']

theorem FirstOffence.unique {name' : Name} (h : FirstOffence fs dir names name e)
    (h' : FirstOffence fs dir names name' e') : name = name' ∧ e = e' := by
  obtain rfl : name = name' := by
    by_contra hne
    rcases Name.lt_or_lt_of_ne hne with hlt | hlt
    · exact h'.first name h.mem h.isJson hlt e h.offence
    · exact h.first name' h'.mem h'.isJson hlt e' h'.offence
  exact ⟨rfl, h.offence.unique h'.offence⟩

/-- Files that were all taken in, in front of which there are no others, have
nothing wrong. -/
theorem LoadedFrom.not_offence (h : LoadedFrom fs dir files r) (hname : name ∈ files)
    (hdown : ∀ earlier ∈ names, earlier.IsJson → earlier < name → earlier ∈ files) :
    ¬ Offence fs dir names name e := by
  rintro (hflaw | @⟨earlier, t, s, hearlier, hjson, hlt, ht, hs, heq⟩)
  · obtain ⟨s, hs⟩ := h.exists_holds hname
    exact hs.not_flaw hflaw
  · exact h.pairwise_apart.forall (hdown earlier hearlier hjson hlt) hname (Name.ne_of_lt hlt)
      t s ht hs heq

/-- In sorted names, the smaller ones are in front. -/
theorem mem_of_lt {mid after : List Name} {earlier : Name}
    (hsorted : (mid ++ name :: after).Pairwise (· < ·)) (h : earlier ∈ mid ++ name :: after)
    (hlt : earlier < name) : earlier ∈ mid := by
  have hafter := (List.pairwise_cons.mp (List.pairwise_append.mp hsorted).2.1).1
  rcases List.mem_append.mp h with h | h
  · exact h
  · rcases List.mem_cons.mp h with rfl | h
    · exact absurd hlt (Name.lt_irrefl _)
    · exact absurd (Name.lt_trans hlt (hafter earlier h)) (Name.lt_irrefl _)

/-- The file that is refused behind those that were taken in is the first one that
has something wrong. -/
theorem LoadedFrom.firstOffence {mid after : List Name} (h : LoadedFrom fs dir mid r)
    (hfiles : schemaFiles names = mid ++ name :: after) (hnodup : names.Nodup)
    (hrefused : r.insertFile fs dir name = .error e) : FirstOffence fs dir names name e := by
  have hsorted : (mid ++ name :: after).Pairwise (· < ·) := hfiles ▸ pairwise_schemaFiles hnodup
  have hmem {n : Name} : n ∈ mid ++ name :: after ↔ n ∈ names ∧ n.IsJson :=
    hfiles ▸ mem_schemaFiles_iff
  have hfront {n : Name} (hn : n ∈ names) (hjson : n.IsJson) (hlt : n < name) : n ∈ mid :=
    mem_of_lt hsorted (hmem.mpr ⟨hn, hjson⟩) hlt
  obtain ⟨hname, hjson⟩ : name ∈ names ∧ name.IsJson := hmem.mp (by simp)
  refine ⟨hname, hjson, ?offence, ?first⟩
  case offence =>
    rcases insertFile_cases fs dir r name with ⟨e', hflaw, he⟩ | ⟨s, hs, ⟨⟨t, ht⟩, he⟩ | ⟨-, hr⟩⟩
    · cases hrefused.symm.trans he
      exact .flaw hflaw
    · cases hrefused.symm.trans he
      obtain ⟨hentity, earlier, hearlier, ht⟩ := h.get?_eq_some_iff.mp ht
      obtain ⟨hearlier', hjson'⟩ := hmem.mp (List.mem_append_left _ hearlier)
      have hlt := (List.pairwise_append.mp hsorted).2.2 earlier hearlier name List.mem_cons_self
      exact .repeated hearlier' hjson' hlt ht hs hentity
    · cases hrefused.symm.trans hr
  case first =>
    intro earlier hearlier hjson' hlt e'
    exact h.not_offence (hfront hearlier hjson' hlt) fun n hn hnjson hnlt =>
      hfront hn hnjson (Name.lt_trans hnlt hlt)

/-- Loading takes in all schema files, or stops at the first that has something
wrong. -/
theorem load_cases (hlist : fs.list dir = .ok names) (hnodup : names.Nodup) :
    (∃ r, load fs dir = .ok r ∧ LoadedFrom fs dir (schemaFiles names) r) ∨
    ∃ name e, load fs dir = .error e ∧ FirstOffence fs dir names name e := by
  have hload : load fs dir = empty.insertFiles fs dir (schemaFiles names) := by
    rw [load, hlist]
  rw [hload]
  rcases insertFiles_cases .nil (schemaFiles names) with
    h | ⟨mid, name, after, r, e, hfiles, hmid, hrefused, herror⟩
  · exact .inl h
  · exact .inr ⟨name, e, herror, hmid.firstOffence hfiles hnodup hrefused⟩

theorem loadedFrom_of_load (hlist : fs.list dir = .ok names) (hnodup : names.Nodup)
    (h : load fs dir = .ok r) : LoadedFrom fs dir (schemaFiles names) r := by
  rcases load_cases hlist hnodup with ⟨r', hr', hall⟩ | ⟨name, e, he, -⟩
  · cases h.symm.trans hr'
    exact hall
  · cases h.symm.trans he

theorem load_eq_error_iff (hlist : fs.list dir = .ok names) (hnodup : names.Nodup) :
    load fs dir = .error e ↔ ∃ name, FirstOffence fs dir names name e := by
  rcases load_cases hlist hnodup with ⟨r, hr, hall⟩ | ⟨name, e', he', hfirst⟩
  · refine iff_of_false (by simp [hr]) ?_
    rintro ⟨name, hmem, hjson, hoffence, -⟩
    exact hall.not_offence (mem_schemaFiles_iff.mpr ⟨hmem, hjson⟩)
      (fun earlier hearlier hjson' _ => mem_schemaFiles_iff.mpr ⟨hearlier, hjson'⟩) hoffence
  · rw [he', Except.error.injEq]
    constructor
    · rintro rfl
      exact ⟨name, hfirst⟩
    · rintro ⟨name', hfirst'⟩
      exact (hfirst.unique hfirst').2

/-- **What a directory of schemas loads to.** For a directory that lists each of
its names once: loading succeeds exactly if every JSON file holds a schema and
no two files hold schemas of one entity. The registry then has the schemas of
the files in the order of their names, one from each, and they are the schemas
of their entities. Loading fails exactly with what is wrong with the first file
that has something wrong, where a file has something wrong by itself or because
a file before it has the same entity. Any directory that lists the same JSON
files with the same content, in any order and among any other entries, loads to
the same. -/
theorem directory_loads_first_offence_or_all (hlist : fs.list dir = .ok names)
    (hnodup : names.Nodup) :
    ((∃ r, load fs dir = .ok r) ↔
      (∀ name ∈ names, name.IsJson → ∃ s, FileHolds fs dir name s) ∧
      ∀ name ∈ names, ∀ name' ∈ names, name.IsJson → name'.IsJson → name ≠ name' →
        Apart fs dir name name') ∧
    (∀ r, load fs dir = .ok r →
      (∃ files : List Name, files.Pairwise (· < ·) ∧
        (∀ name, name ∈ files ↔ name ∈ names ∧ name.IsJson) ∧
        List.Forall₂ (FileHolds fs dir) files r.schemas) ∧
      ∀ entity s, r.get? entity = some s ↔
        s.entity = entity ∧ ∃ name ∈ names, name.IsJson ∧ FileHolds fs dir name s) ∧
    (∀ e, load fs dir = .error e ↔ ∃ name, FirstOffence fs dir names name e) ∧
    (∀ fs' names', fs'.list dir = .ok names' → names'.Nodup →
      (∀ name, name.IsJson → (name ∈ names ↔ name ∈ names')) →
      (∀ name ∈ names, name.IsJson → fs.readIn dir name = fs'.readIn dir name) →
      load fs' dir = load fs dir) := by
  refine ⟨?succeeds, ?holds, fun e => load_eq_error_iff hlist hnodup, ?order⟩
  case succeeds =>
    constructor
    · rintro ⟨r, hr⟩
      have hall := loadedFrom_of_load hlist hnodup hr
      exact ⟨fun name hname hjson => hall.exists_holds (mem_schemaFiles_iff.mpr ⟨hname, hjson⟩),
        fun name hname name' hname' hjson hjson' hne => hall.pairwise_apart.forall
          (mem_schemaFiles_iff.mpr ⟨hname, hjson⟩) (mem_schemaFiles_iff.mpr ⟨hname', hjson'⟩) hne⟩
    · rintro ⟨hholds, hapart⟩
      cases hload : load fs dir with
      | ok r => exact ⟨r, rfl⟩
      | error e =>
        obtain ⟨name, hmem, hjson, hoffence, -⟩ := (load_eq_error_iff hlist hnodup).mp hload
        obtain ⟨s, hs⟩ := hholds name hmem hjson
        rcases hoffence with hflaw | @⟨earlier, t, s, hearlier, hjson', hlt, ht, hs, heq⟩
        · exact absurd hflaw hs.not_flaw
        · exact absurd heq (hapart earlier hearlier name hmem hjson' hjson (Name.ne_of_lt hlt)
            t s ht hs)
  case holds =>
    intro r hr
    have hall := loadedFrom_of_load hlist hnodup hr
    refine ⟨⟨_, pairwise_schemaFiles hnodup, fun name => mem_schemaFiles_iff, hall.holds⟩,
      fun entity s => ?_⟩
    simp only [hall.get?_eq_some_iff, mem_schemaFiles_iff, and_assoc]
  case order =>
    intro fs' names' hlist' hnodup' hsame hread
    have hfiles : schemaFiles names' = schemaFiles names :=
      (schemaFiles_eq hnodup hnodup' hsame).symm
    simp only [load, hlist, hlist', hfiles]
    exact insertFiles_congr empty fun name hname =>
      (hread name (mem_schemaFiles_iff.mp hname).1 (mem_schemaFiles_iff.mp hname).2).symm

/-- Two files of one entity, among entries that hold no schema: the later name is
at fault, however the entries are listed. -/
theorem directory_loads_first_offence_or_all_clash :
    let job := Files.Entry.file "\x7b\"entity\":\"job\",\"fields\":\x7b\x7d\x7d".toUTF8
    let entries := [("post.json", job), (".json", .file .empty), ("job.json", job),
      ("notes", .directory [])]
    let fs : FileSystem := .ofRoot (.directory [("schemas", .directory entries)])
    let fs' : FileSystem := .ofRoot (.directory [("schemas", .directory entries.reverse)])
    let names := entries.map fun e => Name.ofText e.1
    FirstOffence fs "schemas" names (.ofText "post.json") (.duplicateEntity "job") ∧
    load fs "schemas" = .error (.duplicateEntity "job") ∧
    load fs' "schemas" = .error (.duplicateEntity "job") := by
  intro job entries fs fs' names
  have hlist : fs.list "schemas" = .ok names := by decide +kernel
  have hnodup : names.Nodup := by decide +kernel
  have hparse : (EntitySchema.parse "\x7b\"entity\":\"job\",\"fields\":\x7b\x7d\x7d").toOption.map
      (fun s => (s.entity, s.structureError?)) = some ("job", none) := by
    decide +kernel
  obtain ⟨s, hs, heq⟩ := Option.map_eq_some_iff.mp hparse
  rw [Except.toOption_eq_some_iff] at hs
  obtain ⟨hentity, hvalid⟩ := Prod.mk.inj heq
  have hjob : FileHolds fs "schemas" (.ofText "job.json") s := ⟨_, by decide +kernel, hs, hvalid⟩
  have hpost : FileHolds fs "schemas" (.ofText "post.json") s := ⟨_, by decide +kernel, hs, hvalid⟩
  have hfirst : FirstOffence fs "schemas" names (.ofText "post.json") (.duplicateEntity "job") := by
    refine ⟨by decide +kernel, by decide +kernel, ?_, ?_⟩
    · rw [← hentity]
      exact .repeated (by decide +kernel : .ofText "job.json" ∈ names) (by decide +kernel)
        (by decide +kernel) hjob hpost rfl
    · intro earlier hearlier hjson hlt e
      have hearliest : ∀ n ∈ names, n.IsJson → n < .ofText "post.json" →
          n = .ofText "job.json" ∧ ∀ m ∈ names, m.IsJson → ¬ m < n := by
        decide +kernel
      obtain ⟨rfl, hnone⟩ := hearliest earlier hearlier hjson hlt
      rintro (hflaw | ⟨hmem, hjson', hlt', -, -, -⟩)
      · exact hjob.not_flaw hflaw
      · exact hnone _ hmem hjson' hlt'
  have hload := (directory_loads_first_offence_or_all hlist hnodup).2.2.1 _ |>.mpr ⟨_, hfirst⟩
  refine ⟨hfirst, hload, ?_⟩
  rw [← hload]
  refine (directory_loads_first_offence_or_all hlist hnodup).2.2.2 fs' names.reverse ?_ ?_ ?_ ?_
  · decide +kernel
  · exact List.nodup_reverse.mpr hnodup
  · simp
  · decide +kernel

end Registry

end DocSieve
