-- SUMMARY: Loading a directory of collections: which files keep it from loading, and that the collections do not depend on the listing.
import DocSieve.Proofs.Files.Name
import DocSieve.Proofs.Json.Exactness
import DocSieve.Proofs.Json.Nesting
import DocSieve.Proofs.Json.Record
import DocSieve.Proofs.Schema.Wire
import DocSieve.Store.Collection

/-!
# Directories of collections

Files are read in the order in which the directory lists them, and the first
one that is no list of objects ends the loading. So the order may decide which
file is blamed, but neither whether there is one nor what is loaded: each file
gives its collection by itself, under a name that no other file has.
-/

namespace DocSieve

namespace Json

variable {room : Nat} {t : Tree} {ts : List Tree} {v : Value} {vs : List Value}

/-! ## Lists of values -/

def Tree.isObject : Tree → Bool
  | .object _ _ => true
  | _ => false

theorem Tree.isObject_eq_of_value? (h : t.value? room = some v) : v.isObject = t.isObject := by
  cases t with
  | null | bool => cases h; rfl
  | number | string =>
    obtain ⟨_, -, rfl⟩ := Option.map_eq_some_iff.mp h
    rfl
  | array items closed =>
    cases room with
    | zero => cases h
    | succ room =>
      obtain ⟨vs, -, h⟩ := Option.bind_eq_some_iff.mp h
      obtain ⟨-, ⟨⟩⟩ := Option.ite_none_right_eq_some.mp h
      rfl
  | object members closed =>
    cases room with
    | zero => cases h
    | succ room =>
      obtain ⟨ms, -, h⟩ := Option.bind_eq_some_iff.mp h
      obtain ⟨-, ⟨⟩⟩ := Option.ite_none_right_eq_some.mp h
      rfl
  | broken => cases h

theorem itemValues?_eq_some_iff :
    itemValues? room ts = some vs ↔ List.Forall₂ (fun t v => t.value? room = some v) ts vs := by
  induction ts generalizing vs with
  | nil => simp [itemValues?, List.forall₂_nil_left_iff, eq_comm]
  | cons t ts ih =>
    simp only [itemValues?, Option.bind_eq_bind, Option.bind_eq_some_iff, Option.some.injEq, ih]
    constructor
    · rintro ⟨v, hv, vs, hvs, rfl⟩
      exact .cons hv hvs
    · rintro (_ | ⟨hv, hvs⟩)
      exact ⟨_, hv, _, hvs, rfl⟩

namespace Decoder

theorem anyValue_eq_ok_iff : anyValue room t = .ok v ↔ t.value? room = some v := by
  unfold anyValue
  cases t.value? room <;> simp

theorem items_eq_ok_iff {α : Type} {d : Decoder α} {as : List α} {index : Nat} :
    items d room index ts = .ok as ↔ List.Forall₂ (fun t a => d room t = .ok a) ts as := by
  refine ⟨fun h => ?_, fun h => items_eq_ok h.flip index⟩
  induction ts generalizing index as with
  | nil => cases h; exact .nil
  | cons t ts ih =>
    obtain ⟨a, ha, h⟩ := Except.bind_eq_ok_iff.mp h
    obtain ⟨as, has, h⟩ := Except.bind_eq_ok_iff.mp h
    cases h
    exact .cons (Except.mapError_eq_ok_iff.mp ha) (ih has)

theorem sequence_eq_ok_iff {α : Type} {d : Decoder α} {as : List α} :
    sequence d (room + 1) t = .ok as ↔
      ∃ items, t = .array items true ∧ List.Forall₂ (fun t a => d room t = .ok a) items as := by
  cases t with
  | array items closed =>
    simp only [sequence, enter, Except.bind_eq_ok_iff, items_eq_ok_iff, Tree.array.injEq]
    cases closed <;> simp
  | _ => simp [sequence]

end Decoder

end Json

open Json
open Files (FileSystem Name)
open EntitySchema (nestedArrays nestedArrayTree nestedArrays_writesAs)

namespace Collection

variable {fs fs' : FileSystem} {dir name text : String} {files files' : List Name} {file : Name}
  {c : Collection} {e e' : StoreError}

/-! ## One file -/

/-- The text is an array of objects, and their values are the documents. -/
def Holds (text : String) (c : Collection) : Prop :=
  ∃ items, (Tree.array items true).IsOf text ∧ (∀ t ∈ items, t.isObject) ∧
    List.Forall₂ (fun t v => t.value? (maxNesting - 1) = some v) items c.documents

theorem run_sequence_eq_ok_iff {vs : List Value} :
    (Decoder.sequence Decoder.anyValue).run text = .ok vs ↔
      ∃ items, (Tree.array items true).IsOf text ∧
        List.Forall₂ (fun t v => t.value? (maxNesting - 1) = some v) items vs := by
  have hsequence (t : Tree) : Decoder.sequence Decoder.anyValue maxNesting t = .ok vs ↔ _ :=
    @Decoder.sequence_eq_ok_iff (maxNesting - 1) _ _ _ _
  simp only [Decoder.run_eq_ok_iff, hsequence, Decoder.anyValue_eq_ok_iff]
  constructor
  · rintro ⟨_, ht, items, rfl, hitems⟩
    exact ⟨items, ht, hitems⟩
  · rintro ⟨items, ht, hitems⟩
    exact ⟨_, ht, items, rfl, hitems⟩

/-- The values of trees are objects where the trees are. -/
theorem forall_isObject_iff {items : List Tree} {vs : List Value} {room : Nat}
    (h : List.Forall₂ (fun t v => t.value? room = some v) items vs) :
    (∀ v ∈ vs, v.isObject) ↔ ∀ t ∈ items, t.isObject := by
  induction h with
  | nil => simp
  | cons hv _ ih => simp [Tree.isObject_eq_of_value? hv, ih]

/-- A file that is decoded holds a collection if all in it are objects. -/
theorem parse_eq_ok_iff_run : parse text = .ok c ↔
    (Decoder.sequence Decoder.anyValue).run text = .ok c.documents ∧
      ∀ v ∈ c.documents, v.isObject := by
  have hobjects (vs : List Value) : vs.findIdx? (!·.isObject) = none ↔ ∀ v ∈ vs, v.isObject := by
    simp [List.findIdx?_eq_none_iff]
  obtain ⟨documents⟩ := c
  rw [← hobjects]
  unfold parse
  cases (Decoder.sequence Decoder.anyValue).run text with
  | error fault => simp
  | ok vs =>
    cases hvs : vs.findIdx? (!·.isObject) with
    | some index =>
      refine iff_of_false (by simp [hvs]) ?_
      rintro ⟨⟨⟩, hnone⟩
      cases hvs.symm.trans hnone
    | none =>
      simp only [hvs, Except.ok.injEq, Collection.mk.injEq]
      exact ⟨fun h => ⟨h, h ▸ hvs⟩, And.left⟩

theorem parse_eq_ok_iff : parse text = .ok c ↔ Holds text c := by
  rw [parse_eq_ok_iff_run, run_sequence_eq_ok_iff]
  constructor
  · rintro ⟨⟨items, ht, hitems⟩, hall⟩
    exact ⟨items, ht, (forall_isObject_iff hitems).mp hall, hitems⟩
  · rintro ⟨items, ht, hall, hitems⟩
    exact ⟨⟨items, ht, hitems⟩, (forall_isObject_iff hitems).mpr hall⟩

/-- The file that a collection of that name comes from. -/
def fileOf (name : String) : Name := .ofText (name ++ ".json")

/-- The path of that file in a directory. -/
def pathOf (dir name : String) : String := Files.join dir (name ++ ".json")

@[simp] theorem pathIn_fileOf (dir name : String) : (fileOf name).pathIn dir = pathOf dir name := by
  rw [fileOf, Name.pathIn, Name.shown_ofText, pathOf]

/-- The name has a file among these. The extension alone is no file of a name. -/
def Named (files : List Name) (name : String) : Prop := name ≠ "" ∧ fileOf name ∈ files

theorem nameOf?_eq_some_iff : nameOf? file = some name ↔ name ≠ "" ∧ file = fileOf name :=
  Name.jsonStem?_bind_text?

theorem named_nil : ¬ Named [] name := by simp [Named]

theorem named_cons_of_none (h : nameOf? file = none) :
    Named (file :: files) name ↔ Named files name := by
  have hne : name ≠ "" → fileOf name ≠ file := fun hname heq => by
    rw [nameOf?_eq_some_iff.mpr ⟨hname, heq.symm⟩] at h
    contradiction
  simp only [Named, List.mem_cons]
  exact ⟨fun ⟨hname, hmem⟩ => ⟨hname, hmem.resolve_left (hne hname)⟩, fun h => ⟨h.1, .inr h.2⟩⟩

theorem Named.tail (h : Named files name) : Named (file :: files) name :=
  ⟨h.1, List.mem_cons_of_mem _ h.2⟩

/-- The file of that name holds the collection. -/
def FileHolds (fs : FileSystem) (dir name : String) (c : Collection) : Prop :=
  ∃ text, fs.readIn dir (fileOf name) = .ok text ∧ Holds text c

/-- What is wrong with the file of that name, whatever other files there are. -/
inductive FileFlaw (fs : FileSystem) (dir name : String) : StoreError → Prop where
  | unreadable {error : Files.Error} : fs.readIn dir (fileOf name) = .error error →
      FileFlaw fs dir name (.unreadable (pathOf dir name) error)
  | malformed {text : String} {flaw : CollectionFlaw} : fs.readIn dir (fileOf name) = .ok text →
      parse text = .error flaw →
      FileFlaw fs dir name (.malformed (pathOf dir name) flaw)

theorem FileFlaw.unique (h : FileFlaw fs dir name e) (h' : FileFlaw fs dir name e') : e = e' := by
  cases h <;> cases h' <;> simp_all

theorem FileHolds.unique {c' : Collection} (h : FileHolds fs dir name c)
    (h' : FileHolds fs dir name c') : c = c' := by
  obtain ⟨text, hread, hc⟩ := h
  obtain ⟨text', hread', hc'⟩ := h'
  cases hread.symm.trans hread'
  rw [← parse_eq_ok_iff] at hc hc'
  cases hc.symm.trans hc'
  rfl

theorem FileHolds.not_flaw (h : FileHolds fs dir name c) : ¬ FileFlaw fs dir name e := by
  obtain ⟨text, hread, hc⟩ := h
  rw [← parse_eq_ok_iff] at hc
  rintro (_ | _) <;> simp_all

theorem ofFile_cases (fs : FileSystem) (dir name : String) :
    (∃ e, FileFlaw fs dir name e ∧
      ofFile (pathOf dir name) (fs.readIn dir (fileOf name)) = .error e) ∨
    ∃ c, FileHolds fs dir name c ∧
      ofFile (pathOf dir name) (fs.readIn dir (fileOf name)) = .ok c := by
  unfold ofFile
  cases hread : fs.readIn dir (fileOf name) with
  | error error => exact .inl ⟨_, .unreadable hread, rfl⟩
  | ok text =>
    cases hparse : parse text with
    | error flaw => exact .inl ⟨_, .malformed hread hparse, by simp [hparse]⟩
    | ok c => exact .inr ⟨c, ⟨text, hread, parse_eq_ok_iff.mp hparse⟩, by simp [hparse]⟩

theorem ofFile_eq_ok_iff :
    ofFile (pathOf dir name) (fs.readIn dir (fileOf name)) = .ok c ↔
      FileHolds fs dir name c := by
  rcases ofFile_cases fs dir name with ⟨e, hflaw, he⟩ | ⟨c', hc', hok⟩
  · rw [he]
    exact iff_of_false nofun fun hc => hc.not_flaw hflaw
  · rw [hok, Except.ok.injEq]
    exact ⟨fun h => h ▸ hc', fun hc => hc'.unique hc⟩

/-- The file of that name has the text of an array of objects, with numbers in
range, strings without holes and no more levels than are read. -/
def HoldsObjects (fs : FileSystem) (dir name : String) : Prop :=
  ∃ text items, fs.readIn dir (fileOf name) = .ok text ∧ (Tree.array items true).IsOf text ∧
    (∀ t ∈ items, t.isObject) ∧ (Tree.array items true).Plain ∧
    (Tree.array items true).nesting ≤ maxNesting

theorem exists_fileHolds_iff : (∃ c, FileHolds fs dir name c) ↔ HoldsObjects fs dir name := by
  have hvalues (items : List Tree) : (∃ c : Collection,
      List.Forall₂ (fun t v => t.value? (maxNesting - 1) = some v) items c.documents) ↔
      (Tree.array items true).Plain ∧ (Tree.array items true).nesting ≤ maxNesting := by
    simp only [← itemValues?_eq_some_iff, Tree.Plain, Tree.nesting, and_true]
    rw [← Nat.le_sub_iff_add_le (by decide), ← isSome_itemValues?_iff, Option.isSome_iff_exists]
    exact ⟨fun ⟨c, hc⟩ => ⟨_, hc⟩, fun ⟨vs, hvs⟩ => ⟨⟨vs⟩, hvs⟩⟩
  constructor
  · rintro ⟨c, text, hread, items, ht, hall, hitems⟩
    exact ⟨text, items, hread, ht, hall, (hvalues items).mp ⟨c, hitems⟩⟩
  · rintro ⟨text, items, hread, ht, hall, hplain⟩
    obtain ⟨c, hitems⟩ := (hvalues items).mpr hplain
    exact ⟨c, text, hread, items, ht, hall, hitems⟩

/-! ## Files one after the other -/

/-- The collection of a file, under its name. -/
def collected? (fs : FileSystem) (dir : String) (file : Name) : Option (String × Collection) := do
  let name ← nameOf? file
  let c ← (ofFile (file.pathIn dir) (fs.readIn dir file)).toOption
  some (name, c)

theorem collected?_eq_some_iff :
    collected? fs dir file = some (name, c) ↔
      name ≠ "" ∧ file = fileOf name ∧ FileHolds fs dir name c := by
  simp only [collected?, Option.bind_eq_bind, Option.bind_eq_some_iff, Option.some.injEq,
    Prod.mk.injEq, Except.toOption_eq_some_iff, nameOf?_eq_some_iff]
  constructor
  · rintro ⟨_, ⟨hne, rfl⟩, _, hc, rfl, rfl⟩
    rw [pathIn_fileOf, ofFile_eq_ok_iff] at hc
    exact ⟨hne, rfl, hc⟩
  · rintro ⟨hne, rfl, hc⟩
    refine ⟨name, ⟨hne, rfl⟩, c, ?_, rfl, rfl⟩
    rwa [pathIn_fileOf, ofFile_eq_ok_iff]

theorem mem_entries_iff : (name, c) ∈ files.filterMap (collected? fs dir) ↔
    Named files name ∧ FileHolds fs dir name c := by
  simp only [List.mem_filterMap, collected?_eq_some_iff, Named]
  constructor
  · rintro ⟨_, hmem, hne, rfl, hc⟩
    exact ⟨⟨hne, hmem⟩, hc⟩
  · rintro ⟨⟨hne, hmem⟩, hc⟩
    exact ⟨_, hmem, hne, rfl, hc⟩

/-- No two files give collections of one name. -/
theorem nodup_entries (h : files.Nodup) : ((files.filterMap (collected? fs dir)).map (·.1)).Nodup := by
  rw [List.map_filterMap]
  refine h.filterMap fun file file' name hname hname' => ?_
  simp only [Option.mem_def, Option.map_eq_some_iff, Prod.exists, exists_and_right,
    exists_eq_right] at hname hname'
  obtain ⟨c, hc⟩ := hname
  obtain ⟨c', hc'⟩ := hname'
  rw [(collected?_eq_some_iff.mp hc).2.1, (collected?_eq_some_iff.mp hc').2.1]

/-- Either a file has a flaw and is blamed, or each file gives its collection. -/
theorem ofFiles_cases (fs : FileSystem) (dir : String) (files : List Name) :
    (∃ name e, Named files name ∧ FileFlaw fs dir name e ∧ ofFiles fs dir files = .error e) ∨
    ((∀ name, Named files name → ∃ c, FileHolds fs dir name c) ∧
      ofFiles fs dir files = .ok (files.filterMap (collected? fs dir))) := by
  induction files with
  | nil => exact .inr ⟨fun name h => absurd h named_nil, rfl⟩
  | cons file files ih =>
    unfold ofFiles
    cases hname : nameOf? file with
    | none =>
      have hentry : collected? fs dir file = none := by simp [collected?, hname]
      simpa only [named_cons_of_none hname, List.filterMap_cons_none hentry] using ih
    | some name =>
      obtain ⟨hne, rfl⟩ := nameOf?_eq_some_iff.mp hname
      rcases ofFile_cases fs dir name with ⟨e, hflaw, he⟩ | ⟨c, hc, hok⟩
      · exact .inl ⟨name, e, ⟨hne, List.mem_cons_self⟩, hflaw, by simp [he]⟩
      rcases ih with ⟨name', e, hnamed, hflaw, he⟩ | ⟨hall, hfiles⟩
      · exact .inl ⟨name', e, hnamed.tail, hflaw, by simp [hok, he]⟩
      · have hentry : collected? fs dir (fileOf name) = some (name, c) :=
          collected?_eq_some_iff.mpr ⟨hne, rfl, hc⟩
        refine .inr ⟨fun name' hnamed => ?_, by simp [hok, hfiles, hentry]⟩
        rcases List.mem_cons.mp hnamed.2 with heq | hmem
        · have hsame : nameOf? (fileOf name) = some name' :=
            nameOf?_eq_some_iff.mpr ⟨hnamed.1, heq.symm⟩
          cases hname.symm.trans hsame
          exact ⟨c, hc⟩
        · exact hall name' ⟨hnamed.1, hmem⟩

/-- One file with a flaw is enough to end the loading. -/
theorem exists_ofFiles_iff :
    (∃ cs, ofFiles fs dir files = .ok cs) ↔
      ∀ name, Named files name → ∃ c, FileHolds fs dir name c := by
  rcases ofFiles_cases fs dir files with ⟨name, e, hnamed, hflaw, he⟩ | ⟨hall, hok⟩
  · refine iff_of_false (by simp [he]) fun hall => ?_
    obtain ⟨c, hc⟩ := hall name hnamed
    exact hc.not_flaw hflaw
  · exact iff_of_true ⟨_, hok⟩ hall

theorem eq_of_ofFiles {cs : List (String × Collection)} (h : ofFiles fs dir files = .ok cs) :
    cs = files.filterMap (collected? fs dir) := by
  rcases ofFiles_cases fs dir files with ⟨name, e, -, -, he⟩ | ⟨-, hok⟩
  · cases h.symm.trans he
  · cases h.symm.trans hok
    rfl

theorem exists_flaw_of_ofFiles (h : ofFiles fs dir files = .error e) :
    ∃ name, Named files name ∧ FileFlaw fs dir name e := by
  rcases ofFiles_cases fs dir files with ⟨name, e', hnamed, hflaw, he⟩ | ⟨-, hok⟩
  · cases h.symm.trans he
    exact ⟨name, hnamed, hflaw⟩
  · cases h.symm.trans hok

/-- What is read of files decides what comes of them. -/
theorem ofFiles_congr (h : ∀ file ∈ files, fs'.readIn dir file = fs.readIn dir file) :
    ofFiles fs' dir files = ofFiles fs dir files := by
  induction files with
  | nil => rfl
  | cons file files ih =>
    unfold ofFiles
    rw [h file List.mem_cons_self, ih fun f hf => h f (List.mem_cons_of_mem _ hf)]

/-! ## The collections of a directory -/

/-- **What a directory of collections loads to.** Loading succeeds exactly if the
file of each name that is listed is the text of an array of objects that can be
read. The collections are then those of these files, one under each name, and
each has the objects of its file in their order. Loading fails with what is wrong
with one of the files. A directory that lists the same entries in another order
is loaded or not just as this one, to the same collections under each name, and
with the same failure if no more than one file has a flaw. -/
theorem directory_loads_alike_in_any_order (hlist : fs.list dir = .ok files)
    (hnodup : files.Nodup) :
    ((∃ cs, load fs dir = .ok cs) ↔ ∀ name, Named files name → HoldsObjects fs dir name) ∧
    (∀ cs, load fs dir = .ok cs → (cs.map (·.1)).Nodup ∧
      ∀ name c, (name, c) ∈ cs ↔ Named files name ∧ FileHolds fs dir name c) ∧
    (∀ e, load fs dir = .error e → ∃ name, Named files name ∧ FileFlaw fs dir name e) ∧
    (∀ fs' files', fs'.list dir = .ok files' → files'.Perm files →
      (∀ file ∈ files, fs'.readIn dir file = fs.readIn dir file) →
      (∀ cs, load fs dir = .ok cs → ∃ cs', load fs' dir = .ok cs' ∧ cs'.Perm cs ∧
        ∀ name, cs'.lookup name = cs.lookup name) ∧
      (∀ e, load fs dir = .error e → ∃ e', load fs' dir = .error e' ∧
        ((∀ name name' d d', Named files name → FileFlaw fs dir name d → Named files name' →
          FileFlaw fs dir name' d' → name = name') → e' = e))) := by
  have hload : load fs dir = ofFiles fs dir files := by rw [load, hlist]
  simp only [hload]
  refine ⟨?succeeds, ?holds, fun e => exists_flaw_of_ofFiles, ?order⟩
  case succeeds =>
    rw [exists_ofFiles_iff]
    exact forall₂_congr fun name _ => exists_fileHolds_iff
  case holds =>
    intro cs hcs
    rw [eq_of_ofFiles hcs]
    exact ⟨nodup_entries hnodup, fun name c => mem_entries_iff⟩
  case order =>
    intro fs' files' hlist' hperm hread
    have hload' : load fs' dir = ofFiles fs dir files' := by
      rw [load, hlist']
      exact ofFiles_congr fun file hfile => hread file (hperm.mem_iff.mp hfile)
    have hnamed (name : String) : Named files' name ↔ Named files name :=
      and_congr_right fun _ => hperm.mem_iff
    have hsame : (∃ cs, ofFiles fs dir files' = .ok cs) ↔ ∃ cs, ofFiles fs dir files = .ok cs := by
      simp only [exists_ofFiles_iff, hnamed]
    rw [hload']
    constructor
    · intro cs hcs
      obtain ⟨cs', hcs'⟩ := hsame.mpr ⟨cs, hcs⟩
      obtain rfl := eq_of_ofFiles hcs
      obtain rfl := eq_of_ofFiles hcs'
      have hentries := hperm.filterMap (collected? fs dir)
      exact ⟨_, hcs', hentries,
        lookup_eq_of_perm (nodup_entries (hperm.symm.nodup hnodup)) hentries⟩
    · intro e he
      cases he' : ofFiles fs dir files' with
      | ok cs' =>
        obtain ⟨cs, hcs⟩ := hsame.mp ⟨cs', he'⟩
        cases he.symm.trans hcs
      | error e' =>
        refine ⟨e', rfl, fun hone => ?_⟩
        obtain ⟨name, hname, hflaw⟩ := exists_flaw_of_ofFiles he
        obtain ⟨name', hname', hflaw'⟩ := exists_flaw_of_ofFiles he'
        cases hone name' name e' e ((hnamed name').mp hname') hflaw' hname hflaw
        exact hflaw'.unique hflaw

/-- Two collections, a directory and a file that gives no name, listed in both
directions. -/
theorem directory_loads_alike_in_any_order_two :
    let entries := [("b.json", .file "[\x7b\"x\":1\x7d,\x7b\x7d]".toUTF8), ("notes", .directory []),
      ("a.json", .file "[]".toUTF8), (".json", .file .empty)]
    let fs : FileSystem := .ofRoot (.directory [("data", .directory entries)])
    let fs' : FileSystem := .ofRoot (.directory [("data", .directory entries.reverse)])
    ∃ cs cs', load fs "data" = .ok cs ∧ load fs' "data" = .ok cs' ∧
      cs.map (fun e => (e.1, e.2.size)) = [("b", 2), ("a", 0)] ∧
      ∀ name, cs'.lookup name = cs.lookup name := by
  intro entries fs fs'
  have hlist : fs.list "data" = .ok (entries.map fun e => .ofText e.1) := by decide +kernel
  have hlist' : fs'.list "data" = .ok (entries.map fun e => .ofText e.1).reverse := by
    decide +kernel
  have hnodup : (entries.map fun e => Name.ofText e.1).Nodup := by decide +kernel
  have hread : ∀ file ∈ entries.map fun e => Name.ofText e.1,
      fs'.readIn "data" file = fs.readIn "data" file := by
    decide +kernel
  have hsizes : (load fs "data").toOption.map (·.map fun e => (e.1, e.2.size)) =
      some [("b", 2), ("a", 0)] := by
    decide +kernel
  obtain ⟨cs, hcs, hsizes⟩ := Option.map_eq_some_iff.mp hsizes
  rw [Except.toOption_eq_some_iff] at hcs
  obtain ⟨cs', hcs', -, hlookup⟩ := ((directory_loads_alike_in_any_order hlist hnodup).2.2.2
    fs' _ hlist' (List.reverse_perm _) hread).1 cs hcs
  exact ⟨cs, cs', hcs, hcs', hsizes, hlookup⟩

/-- Accepts arrays of objects without asking for their values. -/
def objects : Decoder Unit := fun _ t =>
  match t with
  | .array items true => if items.all Tree.isObject then .ok () else .error .malformed
  | _ => .error .malformed

theorem run_objects_eq_ok_iff : objects.run text = .ok () ↔
    ∃ items, (Tree.array items true).IsOf text ∧ ∀ t ∈ items, t.isObject := by
  rw [Decoder.run_eq_ok_iff]
  constructor
  · rintro ⟨t, ht, hobjects⟩
    unfold objects at hobjects
    split at hobjects
    next items =>
      split at hobjects
      next hall => exact ⟨items, ht, List.all_eq_true.mp hall⟩
      next => contradiction
    next => contradiction
  · rintro ⟨items, ht, hall⟩
    exact ⟨_, ht, if_pos (List.all_eq_true.mpr hall)⟩

/-- The tree of an object around arrays that nest one level deeper than is read. -/
def deepTree : Tree := .object [(Text.glyphs "x", nestedArrayTree 125)] true

theorem deepTree_isOf : (Tree.array [deepTree] true).IsOf
    (Value.array [.object [("x", nestedArrays 125)]]).toText :=
  (Value.writesAs_array (.cons (Value.writesAs_object
    (.cons ⟨rfl, nestedArrays_writesAs 125⟩ .nil)) .nil)).isOf

/-- Of two files with an item that is no object, the one that is listed first is
blamed. And three files do not load though they hold an object: the digits of a
number below the largest double are rounded before they are scaled, half a
surrogate pair is no character, and arrays nest too deep. -/
theorem listing_and_limits_decide :
    let listing (entries : List (String × Files.Entry)) : FileSystem :=
      .ofRoot (.directory [("data", .directory entries)])
    let a := ("a.json", .file "[0]".toUTF8)
    let b := ("b.json", .file "[0]".toUTF8)
    let holding (text : String) : FileSystem :=
      ⟨fun _ => .error .notFound, fun _ => .ok [fileOf "c"], fun _ _ => .ok text⟩
    let number := "[\x7b\"x\":1797693134862315708e290\x7d]"
    let half := "[\x7b\"x\":\"\\ud800\"\x7d]"
    let deep := (Value.array [.object [("x", nestedArrays 125)]]).toText
    (load (listing [a, b]) "data").error? = some (.malformed "data/a.json" (.notAnObject 0)) ∧
    (load (listing [b, a]) "data").error? = some (.malformed "data/b.json" (.notAnObject 0)) ∧
    1797693134862315708 * Nat.pow 10 290 ≤ (Nat.pow 2 53 - 1) * Nat.pow 2 971 ∧
    ∀ text ∈ [number, half, deep],
      (∃ items, (Tree.array items true).IsOf text ∧ ∀ t ∈ items, t.isObject) ∧
      load (holding text) "data" = .error (.malformed "data/c.json" (.invalidJson .malformed)) := by
  intro listing a b holding number half deep
  have hload {text : String} (h : (parse text).error? = some (.invalidJson .malformed)) :
      load (holding text) "data" = .error (.malformed "data/c.json" (.invalidJson .malformed)) := by
    have hname : nameOf? (fileOf "c") = some "c" := nameOf?_eq_some_iff.mpr ⟨by decide, rfl⟩
    have hpath : pathOf "data" "c" = "data/c.json" := by decide
    cases hparse : parse text with
    | ok c => simp [hparse] at h
    | error flaw =>
      rw [hparse, Except.error?_error, Option.some.injEq] at h
      simp [load, holding, ofFiles, hname, hpath, ofFile, hparse, h]
  refine ⟨by decide +kernel, by decide +kernel, by decide +kernel, ?_⟩
  rw [List.forall_mem_cons, List.forall_mem_cons, List.forall_mem_singleton]
  refine ⟨⟨run_objects_eq_ok_iff.mp (by decide +kernel), hload (by decide +kernel)⟩,
    ⟨run_objects_eq_ok_iff.mp (by decide +kernel), hload (by decide +kernel)⟩,
    ⟨_, deepTree_isOf, by simp [deepTree, Tree.isObject]⟩, hload ?_⟩
  rw [parse, Decoder.run_of_isOf deepTree_isOf]
  decide +kernel

end Collection

end DocSieve
