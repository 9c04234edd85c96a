-- SUMMARY: Decoding a record: the order of its members, members of other names and members that are null make no difference.
import Mathlib.Data.List.Forall2
import Mathlib.Data.List.Nodup
import Mathlib.Data.List.Pairwise
import DocSieve.Json.Decode
import DocSieve.Proofs.Except
import DocSieve.Proofs.Json.Grammar

/-!
# Records

Going through the members of an object changes a record step by step. Each
known member stands for one change, and the changes of different members
commute, so what counts is which members there are and not where they stand.
-/

namespace DocSieve.Json

open Text (Glyph glyphs)

/-- The members of one object, as changed by a sender that keeps what they say
to a reader who knows the names `known`. -/
inductive Reworked (known : List String) :
    List (List Glyph × Tree) → List (List Glyph × Tree) → Prop where
  | perm {ms ms' : List (List Glyph × Tree)} : ms.Perm ms' → Reworked known ms ms'
  /-- A member of another name, with any value. -/
  | insert {name : String} {t : Tree} {cs : List Char} {ms : List (List Glyph × Tree)} :
      name ∉ known → Written (.value t) cs → Reworked known ms ((glyphs name, t) :: ms)
  | leaveOut {name : List Glyph} {ms : List (List Glyph × Tree)} :
      Reworked known ((name, .null) :: ms) ms
  | trans {ms ms' ms'' : List (List Glyph × Tree)} : Reworked known ms ms' →
      Reworked known ms' ms'' → Reworked known ms ms''

/-- Every text holds a tree without a break. -/
theorem Written.sound {p : Phrase} {cs : List Char} (h : Written p cs) :
    match p with
    | .value t => t.sound = true
    | .items ts => Tree.soundItems ts = true
    | .members ms => Tree.soundMembers ms = true := by
  induction h with
  | null | bool | number | string => rfl
  | emptyArray | emptyObject => rfl
  | array _ ih | object _ ih => simpa [Tree.sound] using ih
  | lastItem _ _ _ ih | lastMember _ _ _ _ _ _ ih =>
    simpa [Tree.soundItems, Tree.soundMembers] using ih
  | item _ _ _ _ ih ihmore | member _ _ _ _ _ _ _ ih ihmore =>
    simpa [Tree.soundItems, Tree.soundMembers] using ⟨ih, ihmore⟩

@[simp] theorem text?_glyphs (s : String) : Tree.text? (glyphs s) = some s := by
  have h : ∀ cs : List Char, (cs.map some).mapM id = some cs := by
    intro cs
    induction cs with
    | nil => rfl
    | cons c cs ih => simp [ih]
  simp [Tree.text?, glyphs, h]

namespace Decoder

/-! ## Texts and lists -/

theorem string_glyphs (s : String) (room : Nat) :
    Decoder.string room (.string (glyphs s)) = .ok s := by
  simp [Decoder.string, stringAs]

theorem optional_string_ofText? (s : Option String) (room : Nat) :
    Decoder.optional Decoder.string room (.ofText? s) = .ok s := by
  cases s with
  | none => rfl
  | some s => simp [Tree.ofText?, Decoder.optional, string_glyphs, Except.map]

/-- What decodes item by item decodes as a list. -/
theorem items_eq_ok {α : Type} {d : Decoder α} {room : Nat} {as : List α} {ts : List Tree}
    (h : List.Forall₂ (fun a t => d room t = .ok a) as ts) (index : Nat) :
    items d room index ts = .ok as := by
  induction h generalizing index with
  | nil => rfl
  | cons h _ ih => simp [items, part, h, ih]

theorem setMember_of_new {α : Type} {name : String} {before : List (String × α)}
    (h : name ∉ before.map (·.1)) (a : α) : setMember name a before = before ++ [(name, a)] := by
  induction before with
  | nil => rfl
  | cons m before ih =>
    obtain ⟨n, b⟩ := m
    obtain ⟨hn, hbefore⟩ := not_or.mp (List.mem_cons.not.mp h)
    simp [setMember, Ne.symm hn, ih hbefore]

section Maps

variable {α : Type} {d : Decoder α} {room : Nat} {es : List (String × α)}
  {ms : List (List Glyph × Tree)}

theorem entries_eq_ok (h : List.Forall₂ (fun e m => m.1 = glyphs e.1 ∧ d room m.2 = .ok e.2) es ms)
    (before : List (String × α)) (hdistinct : ((before ++ es).map (·.1)).Nodup) :
    entries d room before ms = .ok (before ++ es) := by
  induction h generalizing before with
  | nil => simp [entries]
  | @cons e m es ms hm _ ih =>
    obtain ⟨name, a⟩ := e
    obtain ⟨_, t⟩ := m
    obtain ⟨rfl, ha⟩ := hm
    have hnew : name ∉ before.map (·.1) := by
      rw [List.map_append, List.map_cons, List.nodup_middle] at hdistinct
      exact fun hmem => (List.nodup_cons.mp hdistinct).1 (List.mem_append_left _ hmem)
    have hrest := ih (before ++ [(name, a)]) (by simpa using hdistinct)
    simp [entries, part, ha, setMember_of_new hnew, hrest]

/-- What decodes member by member decodes as a map, unless a name is repeated. -/
theorem map_eq_ok (h : List.Forall₂ (fun e m => m.1 = glyphs e.1 ∧ d room m.2 = .ok e.2) es ms)
    (hdistinct : (es.map (·.1)).Nodup) :
    Decoder.map d (room + 1) (.object ms true) = .ok es := by
  simp [Decoder.map, enter, entries_eq_ok h [] hdistinct]

end Maps

variable {α : Type} {known : List (Member α)} {room : Nat} {start a b : α}
  {ms ms' : List (List Glyph × Tree)} {names seen : List String} {f : α → α}

/-! ## What members do -/

/-- The members give the known ones with these names, and change a record like this. -/
inductive Fills (known : List (Member α)) (room : Nat) :
    List (List Glyph × Tree) → List String → (α → α) → Prop where
  | nil : Fills known room [] [] id
  | unknown {name : List Glyph} {text : String} {t : Tree} {ms : List (List Glyph × Tree)}
      {names : List String} {f : α → α} : Tree.text? name = some text →
      known.find? (·.name = text) = none → t.sound = true → Fills known room ms names f →
      Fills known room ((name, t) :: ms) names f
  | known {name : List Glyph} {text : String} {m : Member α} {t : Tree}
      {ms : List (List Glyph × Tree)} {names : List String} {f g : α → α} :
      Tree.text? name = some text → known.find? (·.name = text) = some m →
      m.read room t = .ok g → text ∉ names → Fills known room ms names f →
      Fills known room ((name, t) :: ms) (text :: names) (f ∘ g)

theorem Fills.fill_eq (h : Fills known room ms names f) (hseen : ∀ name ∈ names, name ∉ seen)
    (a : α) : fill known room seen a ms = .ok (names.reverse ++ seen, f a) := by
  induction h generalizing seen a with
  | nil => rfl
  | unknown hname hfind hsound _ ih =>
    simp only [fill, hname, hfind, hsound, if_true]
    exact ih hseen a
  | @known name text m t ms names f g hname hfind hread hnew _ ih =>
    have hmore : ∀ n ∈ names, n ∉ text :: seen := by
      intro n hn hmem
      rcases List.mem_cons.mp hmem with rfl | hmem
      · exact hnew hn
      · exact hseen n (.tail _ hn) hmem
    simp only [fill, hname, hfind, if_neg (hseen text (.head _)), hread, part, Except.mapError_ok,
      Except.bind_ok, ih hmore]
    simp

theorem exists_fills (h : fill known room seen a ms = .ok (names, b)) :
    ∃ given f, Fills known room ms given f ∧ (∀ name ∈ given, name ∉ seen) ∧
      names = given.reverse ++ seen ∧ f a = b := by
  induction ms generalizing seen a with
  | nil =>
    cases h
    exact ⟨[], id, .nil, nofun, rfl, rfl⟩
  | cons m ms ih =>
    obtain ⟨name, t⟩ := m
    cases hname : Tree.text? name with
    | none => simp [fill, hname] at h
    | some text =>
      cases hfind : known.find? (·.name = text) with
      | none =>
        simp only [fill, hname, hfind] at h
        split at h
        next hsound =>
          obtain ⟨given, f, hfills, hrest⟩ := ih h
          exact ⟨given, f, .unknown hname hfind hsound hfills, hrest⟩
        next => contradiction
      | some m =>
        simp only [fill, hname, hfind] at h
        split at h
        next => contradiction
        next hnew =>
          obtain ⟨g, hread, h⟩ := Except.bind_eq_ok_iff.mp h
          obtain ⟨given, f, hfills, hgiven, rfl, rfl⟩ := ih h
          have hfresh : text ∉ given := fun hmem => hgiven text hmem (.head _)
          refine ⟨text :: given, f ∘ g, .known hname hfind (Except.mapError_eq_ok_iff.mp hread)
            hfresh hfills, ?_, by simp, rfl⟩
          intro n hn
          rcases List.mem_cons.mp hn with rfl | hn
          · exact hnew
          · exact fun hmem => hgiven n hn (.tail _ hmem)

/-- When an object decodes to a record. -/
theorem record_object_eq_ok_iff {label : String} :
    record label known start (room + 1) (.object ms true) = .ok a ↔
      ∃ names f, Fills known room ms names f ∧ f start = a ∧
        ∀ m ∈ known, m.needed = true → m.name ∈ names := by
  have hneeded : ∀ names : List String,
      (known.find? fun m => m.needed && m.name ∉ names) = none ↔
        ∀ m ∈ known, m.needed = true → m.name ∈ names := by
    intro names
    simp [List.find?_eq_none]
  simp only [record, enter]
  constructor
  · intro h
    obtain ⟨⟨seen, b⟩, hfill, h⟩ := Except.bind_eq_ok_iff.mp h
    obtain ⟨names, f, hfills, -, rfl, rfl⟩ := exists_fills hfill
    simp only [Bool.not_true, Bool.false_eq_true, if_false] at h
    split at h
    next => contradiction
    next hnone =>
      cases h
      refine ⟨names, f, hfills, rfl, fun m hm hm' => ?_⟩
      simpa using (hneeded _).mp hnone m hm hm'
  · rintro ⟨names, f, hfills, rfl, hnames⟩
    have hnone := (hneeded (names.reverse ++ [])).mpr (by simpa using hnames)
    rw [hfills.fill_eq (by simp)]
    simp only [Except.bind_ok, Bool.not_true, Bool.false_eq_true, if_false, hnone]

/-! ## Order -/

/-- What the two members put into a record does not depend on their order. -/
def Member.CommutesWith (m m' : Member α) : Prop :=
  ∀ room t t' g g', m.read room t = .ok g → m'.read room t' = .ok g' → g ∘ g' = g' ∘ g

instance : Std.Symm (@Member.CommutesWith α) where
  symm _ _ h room t t' g g' hg hg' := (h room t' t g' g hg' hg).symm

/-- A null has no effect on the record that all start from. -/
def Member.IgnoresNull (start : α) (m : Member α) : Prop :=
  ∀ room g, m.read room .null = .ok g → m.needed = false ∧ g start = start

theorem Fills.perm (hcommute : known.Pairwise Member.CommutesWith)
    (h : Fills known room ms names f) (hperm : ms.Perm ms') :
    ∃ names', names'.Perm names ∧ Fills known room ms' names' f := by
  induction hperm generalizing names f with
  | nil => exact ⟨names, .rfl, h⟩
  | cons m _ ih =>
    cases h with
    | unknown hname hfind hsound h =>
      obtain ⟨names', hnames, h'⟩ := ih h
      exact ⟨names', hnames, .unknown hname hfind hsound h'⟩
    | known hname hfind hread hnew h =>
      obtain ⟨names', hnames, h'⟩ := ih h
      exact ⟨_, hnames.cons _, .known hname hfind hread (hnames.mem_iff.not.mpr hnew) h'⟩
  | swap m m' ms =>
    cases h with
    | unknown hname hfind hsound h =>
      cases h with
      | unknown hname' hfind' hsound' h =>
        exact ⟨_, .rfl, .unknown hname' hfind' hsound' (.unknown hname hfind hsound h)⟩
      | known hname' hfind' hread' hnew' h =>
        exact ⟨_, .rfl, .known hname' hfind' hread' hnew' (.unknown hname hfind hsound h)⟩
    | @known _ text k t _ _ f g hname hfind hread hnew h =>
      cases h with
      | unknown hname' hfind' hsound' h =>
        exact ⟨_, .rfl, .unknown hname' hfind' hsound' (.known hname hfind hread hnew h)⟩
      | @known _ text' k' t' _ names f g' hname' hfind' hread' hnew' h =>
        obtain ⟨hne, hnew⟩ := List.ne_and_not_mem_of_not_mem_cons hnew
        have hdistinct : k' ≠ k := by
          rintro rfl
          have hk := List.find?_some hfind
          have hk' := List.find?_some hfind'
          simp_all
        have hcomm : g' ∘ g = g ∘ g' :=
          hcommute.forall (List.mem_of_find?_eq_some hfind') (List.mem_of_find?_eq_some hfind)
            hdistinct room t' t g' g hread' hread
        have hfresh : text' ∉ text :: names := by simp [Ne.symm hne, hnew']
        refine ⟨text' :: text :: names, .swap _ _ _, ?_⟩
        have := Fills.known hname' hfind' hread' hfresh (.known hname hfind hread hnew h)
        rwa [Function.comp_assoc, ← hcomm, ← Function.comp_assoc] at this
  | trans _ _ ih ih' =>
    obtain ⟨names', hnames, h'⟩ := ih h
    obtain ⟨names'', hnames', h''⟩ := ih' h'
    exact ⟨names'', hnames'.trans hnames, h''⟩

/-! ## Members of the usual kinds -/

section Members

variable {β γ : Type} {name : String} {d : Decoder β} {d' : Decoder γ} {set : β → α → α}
  {set' : γ → α → α}

/-- Members that are stored apart commute. -/
theorem Member.commutesWith_of_set {m m' : Member α}
    (hread : m.read = fun room t => (d room t).map set)
    (hread' : m'.read = fun room t => (d' room t).map set')
    (hset : ∀ b c a, set b (set' c a) = set' c (set b a)) : m.CommutesWith m' := by
  intro room t t' g g' hg hg'
  rw [hread] at hg
  rw [hread'] at hg'
  obtain ⟨b, -, rfl⟩ := Except.map_eq_ok_iff.mp hg
  obtain ⟨c, -, rfl⟩ := Except.map_eq_ok_iff.mp hg'
  exact funext (hset b c)

/-- A null stands for what the record starts from. -/
theorem Member.ignoresNull_optional {set : Option β → α → α} (h : set none start = start) :
    (Member.optional name (Decoder.optional d) set).IgnoresNull start := by
  rintro room g ⟨⟩
  exact ⟨rfl, h⟩

theorem Member.ignoresNull_string {set : String → α → α} :
    (Member.optional name Decoder.string set).IgnoresNull start := by
  rintro room g ⟨⟩

end Members

/-! ## Reworking -/

/-- What a record needs so that its members may be reworked. -/
structure Tolerant (known : List (Member α)) (start : α) : Prop where
  distinct : (known.map (·.name)).Nodup
  commute : known.Pairwise Member.CommutesWith
  ignoreNull : ∀ m ∈ known, m.IgnoresNull start

/-- **A reworked object decodes to the same record.** -/
theorem record_reworked {label : String} (hknown : Tolerant known start)
    (h : Reworked (known.map (·.name)) ms ms')
    (hrecord : record label known start (room + 1) (.object ms true) = .ok a) :
    record label known start (room + 1) (.object ms' true) = .ok a := by
  induction h with
  | perm hperm =>
    obtain ⟨names, f, hfills, hstart, hneeded⟩ := record_object_eq_ok_iff.mp hrecord
    obtain ⟨names', hnames, hfills'⟩ := hfills.perm hknown.commute hperm
    exact record_object_eq_ok_iff.mpr ⟨names', f, hfills', hstart,
      fun m hm hm' => hnames.mem_iff.mpr (hneeded m hm hm')⟩
  | @insert name t cs ms hname ht =>
    obtain ⟨names, f, hfills, hrest⟩ := record_object_eq_ok_iff.mp hrecord
    have hfind : known.find? (·.name = name) = none := by
      simp only [List.find?_eq_none, decide_eq_true_eq]
      exact fun m hm heq => hname (List.mem_map.mpr ⟨m, hm, heq⟩)
    exact record_object_eq_ok_iff.mpr
      ⟨names, f, .unknown (text?_glyphs name) hfind ht.sound hfills, hrest⟩
  | leaveOut =>
    obtain ⟨names, f, hfills, hstart, hneeded⟩ := record_object_eq_ok_iff.mp hrecord
    cases hfills with
    | unknown _ _ _ hfills =>
      exact record_object_eq_ok_iff.mpr ⟨names, f, hfills, hstart, hneeded⟩
    | @known _ text m _ _ names f g hname hfind hread hnew hfills =>
      have hm : m ∈ known := List.mem_of_find?_eq_some hfind
      have htext : m.name = text := by simpa using List.find?_some hfind
      obtain ⟨hoptional, hg⟩ := hknown.ignoreNull m hm room g hread
      refine record_object_eq_ok_iff.mpr ⟨names, f, hfills, ?_, fun k hk hneed => ?_⟩
      · rw [← hstart, Function.comp_apply, hg]
      · refine (List.mem_cons.mp (hneeded k hk hneed)).resolve_left fun heq => ?_
        cases List.inj_on_of_nodup_map hknown.distinct hk hm (heq.trans htext.symm)
        exact absurd hneed (by simp [hoptional])
  | trans _ _ ih ih' => exact ih' (ih hrecord)

end Decoder

end DocSieve.Json
