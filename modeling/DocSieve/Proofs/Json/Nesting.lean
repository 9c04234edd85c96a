-- SUMMARY: How deep arrays and objects nest, and which trees have a value within a number of levels.
import DocSieve.Json.Decode

/-!
# Nesting

A value is taken whole or not at all. What can keep a tree from having one is
said apart from the walk through it: a number or a string in it that stands for
nothing, and arrays and objects that nest deeper than there are levels left.
-/

namespace DocSieve.Json

open Text (Glyph)

/-! ## Levels -/

mutual

/-- The levels of arrays and objects in a tree. -/
def Tree.nesting : Tree → Nat
  | .array items _ => itemNesting items + 1
  | .object members _ => memberNesting members + 1
  | _ => 0

def itemNesting : List Tree → Nat
  | [] => 0
  | t :: ts => max t.nesting (itemNesting ts)

def memberNesting : List (List Glyph × Tree) → Nat
  | [] => 0
  | (_, t) :: ms => max t.nesting (memberNesting ms)

end

mutual

/-- The levels of arrays and objects in a value. -/
def Value.nesting : Value → Nat
  | .array items => valueItemNesting items + 1
  | .object members => valueMemberNesting members + 1
  | _ => 0

def valueItemNesting : List Value → Nat
  | [] => 0
  | v :: vs => max v.nesting (valueItemNesting vs)

def valueMemberNesting : List (String × Value) → Nat
  | [] => 0
  | (_, v) :: ms => max v.nesting (valueMemberNesting ms)

end

theorem valueMemberNesting_append (ms ms' : List (String × Value)) :
    valueMemberNesting (ms ++ ms') = max (valueMemberNesting ms) (valueMemberNesting ms') := by
  induction ms with
  | nil => simp [valueMemberNesting]
  | cons m ms ih =>
    obtain ⟨name, v⟩ := m
    simp [valueMemberNesting, ih, Nat.max_assoc]

theorem memberNesting_le_iff {ms : List (List Glyph × Tree)} {room : Nat} :
    memberNesting ms ≤ room ↔ ∀ m ∈ ms, m.2.nesting ≤ room := by
  induction ms with
  | nil => simp [memberNesting]
  | cons m ms ih =>
    obtain ⟨name, t⟩ := m
    rw [memberNesting, Nat.max_le, ih, List.forall_mem_cons]

/-! ## Values -/

mutual

/-- The tree is JSON to its end, its numbers are in range and its strings have
no holes. -/
def Tree.Plain : Tree → Prop
  | .null | .bool _ => True
  | .number n => n.number?.isSome
  | .string s => (Tree.text? s).isSome
  | .array items closed => PlainItems items ∧ closed
  | .object members closed => PlainMembers members ∧ closed
  | .broken => False

def PlainItems : List Tree → Prop
  | [] => True
  | t :: ts => t.Plain ∧ PlainItems ts

def PlainMembers : List (List Glyph × Tree) → Prop
  | [] => True
  | (name, t) :: ms => (Tree.text? name).isSome ∧ t.Plain ∧ PlainMembers ms

end

theorem plainMembers_iff {ms : List (List Glyph × Tree)} :
    PlainMembers ms ↔ ∀ m ∈ ms, (Tree.text? m.1).isSome ∧ m.2.Plain := by
  induction ms with
  | nil => simp [PlainMembers]
  | cons m ms ih => simp [PlainMembers, ih, and_assoc]

/-- Two steps succeed if the first does and the second would. -/
theorem isSome_bind_iff {α β : Type} {o : Option α} {f : α → Option β} {p : Prop}
    (h : ∀ a, (f a).isSome ↔ p) : (o >>= f).isSome ↔ o.isSome ∧ p := by
  cases o with
  | none => simp
  | some a => simp [h a]

mutual

/-- **Which trees have a value.** A tree has a value exactly if nothing in it is
wrong and its arrays and objects nest no deeper than there are levels left. -/
theorem Tree.isSome_value?_iff :
    ∀ (t : Tree) (room : Nat), (t.value? room).isSome ↔ t.Plain ∧ t.nesting ≤ room
  | .null, _ | .bool _, _ | .number _, _ | .string _, _ | .broken, _ => by
    simp [Tree.value?, Tree.Plain, Tree.nesting]
  | .array _ _, 0 | .object _ _, 0 => by simp [Tree.value?, Tree.nesting]
  | .array items closed, room + 1 => by
    have hclosed (vs : List Value) :
        (if closed then some (Value.array vs) else none).isSome ↔ closed = true := by simp
    rw [Tree.value?, isSome_bind_iff hclosed, isSome_itemValues?_iff, Tree.Plain, Tree.nesting,
      Nat.add_le_add_iff_right, and_right_comm]
  | .object members closed, room + 1 => by
    have hclosed (ms : List (String × Value)) :
        (if closed then some (Value.object ms) else none).isSome ↔ closed = true := by simp
    rw [Tree.value?, isSome_bind_iff hclosed, isSome_memberValues?_iff, Tree.Plain, Tree.nesting,
      Nat.add_le_add_iff_right, and_right_comm]

theorem isSome_itemValues?_iff :
    ∀ (ts : List Tree) (room : Nat),
      (itemValues? room ts).isSome ↔ PlainItems ts ∧ itemNesting ts ≤ room
  | [], _ => by simp [itemValues?, PlainItems, itemNesting]
  | t :: ts, room => by
    have hmore (v : Value) : (itemValues? room ts >>= fun vs => some (v :: vs)).isSome ↔
        PlainItems ts ∧ itemNesting ts ≤ room := by
      rw [← isSome_itemValues?_iff ts room]
      cases itemValues? room ts <;> simp
    rw [itemValues?, isSome_bind_iff hmore, t.isSome_value?_iff, PlainItems, itemNesting,
      Nat.max_le, and_and_and_comm]

theorem isSome_memberValues?_iff :
    ∀ (ms : List (List Glyph × Tree)) (room : Nat) (before : List (String × Value)),
      (memberValues? room before ms).isSome ↔ PlainMembers ms ∧ memberNesting ms ≤ room
  | [], _, _ => by simp [memberValues?, PlainMembers, memberNesting]
  | (name, t) :: ms, room, before => by
    have hmore (name : String) :
        (t.value? room >>= fun v => memberValues? room (setMember name v before) ms).isSome ↔
          (t.Plain ∧ t.nesting ≤ room) ∧ PlainMembers ms ∧ memberNesting ms ≤ room := by
      rw [← t.isSome_value?_iff]
      exact isSome_bind_iff fun v => isSome_memberValues?_iff ms room _
    rw [memberValues?, isSome_bind_iff hmore, PlainMembers, memberNesting, Nat.max_le,
      and_and_and_comm, ← and_assoc, ← and_assoc]

end

end DocSieve.Json
