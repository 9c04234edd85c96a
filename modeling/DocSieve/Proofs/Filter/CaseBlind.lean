-- SUMMARY: Operators on texts do not see the case of their operand nor of the stored text.
import DocSieve.Proofs.Filter.Substring
import DocSieve.Proofs.Text.Recased

/-!
# Case-blind operators

A condition on a text keeps the lower-case form of its operand and compares it
with that of the stored text. Texts that differ in case only have one
lower-case form, so as operands they make one condition, and as stored texts
they are accepted alike.
-/

namespace DocSieve

open Json Text

variable {r : Registry} {entity field : String} {names : List String}
  {op : Operator} {test : TextTest} {value value' s s' : String} {document document' : Value}
  {other : Option String}

/-- Operands in another case make the same condition on a text. -/
theorem ResolvedField.condition_recased {f : ResolvedField} (hf : f.type = .text)
    (h : Recased value value') : f.condition op value other = f.condition op value' other := by
  simp only [condition, hf, h.lower_eq]

/-- A clause on a text compiles to the same whatever case its operand is in, and
fails with the same error. -/
theorem Clause.compile_recased (hdot : Dotted field names) (ht : r.Declares entity names .text)
    (h : Recased value value') :
    Clause.compile r entity ⟨field, some op, some value, other⟩ =
      Clause.compile r entity ⟨field, some op, some value', other⟩ := by
  have hcomplete : Clause.isComplete ⟨field, some op, some value, other⟩ =
      Clause.isComplete ⟨field, some op, some value', other⟩ := by
    simp [Clause.isComplete, h.eq_empty_iff]
  unfold Clause.compile
  simp only [hcomplete]
  cases hf : r.resolveField entity field with
  | error e => rfl
  | ok f =>
    obtain ⟨names', t, hdot', -, ht', rfl⟩ := Registry.resolveField_eq_ok_iff.mp hf
    cases hdot.unique hdot'
    cases ht.unique ht'
    have hcondition : (ResolvedField.mk FieldType.text.semantic ⟨names⟩).condition op value other =
        (ResolvedField.mk FieldType.text.semantic ⟨names⟩).condition op value' other :=
      ResolvedField.condition_recased rfl h
    simp only [Except.mapError_ok, Except.bind_ok, hcondition]

/-- A condition on a text accepts stored texts alike that differ in case only. -/
theorem Condition.admits_recased {path : FieldPath} {operand : String} (h : Recased s s')
    (hs : FieldPath.Reaches document path.segments (.string s))
    (hs' : FieldPath.Reaches document' path.segments (.string s')) :
    (Condition.text path test operand).admits document =
      (Condition.text path test operand).admits document' := by
  rw [FieldPath.reaches_iff_follow] at hs hs'
  simp only [admits_eq_any, Condition.field, FieldPath.lookup, hs, hs', accepts, Value.text?,
    Option.any_some, h.lower_eq]

/-- **Operators on texts ignore case.** Whatever ASCII letters are switched, and
wherever a text stands for its lower-case form, in the operand, in the stored
text or in both, the clause compiles to the same and lets the same documents
through. The operand that the condition keeps is its own lower-case form. -/
theorem Registry.text_operators_ignore_case (hdot : Dotted field names)
    (hblank : ∀ n ∈ names, isBlank n = false) (ht : r.Declares entity names .text)
    (hop : op.textTest? = some test) (hvalue : Recased value value') (hstored : Recased s s')
    (hs : FieldPath.Reaches document names (.string s))
    (hs' : FieldPath.Reaches document' names (.string s')) (other : Option String) :
    let compile (value : String) := Clause.compile r entity ⟨field, some op, some value, other⟩
    compile value = compile value' ∧
    (value ≠ "" → ∃ operand, compile value = .ok (.text ⟨names⟩ test operand) ∧
      lower operand = operand) ∧
    ∀ k, compile value = .ok k → k.admits document = k.admits document' := by
  intro compile
  have hcompile (hne : value ≠ "") : compile value = .ok (.text ⟨names⟩ test (lower value)) := by
    have hfield := resolveField_eq_ok_iff.mpr ⟨names, .text, hdot, hblank, ht, rfl⟩
    have heq := Clause.compile_eq_condition (c := ⟨field, some op, some value, other⟩)
      rfl rfl (hdot.ne_empty hblank) hne hfield
    rw [ResolvedField.condition, hop] at heq
    exact heq
  refine ⟨Clause.compile_recased hdot ht hvalue, ?operand, ?outcome⟩
  case operand =>
    intro hne
    exact ⟨lower value, hcompile hne, lower_lower value⟩
  case outcome =>
    intro k hk
    have hne : value ≠ "" := by
      rintro rfl
      simp [compile, Clause.compile, Clause.isComplete] at hk
    cases hk.symm.trans (hcompile hne)
    exact Condition.admits_recased hstored hs hs'

/-- Both letters at the end of a word, with a dotted I in front of it. -/
theorem Registry.text_operators_ignore_case_words :
    let r : Registry := ⟨[⟨"quotes", none, [("by", .object [("name", .text)])]⟩]⟩
    let document (name : String) : Value := .object [("by", .object [("name", .string name)])]
    let compile (value : String) :=
      Clause.compile r "quotes" ⟨"by.name", some .endsWith, some value, none⟩
    Recased "İ like ΣΟΦΟΣ" "i̇ like σοφος" ∧ Recased "like ΣΟΦΟΣ" "LIKE ΣΟΦΟΣ" ∧
    compile "like ΣΟΦΟΣ" = compile "LIKE ΣΟΦΟΣ" ∧
    ∃ k, compile "LIKE ΣΟΦΟΣ" = .ok k ∧
      k.admits (document "İ like ΣΟΦΟΣ") = k.admits (document "i̇ like σοφος") := by
  intro r document compile
  have hdot : Dotted "by.name" ["by", "name"] := dotted_iff.mpr (by decide +kernel)
  have hblank : ∀ n ∈ ["by", "name"], isBlank n = false := by decide +kernel
  have ht : r.Declares "quotes" ["by", "name"] .text := ⟨_, rfl, .nested rfl (.field rfl)⟩
  have hreaches (name : String) :
      FieldPath.Reaches (document name) ["by", "name"] (.string name) :=
    .member rfl (.member rfl .here)
  have hstored : Recased "İ like ΣΟΦΟΣ" "i̇ like σοφος" := by
    have hlower : lower "İ like ΣΟΦΟΣ" = "i̇ like σοφος" := by decide +kernel
    exact hlower ▸ .lowered _
  have hvalue : Recased "like ΣΟΦΟΣ" "LIKE ΣΟΦΟΣ" := .letters (by decide)
  have hop : Operator.endsWith.textTest? = some .endsWith := rfl
  obtain ⟨hcompile, hoperand, houtcome⟩ := text_operators_ignore_case hdot hblank ht hop hvalue
    hstored (hreaches _) (hreaches _) none
  obtain ⟨operand, hok, -⟩ := hoperand (by decide)
  exact ⟨hstored, hvalue, hcompile, _, hcompile.symm.trans hok, houtcome _ hok⟩

end DocSieve
