import DialectIR.Proofs.Builtin.Exceptions
import DialectIR.Proofs.Instr.Extension

/-!
# Source over bytecode

The source language has all shapes of bytecode, assertions besides, and the same exceptions
for everything.  So the instructions of bytecode are renumbered alike by both languages.  Those
of source are as well, except for assertions, which bytecode refuses.  It does not matter which
of the languages was described first, as long as their names come from one interner.
-/

namespace DialectIR

namespace Payload

/-- The additional shape of source is that of assertions, and of nothing else. -/
theorem shape?_eq_assertion_iff (p : Payload) :
  p.shape? = some .assertion ↔ p.opcode = .assertion
  := by
  cases p with
  | get result object field => cases object <;> simp [shape?, opcode]
  | put object value field => cases object <;> simp [shape?, opcode]
  | invoke results exception function params site =>
      cases function <;> simp [shape?, opcode]
  | new result params site => cases params <;> simp [shape?, opcode]
  | conversion result value source target checkOverflow =>
      cases checkOverflow <;> simp [shape?, opcode]
  | _ => simp [shape?, opcode]

theorem refusal_assertion {p : Payload} (h : p.opcode = .assertion) (d : Dialect) :
  p.refusal d = .unsupportedOperation d.name "assert"
  := by
  cases p with
  | assertion value fromSpecification => rfl
  | _ => simp [opcode] at h

end Payload

namespace Jvm

/-! ### The two dialects -/

/-- The dialects under namings that agree on the vocabulary are the same, up to what is added
to them. -/
theorem commonDialect_eq {naming naming' : String → Name}
    (hsame : ∀ text ∈ vocabulary, naming text = naming' text) (name : String) :
  commonDialect naming name = commonDialect naming' name
  := by
  have hmentioned : "Ljava/lang/Object" :: exceptionTexts ⊆ vocabulary := by decide +kernel
  have htypes : ∀ text ∈ "Ljava/lang/Object" :: exceptionTexts,
      ty naming text = ty naming' text := by
    intro text htext
    apply ty_eq hsame (hmentioned htext)
  simp only [exceptionTexts, List.forall_mem_cons] at htypes
  obtain ⟨hobject, hnull, hruntime, herror, hmemory, harithmetic, hcast, hindex, -⟩ := htypes
  simp only [commonDialect, hobject, hnull, hruntime, herror, hmemory, harithmetic, hcast,
    hindex]

theorem not_has_assertion (naming : String → Name) :
  ¬ (dialectOf naming).has .assertion
  := by
  have hlacks : (ShapeSet.baseline \ .single .overflowConversion).contains .assertion = false :=
    by decide
  rw [Dialect.has, dialectOf, commonDialect, hlacks]
  apply Bool.false_ne_true

/-- Source extends bytecode by assertions, under any two namings that agree on the
vocabulary. -/
theorem extendedBy_sourceDialectOf {naming naming' : String → Name}
    (hsame : ∀ text ∈ vocabulary, naming text = naming' text) :
  (dialectOf naming).ExtendedBy .assertion (sourceDialectOf naming')
  := by
  have hsource : sourceDialectOf naming' = { dialectOf naming with
      name := sourceLanguageName
      shapes := (dialectOf naming).shapes ∪ .single .assertion } := by
    rw [sourceDialectOf, ← commonDialect_eq hsame]
    rfl
  rw [hsource]
  apply Dialect.extendedBy_with (not_has_assertion naming)

/-! ### The two languages -/

variable {names names' grown grown' : Interner} {jvm source : Language}

theorem name_of_language (hroom : names.HasRoom vocabulary)
    (hjvm : language names = (.ok jvm, grown)) :
  jvm.dialect.name = "jvm"
  := by
  rw [language_eq hroom] at hjvm
  cases hjvm
  rfl

theorem extendedBy_of_language {texts texts' : List String} (hroom : names.HasRoom vocabulary)
    (hroom' : names'.HasRoom sourceVocabulary)
    (hjvm : language names = (.ok jvm, grown))
    (hsource : sourceLanguage names' = (.ok source, grown'))
    (hshared : grown.internAll texts = grown'.internAll texts') :
  jvm.dialect.ExtendedBy .assertion source.dialect
  := by
  rw [language_eq hroom] at hjvm
  rw [sourceLanguage_eq hroom'] at hsource
  cases hjvm
  cases hsource
  have hknown := hroom.knows.internAll texts
  have hknown' := hroom'.knows.internAll texts'
  rw [← hshared] at hknown'
  apply extendedBy_sourceDialectOf
  intro text htext
  apply hknown.eq hknown' htext (vocabulary_subset htext)

/-- Bytecode and source are described in one interner, in either order and with other texts
interned in between.  Each instruction that bytecode builds is renumbered by both to one
instruction, with its exceptions.  So is each that source builds, unless it is an assertion,
which only source renumbers. -/
theorem renumber_source_eq_renumber_bytecode {texts texts' : List String}
    (hroom : names.HasRoom vocabulary) (hroom' : names'.HasRoom sourceVocabulary)
    (hjvm : language names = (.ok jvm, grown))
    (hsource : sourceLanguage names' = (.ok source, grown'))
    (hshared : grown.internAll texts = grown'.internAll texts') :
  (∀ op i, jvm.dialect.build op = .ok i → ∀ defs uses, ∃ j,
    i.renumber jvm.dialect defs uses = .ok j ∧ i.renumber source.dialect defs uses = .ok j) ∧
  (∀ op i, source.dialect.build op = .ok i → ∀ defs uses, ∃ j,
    i.renumber source.dialect defs uses = .ok j ∧ i.renumber jvm.dialect defs uses
      = if i.payload.opcode = .assertion then .error (.unsupportedOperation "jvm" "assert")
        else .ok j)
  := by
  have hextended := extendedBy_of_language hroom hroom' hjvm hsource hshared
  constructor
  · intro op i hbuild defs uses
    apply Instr.renumber_extended hextended hbuild
  · intro op i hbuild defs uses
    obtain ⟨j, hj, hrestricted⟩ := Instr.renumber_restricted hextended hbuild defs uses
    use j, hj
    rw [hrestricted]
    by_cases hopcode : i.payload.opcode = .assertion
    · rw [if_pos hopcode, if_pos (i.payload.shape?_eq_assertion_iff.mpr hopcode),
        Payload.refusal_assertion hopcode, name_of_language hroom hjvm]
    · rw [if_neg hopcode, if_neg (hopcode ∘ i.payload.shape?_eq_assertion_iff.mp)]

/-- A division of integers may raise an exception also after it was renumbered for source, and
an assertion is refused by bytecode. -/
theorem renumber_source_eq_renumber_bytecode_division :
  ∃ jvm source grown grown',
    language (Interner.initial .bySum) = (.ok jvm, grown) ∧
    sourceLanguage grown = (.ok source, grown') ∧
    (∃ i j, jvm.dialect.build (.binary .div ⟨2⟩ ⟨0⟩ ⟨1⟩ true) = .ok i ∧
      i.renumber jvm.dialect (some [⟨12⟩]) none = .ok j ∧
      i.renumber source.dialect (some [⟨12⟩]) none = .ok j ∧ j.exceptions.isSome) ∧
    (∃ i, source.dialect.build (.assertion ⟨0⟩ true) = .ok i ∧
      i.renumber jvm.dialect none (some [⟨7⟩])
        = .error (.unsupportedOperation "jvm" "assert"))
  := by
  have hlong : (vocabulary ++ sourceVocabulary).length < Name.maxPosition := by
    decide +kernel
  obtain ⟨hroom, hroom'⟩ :=
    Interner.hasRoom_append_iff.mp (Interner.hasRoom_initial .bySum hlong)
  have hjvm := language_eq hroom
  have hsource := sourceLanguage_eq hroom'
  -- The texts of source are those that were interned since bytecode was described.
  have hshared : ∀ (known : Interner) (texts : List String),
      known.internAll texts = (known.internAll texts).internAll [] := fun _ _ => rfl
  obtain ⟨hbytecode, hassertion⟩ :=
    renumber_source_eq_renumber_bytecode hroom hroom' hjvm hsource (hshared _ _)
  refine ⟨_, _, _, _, hjvm, hsource, ?_, ?_⟩
  · obtain ⟨j, hj, hj'⟩ :=
      hbytecode (.binary .div ⟨2⟩ ⟨0⟩ ⟨1⟩ true) _ rfl (some [⟨12⟩]) none
    refine ⟨_, j, rfl, hj, hj', ?_⟩
    cases hj
    rfl
  · obtain ⟨j, -, hrefused⟩ := hassertion (.assertion ⟨0⟩ true) _ rfl none (some [⟨7⟩])
    refine ⟨_, rfl, ?_⟩
    rw [hrefused]
    rfl

end Jvm

end DialectIR
