import DialectIR.Proofs.Builtin.Languages
import DialectIR.Proofs.Scope.Layout

/-!
# Layouts of the built-in languages

The templates of the built-in languages are founded for whatever loader they are taken, also
for the home of another language.  So which loaders of such languages are initialized depends
on their bases alone.
-/

namespace DialectIR

open Layout Scope

/-- Loaders of built-in languages and of distinct names are sound once they were added. -/
theorem Catalog.IsBuiltin.sound {names known : Interner} {c : Catalog}
    (h : c.IsBuiltin known) (hknown : known.Reached) {specs : List LoaderSpec}
    (hlanguages : ∀ spec ∈ specs, spec.language ∈ c.languages)
    (hnodup : (specs.map (·.name)).Nodup) (hnames : names.Reached)
    (hroom : names.HasRoom (texts specs)) :
  Sound (names.internAll (texts specs)) (names.internAll (texts specs)).naming specs
  := by
  constructor
  · apply hnames.internAll
  · apply hroom.knows
  · apply hnodup
  · intro spec hspec
    apply h.founded hknown (hlanguages spec hspec)

/-- Loaders of built-in languages and of distinct names are added in order, and initialized up
to the first whose base is not the name of one before it, whatever loaders have the names of
the homes of the languages.  No registry fails. -/
theorem layout_initializes_iff {names known : Interner} (hnames : names.Reached)
    (hroom : names.HasRoom builtinTexts) {c : Catalog}
    (hcatalog : builtinCatalog names = (.ok c, known)) (more : List String)
    {specs : List LoaderSpec} (hlanguages : ∀ spec ∈ specs, spec.language ∈ c.languages)
    (hnodup : (specs.map (·.name)).Nodup)
    (htexts : (known.internAll more).HasRoom (texts specs)) :
  ∃ start grown s answer, Layout.addEach {} specs (known.internAll more) = (.ok start, grown) ∧
    start.initializeAll grown = (s, answer) ∧ Outcome grown specs s answer
  := by
  obtain ⟨hbuiltin, hknown⟩ := isBuiltin_of_builtinCatalog hnames hroom hcatalog
  have hsound := hbuiltin.sound hknown hlanguages hnodup (hknown.internAll more) htexts
  exact ⟨_, _, _, _, hsound.addEach htexts, rfl, hsound.outcome rfl⟩

/-- A loader of one language with the name of the home of another, one that comes before its
base, and that base. -/
def crossed (ecma jvm : Language) : List LoaderSpec :=
  [{ name := Jvm.primordialLoader, language := ecma },
    { name := "layer", language := jvm, base := some Ecma.loaderName },
    { name := Ecma.loaderName, language := jvm, base := some Jvm.primordialLoader,
      synthetic := true }]

theorem layout_initializes_iff_crossed :
  ∃ c known ecma jvm start grown s answer,
    builtinCatalog (Interner.initial .bySum) = (.ok c, known) ∧
    ecma ∈ c.languages ∧ ecma.name = Ecma.languageName ∧
    jvm ∈ c.languages ∧ jvm.name = Jvm.languageName ∧
    Layout.addEach {} (crossed ecma jvm) known = (.ok start, grown) ∧
    start.initializeAll grown = (s, answer) ∧
    (∃ loader missing, grown.lookup? loader = some "layer" ∧
      grown.lookup? missing = some Ecma.loaderName ∧
      answer = .error (.uninitializedBaseLoader loader missing)) ∧
    s.isInitialized ⟨0⟩ ∧ ¬ s.isInitialized ⟨1⟩ ∧ ¬ s.isInitialized ⟨2⟩
  := by
  have hnames : (Interner.initial .bySum).Reached := ⟨.bySum, [], rfl⟩
  have hlong : (builtinTexts ++ [Jvm.primordialLoader, "layer", Ecma.loaderName,
      Ecma.loaderName, Jvm.primordialLoader]).length < Name.maxPosition := by
    decide +kernel
  obtain ⟨c, known, hroom, hcatalog, hbuiltin, htexts⟩ :=
    exists_builtinCatalog_initial .bySum hlong
  obtain ⟨ecma, jvm, source, ⟨naming, -, hecma⟩, ⟨naming', -, hjvm⟩, -, hlanguages⟩ :=
    hbuiltin.languages
  have hmem : ecma ∈ c.languages := by simp [hlanguages]
  have hmem' : jvm ∈ c.languages := by simp [hlanguages]
  have hall : ∀ spec ∈ crossed ecma jvm, spec.language ∈ c.languages := by
    simp [crossed, hmem, hmem']
  have hnodup : ((crossed ecma jvm).map (·.name)).Nodup := by
    simp [crossed, Jvm.primordialLoader, Ecma.loaderName]
  obtain ⟨start, grown, s, answer, hadded, hrun, houtcome⟩ :=
    layout_initializes_iff hnames hroom hcatalog [] hall hnodup htexts
  have hbreaks : Breaks (crossed ecma jvm) ((crossed ecma jvm).take 1)
      { name := "layer", language := jvm, base := some Ecma.loaderName } Ecma.loaderName := by
    constructor
    · exact ⟨_, rfl⟩
    · apply basesEarlier_singleton rfl
    · rfl
    · simp [crossed, Jvm.primordialLoader, Ecma.loaderName]
  have hinitialized : ∀ h, s.isInitialized h ↔ h.index < 1 := houtcome.initialized hbreaks
  use c, known, ecma, jvm, start, grown, s, answer, hcatalog, hmem
  refine ⟨by rw [hecma]; rfl, hmem', by rw [hjvm]; rfl, hadded, hrun, ?_, ?_, ?_, ?_⟩
  · apply houtcome.reported hbreaks
  · apply (hinitialized ⟨0⟩).mpr
    decide
  · rw [hinitialized]
    decide
  · rw [hinitialized]
    decide

end DialectIR
