import DialectIR.Builtin.Layout
import DialectIR.Proofs.Catalog
import DialectIR.Proofs.Registry.Foundation

/-!
# The built-in languages in a catalog

The catalog of the built-in languages describes each of them under the names that the interner
has for the texts of its vocabulary.  So the classes of the templates have distinct names, and
each template is founded, for whatever loader it is taken: all of its classes belong to one
loader, and no other loader gets any of them.
-/

namespace DialectIR

/-! ### The catalog -/

/-- The ecma language, described by the names that an interner has for its vocabulary. -/
def Ecma.IsLanguage (names : Interner) (l : Language) : Prop :=
  ∃ naming, names.Knows naming Ecma.vocabulary ∧ l = Ecma.languageOf naming

/-- The bytecode language, described by the names that an interner has for its
vocabulary. -/
def Jvm.IsLanguage (names : Interner) (l : Language) : Prop :=
  ∃ naming, names.Knows naming Jvm.vocabulary ∧ l = Jvm.languageOf naming

/-- The source language, described by the names that an interner has for its vocabulary. -/
def Jvm.IsSourceLanguage (names : Interner) (l : Language) : Prop :=
  ∃ naming, names.Knows naming Jvm.sourceVocabulary ∧ l = Jvm.sourceLanguageOf naming

/-- The names of the built-in languages. -/
def builtinNames : List String :=
  [Ecma.languageName, Jvm.languageName, Jvm.sourceLanguageName]

/-- The texts that the catalog of the built-in languages interns. -/
def builtinTexts : List String :=
  Ecma.vocabulary ++ (Jvm.vocabulary ++ (Jvm.sourceVocabulary ++ builtinNames))

/-- A catalog has the three built-in languages, and finds them by name. -/
structure Catalog.IsBuiltin (names : Interner) (c : Catalog) : Prop where
  languages : ∃ ecma jvm source, Ecma.IsLanguage names ecma ∧ Jvm.IsLanguage names jvm ∧
    Jvm.IsSourceLanguage names source ∧ c.languages = [ecma, jvm, source]
  get? {l : Language} (hl : l ∈ c.languages) : c.get? names l.name = some l

/-- The source language mentions what the bytecode language does. -/
theorem Jvm.vocabulary_subset :
  vocabulary ⊆ sourceVocabulary
  := by
  intro text htext
  rcases List.mem_append.mp htext with hdialect | hdescribed
  · apply List.mem_append_left _ hdialect
  · apply List.mem_append_right _ (List.mem_cons_of_mem _ hdescribed)

theorem Ecma.language_eq {names : Interner} (hroom : names.HasRoom vocabulary) :
  language names = (.ok (languageOf (names.internAll vocabulary).naming),
    names.internAll vocabulary)
  := hroom.map_naming_eq languageOf

theorem Jvm.language_eq {names : Interner} (hroom : names.HasRoom vocabulary) :
  language names = (.ok (languageOf (names.internAll vocabulary).naming),
    names.internAll vocabulary)
  := hroom.map_naming_eq languageOf

theorem Jvm.sourceLanguage_eq {names : Interner} (hroom : names.HasRoom sourceVocabulary) :
  sourceLanguage names = (.ok (sourceLanguageOf (names.internAll sourceVocabulary).naming),
    names.internAll sourceVocabulary)
  := hroom.map_naming_eq sourceLanguageOf

/-- The languages are described one after the other, and the catalog is made of them. -/
theorem builtinCatalog_eq {names first second third : Interner} {ecma jvm source : Language}
    (hecma : Ecma.language names = (.ok ecma, first))
    (hjvm : Jvm.language first = (.ok jvm, second))
    (hsource : Jvm.sourceLanguage second = (.ok source, third)) :
  builtinCatalog names = Catalog.ofList [ecma, jvm, source] third
  := by
  rw [builtinCatalog, InternM.bind_apply, hecma]
  simp only [InternM.bind_apply, hjvm, hsource]

/-- Where there is room for its texts, the catalog of the built-in languages is built. -/
theorem builtinCatalog_eq_ok {names : Interner} (hnames : names.Reached)
    (hroom : names.HasRoom builtinTexts) :
  ∃ c, builtinCatalog names = (.ok c, names.internAll builtinTexts) ∧
    c.IsBuiltin (names.internAll builtinTexts)
  := by
  obtain ⟨hecma, hroom⟩ := Interner.hasRoom_append_iff.mp hroom
  obtain ⟨hjvm, hroom⟩ := Interner.hasRoom_append_iff.mp hroom
  obtain ⟨hsource, hlast⟩ := Interner.hasRoom_append_iff.mp hroom
  rw [builtinTexts, Interner.internAll_append, Interner.internAll_append,
    Interner.internAll_append]
  have hdescribed := Ecma.language_eq hecma
  have hdescribed' := Jvm.language_eq hjvm
  have hdescribed'' := Jvm.sourceLanguage_eq hsource
  -- What is known of each language stays known when those after it are described.
  have hecma := (hecma.knows.internAll Jvm.vocabulary).internAll Jvm.sourceVocabulary
  have hjvm := hjvm.knows.internAll Jvm.sourceVocabulary
  have hsource := hsource.knows
  have hreached := ((hnames.internAll Ecma.vocabulary).internAll Jvm.vocabulary).internAll
    Jvm.sourceVocabulary
  generalize names.internAll Ecma.vocabulary = first at *
  generalize first.internAll Jvm.vocabulary = second at *
  generalize second.internAll Jvm.sourceVocabulary = third at *
  rw [builtinCatalog_eq hdescribed hdescribed' hdescribed'']
  generalize hlanguages : [Ecma.languageOf first.naming, Jvm.languageOf second.naming,
    Jvm.sourceLanguageOf third.naming] = languages
  have hnames : languages.map (·.name) = builtinNames := by
    rw [← hlanguages]
    rfl
  have hnodup : (languages.map (·.name)).Nodup := by
    rw [hnames]
    decide +kernel
  rw [← hnames] at hlast ⊢
  have hknows := hlast.knows
  have hdistinct := hknows.nodup_map (hreached.internAll _) (List.Subset.refl _) hnodup
  rw [List.map_map] at hdistinct
  use .under (third.internAll (languages.map (·.name))).naming languages
  rw [Catalog.ofList_eq_ok hreached hlast hnodup]
  use rfl
  constructor
  · exact ⟨_, _, _, ⟨_, hecma.internAll _, rfl⟩, ⟨_, hjvm.internAll _, rfl⟩,
      ⟨_, hsource.internAll _, rfl⟩, hlanguages.symm⟩
  · intro l hl
    apply Catalog.get?_under hknows hdistinct hl

theorem isBuiltin_of_builtinCatalog {names known : Interner} (hnames : names.Reached)
    (hroom : names.HasRoom builtinTexts) {c : Catalog}
    (hcatalog : builtinCatalog names = (.ok c, known)) :
  c.IsBuiltin known ∧ known.Reached
  := by
  obtain ⟨c', hbuilt, hbuiltin⟩ := builtinCatalog_eq_ok hnames hroom
  rw [hbuilt] at hcatalog
  obtain ⟨hc, rfl⟩ := Prod.mk.inj hcatalog
  obtain rfl : c' = c := Except.ok.inj hc
  exact ⟨hbuiltin, hnames.internAll builtinTexts⟩

/-- A new interner has room for the texts of the built-in languages, and then for many
more. -/
theorem exists_builtinCatalog_initial (placement : Placement) {texts : List String}
    (h : (builtinTexts ++ texts).length < Name.maxPosition) :
  ∃ c known, (Interner.initial placement).HasRoom builtinTexts ∧
    builtinCatalog (Interner.initial placement) = (.ok c, known) ∧ c.IsBuiltin known ∧
    known.HasRoom texts
  := by
  obtain ⟨hroom, htexts⟩ :=
    Interner.hasRoom_append_iff.mp (Interner.hasRoom_initial placement h)
  obtain ⟨c, hcatalog, hbuiltin⟩ := builtinCatalog_eq_ok ⟨placement, [], rfl⟩ hroom
  exact ⟨c, _, hroom, hcatalog, hbuiltin, htexts⟩

/-! ### The templates -/

namespace Ecma

/-- The classes of the template, in order. -/
def templateTexts : List String :=
  "Root" :: rootChildren ++ codeBodyChildren ++ objectChildren

theorem names_templateOf (naming : String → Name) :
  (templateOf naming).map (·.ty.name) = templateTexts.map naming
  := by
  simp [templateOf, ty, templateTexts, Function.comp_def]

theorem loader_templateOf {naming : String → Name} {t : ClassTemplate}
    (ht : t ∈ templateOf naming) :
  t.ty.loader = naming loaderName
  := by
  revert t
  simp [templateOf, ty, or_imp, forall_and]

theorem founded_templateOf {names : Interner} (hnames : names.Reached)
    {naming : String → Name} (hknows : names.Knows naming vocabulary) :
  ClassTemplate.Founded (templateOf naming)
  := by
  constructor
  · rw [names_templateOf]
    have hpart : templateTexts ⊆ vocabulary := by decide +kernel
    have hnodup : templateTexts.Nodup := by decide +kernel
    apply hknows.nodup_map hnames hpart hnodup
  · simp [templateOf, ClassTemplate.Rooted, rootChildren, codeBodyChildren, objectChildren]
  · simp [templateOf, or_imp, forall_and]

end Ecma

namespace Jvm

/-- The classes of the template, in order. -/
def templateTexts : List String :=
  ["Ljava/lang/Object", "Ljava/lang/String"] ++ hierarchy.map (·.1) ++ interfaces

theorem names_templateOf (naming : String → Name) :
  (templateOf naming).map (·.ty.name) = templateTexts.map naming
  := by
  simp [templateOf, ty, templateTexts, Function.comp_def]

theorem loader_templateOf {naming : String → Name} {t : ClassTemplate}
    (ht : t ∈ templateOf naming) :
  t.ty.loader = naming primordialLoader
  := by
  revert t
  simp [templateOf, ty, hierarchy, interfaces]

theorem founded_templateOf {names : Interner} (hnames : names.Reached)
    {naming : String → Name} (hknows : names.Knows naming vocabulary) :
  ClassTemplate.Founded (templateOf naming)
  := by
  constructor
  · rw [names_templateOf]
    have hpart : templateTexts ⊆ vocabulary := by decide +kernel
    have hnodup : templateTexts.Nodup := by decide +kernel
    apply hknows.nodup_map hnames hpart hnodup
  · simp [templateOf, ClassTemplate.Rooted, hierarchy, interfaces]
  · simp [templateOf, hierarchy, interfaces]

end Jvm

/-- The template of a built-in language is founded for whatever loader it is taken. -/
theorem Catalog.IsBuiltin.founded {names : Interner} {c : Catalog} (h : c.IsBuiltin names)
    (hnames : names.Reached) {l : Language} (hl : l ∈ c.languages) (loader : Name) :
  ClassTemplate.Founded (l.templateOf loader)
  := by
  obtain ⟨ecma, jvm, source, ⟨naming, hecma, rfl⟩, ⟨naming', hjvm, rfl⟩,
    ⟨naming'', hsource, rfl⟩, hlanguages⟩ := h.languages
  rw [hlanguages, List.mem_cons, List.mem_cons, List.mem_singleton] at hl
  rcases hl with rfl | rfl | rfl
  · have hfounded := Ecma.founded_templateOf hnames hecma
    apply ClassTemplate.Founded.templateOf hfounded fun t => Ecma.loader_templateOf
  · have hfounded := Jvm.founded_templateOf hnames hjvm
    apply ClassTemplate.Founded.templateOf hfounded fun t => Jvm.loader_templateOf
  · have hfounded := Jvm.founded_templateOf hnames (hsource.mono Jvm.vocabulary_subset)
    apply ClassTemplate.Founded.templateOf hfounded fun t => Jvm.loader_templateOf

end DialectIR
