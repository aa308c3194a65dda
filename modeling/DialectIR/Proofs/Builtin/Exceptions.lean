import DialectIR.Proofs.Builtin.Layouts
import DialectIR.Proofs.Instr.Origin
import DialectIR.Proofs.Scope.Home

/-!
# Exceptions of the built-in languages

The exceptions that a dialect attaches to instructions are among those that it lists.  In the
built-in languages these lead to the type of all that can be thrown by superclasses of a
template.  The scopes that host the languages have the template in their first loader, which
has no base.  So each exception denotes a class there, and following superclasses leads from it
to the class of all that can be thrown, whatever else is defined in the scope.
-/

namespace DialectIR

open ClassTemplate Layout Scope

/-- The exceptions that a dialect lists for some kind of instruction. -/
def Dialect.attached (d : Dialect) : List TypeRef :=
  d.fieldAccess.getD [] ++ d.raised ++ d.invoke ++ d.allocation ++ d.dynamicAccess ++
    d.arithmetic.getD [] ++ d.array ++ d.cast ++ d.monitor

/-- The exceptions of a language lead to the root of what can be thrown by superclasses of a
template, and its calls raise what it says of any call. -/
structure Language.ThrowsWithin (l : Language) (ts : List ClassTemplate) : Prop where
  throwable : l.throwable ∈ ts.map (·.ty)
  attached {ty : TypeRef} (hty : ty ∈ l.dialect.attached) :
    Relation.ReflTransGen (Below ts) ty l.throwable
  invoke : l.dialect.invoke = l.invokeExceptions

/-- The built-in languages, each with the layout of the scope that hosts it. -/
def Layout.presets : List (String × Layout) :=
  [(Ecma.languageName, Layout.ecma), (Jvm.languageName, Layout.jvmSource),
    (Jvm.sourceLanguageName, Layout.jvmSource)]

/-- The texts that building a layout interns. -/
def Layout.interned (layout : Layout) : List String :=
  layout.flatMap fun e => e.loader :: e.base.toList

/-- What the layout of the ecma language adds. -/
def Layout.ecmaSpecs (ecma : Language) : List LoaderSpec :=
  [{ name := Ecma.loaderName, language := ecma }]

/-- What the layout of the jvm languages adds. -/
def Layout.jvmSpecs (jvm source : Language) : List LoaderSpec :=
  [{ name := Jvm.primordialLoader, language := jvm },
    { name := Jvm.applicationLoader, language := jvm, base := some Jvm.primordialLoader },
    { name := Jvm.sourceLoader, language := source, base := some Jvm.applicationLoader,
      synthetic := true }]

/-! ### Exceptions that are attached -/

theorem Dialect.exceptionsOf_subset {d : Dialect} {p : Payload} {types : List TypeRef}
    (h : d.exceptionsOf p = some types) :
  types ⊆ d.attached
  := by
  intro ty hty
  unfold exceptionsOf at h
  split at h
  all_goals simp_all [attached]

theorem Dialect.exceptions_of_build {d : Dialect} {op : Operation} {i : Instr}
    (hbuild : d.build op = .ok i) :
  i.exceptions = d.exceptionsOf i.payload
  := by
  obtain ⟨-, hinstr⟩ := admits_of_build hbuild
  rw [← hinstr]
  rfl

namespace Language.ThrowsWithin

variable {l : Language} {ts : List ClassTemplate} (hthrows : l.ThrowsWithin ts)

include hthrows

/-- What an instruction of the language may raise leads to the root of what can be thrown,
where a loader hosts the template. -/
theorem leadsTo {s : Scope} {h : LoaderHandle} (hosts : s.Hosts h ts) {op : Operation}
    {i : Instr} (hbuild : l.dialect.build op = .ok i) {types : List TypeRef}
    (htypes : i.exceptionTypes = .ok types) {ty : TypeRef} (hty : ty ∈ types) :
  s.LeadsTo ty l.throwable
  := by
  have hlisted := Instr.exceptionTypes_eq_ok.mp htypes
  rw [Dialect.exceptions_of_build hbuild] at hlisted
  apply hosts.leadsTo (hthrows.attached _) hthrows.throwable
  apply Dialect.exceptionsOf_subset hlisted hty

/-- A call of the language raises what the language says of its target. -/
theorem exceptionTypes_invoke {op : Operation} {i : Instr}
    (hbuild : l.dialect.build op = .ok i) {results : List ValueId}
    {exception : ValueId} {function : Option ValueId} {params : List ValueId}
    {site : CallSite} (hpayload : i.payload = .invoke results exception function params site) :
  i.exceptionTypes = .ok (l.inferInvokeExceptions site.target)
  := by
  apply Instr.exceptionTypes_eq_ok.mpr
  rw [Dialect.exceptions_of_build hbuild, hpayload, Dialect.exceptionsOf, hthrows.invoke]
  rfl

end Language.ThrowsWithin

/-! ### The built-in languages -/

theorem Ecma.throwsWithin (naming : String → Name) :
  (languageOf naming).ThrowsWithin (templateOf naming)
  := by
  have hbelow : Below (templateOf naming) (ty naming "TypeError") (ty naming "Root") := by
    use { ty := ty naming "TypeError", superclass := some (ty naming "Root") }
    simp [templateOf, rootChildren]
  have hattached : (languageOf naming).dialect.attached
      = [ty naming "Root", ty naming "TypeError", ty naming "TypeError"] := rfl
  constructor
  · simp [languageOf, dialectOf, templateOf]
  · rw [hattached, List.forall_mem_cons, List.forall_mem_cons, List.forall_mem_singleton]
    exact ⟨.refl, .single hbelow, .single hbelow⟩
  · rfl

namespace Jvm

/-- The names of the exceptions that the dialects list. -/
def exceptionTexts : List String :=
  ["Ljava/lang/NullPointerException", "Ljava/lang/RuntimeException", "Ljava/lang/Error",
    "Ljava/lang/OutOfMemoryError", "Ljava/lang/ArithmeticException",
    "Ljava/lang/ClassCastException", "Ljava/lang/ArrayIndexOutOfBoundsException"]

/-- All of them are throwable. -/
theorem throwable_of_mem_exceptionTexts :
  ∀ text ∈ exceptionTexts, Relation.ReflTransGen
    (fun text superclass => (text, superclass) ∈ hierarchy) text "Ljava/lang/Throwable"
  := by
  have herror : ("Ljava/lang/Error", "Ljava/lang/Throwable") ∈ hierarchy := by simp [hierarchy]
  have hexception : ("Ljava/lang/Exception", "Ljava/lang/Throwable") ∈ hierarchy := by
    simp [hierarchy]
  have hruntime : Relation.ReflTransGen
      (fun text superclass => (text, superclass) ∈ hierarchy)
      "Ljava/lang/RuntimeException" "Ljava/lang/Throwable" := by
    apply Relation.ReflTransGen.head _ (.single hexception)
    simp [hierarchy]
  simp only [exceptionTexts, List.forall_mem_cons]
  refine ⟨.head ?_ hruntime, hruntime, .single herror, .head ?_ (.single herror),
    .head ?_ hruntime, .head ?_ hruntime, .head ?_ hruntime, ?_⟩
  all_goals simp [hierarchy]

theorem below_of_mem_hierarchy (naming : String → Name) {text superclass : String}
    (h : (text, superclass) ∈ hierarchy) :
  Below (templateOf naming) (ty naming text) (ty naming superclass)
  := by
  use { ty := ty naming text, superclass := some (ty naming superclass) }
  simp only [templateOf, List.mem_append, List.mem_map]
  use .inl (.inr ⟨_, h, rfl⟩)

/-- The types of the vocabulary are the same under namings that agree on it. -/
theorem ty_eq {naming naming' : String → Name}
    (hsame : ∀ text ∈ vocabulary, naming text = naming' text) {text : String}
    (htext : text ∈ vocabulary) :
  ty naming text = ty naming' text
  := by
  have hloader : primordialLoader ∈ vocabulary := by simp [vocabulary, dialectVocabulary]
  rw [ty, ty, hsame text htext, hsame primordialLoader hloader]

/-- Both languages throw within the template, also if it is described under another naming
that agrees on the vocabulary. -/
theorem throwsWithin {naming naming' : String → Name}
    (hsame : ∀ text ∈ vocabulary, naming text = naming' text) {l : Language}
    (hl : l = languageOf naming ∨ l = sourceLanguageOf naming) :
  l.ThrowsWithin (templateOf naming')
  := by
  have hroot : "Ljava/lang/Throwable" ∈ vocabulary := by decide +kernel
  have hexceptions : exceptionTexts ⊆ vocabulary := by decide +kernel
  have hthrowable : l.throwable = ty naming' "Ljava/lang/Throwable" := by
    rw [← ty_eq hsame hroot]
    rcases hl with rfl | rfl <;> rfl
  have hattached : l.dialect.attached ⊆ exceptionTexts.map (ty naming) := by
    rcases hl with rfl | rfl <;>
      simp [Dialect.attached, languageOf, sourceLanguageOf, describe, dialectOf,
        sourceDialectOf, commonDialect, exceptionTexts]
  constructor
  · rw [hthrowable]
    simp [templateOf, hierarchy]
  · intro ty hty
    obtain ⟨text, htext, rfl⟩ := List.mem_map.mp (hattached hty)
    rw [hthrowable, ty_eq hsame (hexceptions htext)]
    apply Relation.ReflTransGen.lift (ty naming') (fun _ _ => below_of_mem_hierarchy naming')
    apply throwable_of_mem_exceptionTexts text htext
  · rcases hl with rfl | rfl <;> rfl

end Jvm

/-! ### The scopes that host them -/

theorem Layout.basesEarlier_jvmSpecs (jvm source : Language) :
  BasesEarlier (jvmSpecs jvm source)
  := by
  apply (basesEarlier_concat_iff ((jvmSpecs jvm source).take 2) _).mpr
  constructor
  · apply (basesEarlier_concat_iff ((jvmSpecs jvm source).take 1) _).mpr
    use basesEarlier_singleton rfl
    simp [jvmSpecs]
  · simp [jvmSpecs]

section

variable {known : Interner} {c : Catalog} (h : c.IsBuiltin known) (hknown : known.Reached)
  (more : List String)

include h hknown

/-- The first loader of a layout hosts the template of its language, if it has the name of the
owner of the template. -/
theorem Catalog.IsBuiltin.build_hosts {layout : Layout} {first : LoaderSpec}
    {rest : List LoaderSpec}
    (hspecs : layout.mapM (spec c (known.internAll more)) = .ok (first :: rest))
    (hlanguages : ∀ spec ∈ first :: rest, spec.language ∈ c.languages)
    (hnodup : ((first :: rest).map (·.name)).Nodup) (hearlier : BasesEarlier (first :: rest))
    (hroom : (known.internAll more).HasRoom (texts (first :: rest)))
    (howner : ∀ t ∈ first.language.template, known.get? first.name = some t.ty.loader) :
  ∃ s grown, layout.build c (known.internAll more) = (.ok s, grown) ∧
    s.Hosts ⟨0⟩ first.language.template ∧ s.Indexed
  := by
  have hsound := h.sound hknown hlanguages hnodup (hknown.internAll more) hroom
  refine ⟨_, _, Layout.build_eq_ok hroom hsound hspecs hearlier, ?_, indexed_upTo _ _ _⟩
  apply hsound.hosts rfl
  · cases hbase : first.base with
    | none => rfl
    | some base => cases hearlier [] first rest base rfl hbase
  · intro t ht
    have hname := hsound.knows _ (name_mem_texts List.mem_cons_self)
    have hheld := Interner.get?_internAll (howner t ht) more
    rw [Interner.get?_internAll hheld] at hname
    apply Option.some.inj hname

/-- The scope of the ecma language hosts the template of the language. -/
theorem Catalog.IsBuiltin.exists_ecma
    (hroom : (known.internAll more).HasRoom Layout.ecma.interned) :
  ∃ l s grown ts, c.get? known Ecma.languageName = some l ∧
    Layout.ecma.build c (known.internAll more) = (.ok s, grown) ∧ l.ThrowsWithin ts ∧
    s.Hosts ⟨0⟩ ts ∧ s.Indexed
  := by
  obtain ⟨ecma, jvm, source, ⟨naming, hecma, rfl⟩, -, -, hlanguages⟩ := h.languages
  have hmem : Ecma.languageOf naming ∈ c.languages := by simp [hlanguages]
  have hget : c.get? known Ecma.languageName = some (Ecma.languageOf naming) := h.get? hmem
  have hspecs : Layout.ecma.mapM (spec c (known.internAll more))
      = .ok (ecmaSpecs (Ecma.languageOf naming)) := by
    simp [Layout.ecma, spec, Catalog.get?_internAll hget, ecmaSpecs]
  have howner : ∀ t ∈ (Ecma.languageOf naming).template,
      known.get? Ecma.loaderName = some t.ty.loader := by
    intro t ht
    rw [Ecma.loader_templateOf ht]
    apply hecma
    simp [Ecma.vocabulary, Ecma.dialectVocabulary]
  obtain ⟨s, grown, hbuild, hosts, hindexed⟩ := h.build_hosts hknown more hspecs
    (by simp [hmem]) (by simp) (basesEarlier_singleton rfl) hroom howner
  exact ⟨_, s, grown, _, hget, hbuild, Ecma.throwsWithin naming, hosts, hindexed⟩

/-- The scope of the jvm languages hosts the template of the bytecode language, within which
both languages throw. -/
theorem Catalog.IsBuiltin.exists_jvmSource
    (hroom : (known.internAll more).HasRoom Layout.jvmSource.interned) :
  ∃ jvm source s grown ts, c.get? known Jvm.languageName = some jvm ∧
    c.get? known Jvm.sourceLanguageName = some source ∧
    Layout.jvmSource.build c (known.internAll more) = (.ok s, grown) ∧
    jvm.ThrowsWithin ts ∧ source.ThrowsWithin ts ∧ s.Hosts ⟨0⟩ ts ∧ s.Indexed
  := by
  obtain ⟨ecma, jvm, source, -, ⟨naming, hjvm, rfl⟩, ⟨naming', hsource, rfl⟩, hlanguages⟩ :=
    h.languages
  have hmem : Jvm.languageOf naming ∈ c.languages := by simp [hlanguages]
  have hmem' : Jvm.sourceLanguageOf naming' ∈ c.languages := by simp [hlanguages]
  have hget : c.get? known Jvm.languageName = some (Jvm.languageOf naming) := h.get? hmem
  have hget' : c.get? known Jvm.sourceLanguageName = some (Jvm.sourceLanguageOf naming') :=
    h.get? hmem'
  have hspecs : Layout.jvmSource.mapM (spec c (known.internAll more))
      = .ok (jvmSpecs (Jvm.languageOf naming) (Jvm.sourceLanguageOf naming')) := by
    simp [Layout.jvmSource, spec, Catalog.get?_internAll hget, Catalog.get?_internAll hget',
      jvmSpecs]
    rfl
  have howner : ∀ t ∈ (Jvm.languageOf naming).template,
      known.get? Jvm.primordialLoader = some t.ty.loader := by
    intro t ht
    rw [Jvm.loader_templateOf ht]
    apply hjvm
    simp [Jvm.vocabulary, Jvm.dialectVocabulary]
  have hsame : ∀ text ∈ Jvm.vocabulary, naming' text = naming text := by
    intro text htext
    apply hsource.eq hjvm (Jvm.vocabulary_subset htext) htext
  obtain ⟨s, grown, hbuild, hosts, hindexed⟩ := h.build_hosts hknown more hspecs
    (by simp [hmem, hmem'])
    (by simp [Jvm.primordialLoader, Jvm.applicationLoader, Jvm.sourceLoader])
    (basesEarlier_jvmSpecs _ _) hroom howner
  exact ⟨_, _, s, grown, _, hget, hget', hbuild, Jvm.throwsWithin (fun _ _ => rfl) (.inl rfl),
    Jvm.throwsWithin hsame (.inr rfl), hosts, hindexed⟩

/-- The scope that hosts a built-in language has a template within which the language
throws. -/
theorem Catalog.IsBuiltin.exists_host {language : String} {layout : Layout}
    (hpreset : (language, layout) ∈ presets)
    (hroom : (known.internAll more).HasRoom layout.interned) :
  ∃ l s grown ts, c.get? known language = some l ∧
    layout.build c (known.internAll more) = (.ok s, grown) ∧ l.ThrowsWithin ts ∧
    s.Hosts ⟨0⟩ ts ∧ s.Indexed
  := by
  simp only [presets, List.mem_cons, List.not_mem_nil, or_false, Prod.mk.injEq] at hpreset
  rcases hpreset with ⟨rfl, rfl⟩ | ⟨rfl, rfl⟩ | ⟨rfl, rfl⟩
  · apply h.exists_ecma hknown more hroom
  · obtain ⟨jvm, source, s, grown, ts, hget, -, hbuild, hthrows, -, hhosted⟩ :=
      h.exists_jvmSource hknown more hroom
    exact ⟨jvm, s, grown, ts, hget, hbuild, hthrows, hhosted⟩
  · obtain ⟨jvm, source, s, grown, ts, -, hget, hbuild, -, hthrows, hhosted⟩ :=
      h.exists_jvmSource hknown more hroom
    exact ⟨source, s, grown, ts, hget, hbuild, hthrows, hhosted⟩

end

/-- The scope that hosts a built-in language can be built.  Whatever is requested of it then,
each exception of each instruction that the language builds denotes a class from which
following superclasses leads to the class of all that can be thrown.  A call raises what the
language says of its target. -/
theorem exceptions_lead_to_throwable {names known : Interner} (hnames : names.Reached)
    (hroom : names.HasRoom builtinTexts) {c : Catalog}
    (hcatalog : builtinCatalog names = (.ok c, known)) (more : List String)
    {language : String} {layout : Layout} (hpreset : (language, layout) ∈ presets)
    (htexts : (known.internAll more).HasRoom layout.interned) :
  ∃ l s grown, c.get? known language = some l ∧
    layout.build c (known.internAll more) = (.ok s, grown) ∧
    (∀ requests op i types, l.dialect.build op = .ok i → i.exceptionTypes = .ok types →
      ∀ ty ∈ types, (s.performAll requests grown).1.LeadsTo ty l.throwable) ∧
    (∀ op i results exception function params site, l.dialect.build op = .ok i →
      i.payload = .invoke results exception function params site →
      i.exceptionTypes = .ok (l.inferInvokeExceptions site.target))
  := by
  obtain ⟨hbuiltin, hknown⟩ := isBuiltin_of_builtinCatalog hnames hroom hcatalog
  obtain ⟨l, s, grown, ts, hget, hbuild, hthrows, hosts, hindexed⟩ :=
    hbuiltin.exists_host hknown more hpreset htexts
  refine ⟨l, s, grown, hget, hbuild, ?_, ?_⟩
  · intro requests op i types hop htypes ty hty
    have heditable : ∀ request ∈ requests, request.IsEdit → True := fun _ _ _ => trivial
    obtain ⟨hindexed', hgrown⟩ := hindexed.grown_performAll grown heditable
    apply hthrows.leadsTo (hosts.grown hgrown hindexed hindexed') hop htypes hty
  · intro op i results exception function params site hop hpayload
    apply hthrows.exceptionTypes_invoke hop hpayload

/-- Requests for a class of source that has the name of an exception, and for one below it. -/
def shadowedException : List Request :=
  [.edit ⟨2⟩ (.defineClass "Ljava/lang/NullPointerException" none .plain .dummy),
    .edit ⟨2⟩ (.defineClass "A" (some "Ljava/lang/NullPointerException") .plain .dummy)]

theorem exceptions_lead_to_throwable_get :
  ∃ c known l s grown i ty,
    builtinCatalog (Interner.initial .bySum) = (.ok c, known) ∧
    c.get? known Jvm.sourceLanguageName = some l ∧
    Layout.jvmSource.build c known = (.ok s, grown) ∧
    l.dialect.build (.get ⟨2⟩ ⟨1⟩ default) = .ok i ∧ i.exceptionTypes = .ok [ty] ∧
    (s.performAll shadowedException grown).1.LeadsTo ty l.throwable
  := by
  have hnames : (Interner.initial .bySum).Reached := ⟨.bySum, [], rfl⟩
  have hlong : (builtinTexts ++ Layout.jvmSource.interned).length < Name.maxPosition := by
    decide +kernel
  obtain ⟨c, known, hroom, hcatalog, hbuiltin, htexts⟩ :=
    exists_builtinCatalog_initial .bySum hlong
  obtain ⟨ecma, jvm, source, -, -, ⟨naming, -, rfl⟩, hlanguages⟩ := hbuiltin.languages
  have hmem : Jvm.sourceLanguageOf naming ∈ c.languages := by simp [hlanguages]
  have hpreset : (Jvm.sourceLanguageName, Layout.jvmSource) ∈ presets := by simp [presets]
  obtain ⟨l, s, grown, hget, hbuild, hleads, -⟩ :=
    exceptions_lead_to_throwable hnames hroom hcatalog [] hpreset htexts
  obtain rfl : Jvm.sourceLanguageOf naming = l :=
    Option.some.inj ((hbuiltin.get? hmem).symm.trans hget)
  obtain ⟨i, hi⟩ : ∃ i, (Jvm.sourceLanguageOf naming).dialect.build (.get ⟨2⟩ ⟨1⟩ default)
      = .ok i := ⟨_, rfl⟩
  obtain ⟨ty, htypes⟩ : ∃ ty, i.exceptionTypes = .ok [ty] := by
    cases hi
    exact ⟨_, rfl⟩
  refine ⟨c, known, _, s, grown, i, ty, hcatalog, hget, hbuild, hi, htypes, ?_⟩
  apply hleads shadowedException _ i _ hi htypes ty List.mem_cons_self

end DialectIR
