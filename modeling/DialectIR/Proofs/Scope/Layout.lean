import DialectIR.Builtin.Layout
import DialectIR.Proofs.Directory
import DialectIR.Proofs.Interner.Vocabulary
import DialectIR.Proofs.Registry.Foundation
import DialectIR.Proofs.Scope.Confluence

/-!
# Layouts

Loaders of distinct names are added to an empty scope in order, and then initialized in
order.  If the template of the language of each is founded for the name of the loader, then
the classes of a loader need no other loader, and nothing but its base can keep it from being
initialized.  So the loaders are initialized one after the other, up to the first whose base
does not come before it.
-/

namespace DialectIR

open ClassTemplate

/-- The texts that adding a loader interns. -/
def LoaderSpec.texts (spec : LoaderSpec) : List String := spec.name :: spec.base.toList

/-- A loader as it is added when its name and that of its base have names under a naming. -/
def LoaderSpec.loader (naming : String → Name) (spec : LoaderSpec) : Loader where
  name := naming spec.name
  language := spec.language
  base := spec.base.map naming
  registry := .empty (naming spec.name) spec.synthetic
  initialized := false

/-- The scope of loaders as they are added. -/
def Scope.ofSpecs (naming : String → Name) (specs : List LoaderSpec) : Scope where
  loaders := (specs.map (·.loader naming)).toArray
  index := directory (fun spec : LoaderSpec => naming spec.name) LoaderHandle.mk specs

/-- The scope of loaders of which the first ones were initialized. -/
def Scope.upTo (naming : String → Name) (specs : List LoaderSpec) (count : Nat) : Scope :=
  (Scope.ofSpecs naming specs).complete (·.index < count)

namespace Layout

/-- The texts that adding loaders interns. -/
def texts (specs : List LoaderSpec) : List String := specs.flatMap (·.texts)

/-- Each base that a loader of a list declares is the name of one before it. -/
def BasesEarlier (specs : List LoaderSpec) : Prop :=
  ∀ before spec after base, specs = before ++ spec :: after → spec.base = some base →
    base ∈ before.map (·.name)

/-- The first loader of a list whose base is not the name of one before it. -/
structure Breaks (specs before : List LoaderSpec) (spec : LoaderSpec) (base : String) :
    Prop where
  split : ∃ after, specs = before ++ spec :: after
  earlier : BasesEarlier before
  declared : spec.base = some base
  missing : base ∉ before.map (·.name)

/-- What is reported of a loader whose base is not the name of one before it: that the base is
not initialized, if there is a loader of that name, and that it is unknown, if not. -/
def baseFault (specs : List LoaderSpec) (base : String) (loader missing : Name) : ScopeError :=
  if base ∈ specs.map (·.name) then .uninitializedBaseLoader loader missing
  else .unknownBase missing

/-- The interner knows the names of a list of loaders and of their bases, the loaders have
distinct names, and the templates of their languages are founded for these. -/
structure Sound (names : Interner) (naming : String → Name) (specs : List LoaderSpec) :
    Prop where
  reached : names.Reached
  knows : names.Knows naming (texts specs)
  nodup : (specs.map (·.name)).Nodup
  founded : ∀ spec ∈ specs, Founded (spec.language.templateOf (naming spec.name))

/-- What initializing the loaders of a list in order comes to.  It succeeds, and initializes
all of them, exactly if each base that is declared is the name of a loader before it.
Otherwise the first loader of which this fails is reported, and those before it are
initialized. -/
structure Outcome (names : Interner) (specs : List LoaderSpec) (s : Scope)
    (answer : Except ScopeError Unit) : Prop where
  position {i : Nat} {spec : LoaderSpec} (hspec : specs[i]? = some spec) :
    s.getLoader names spec.name = .ok ⟨i⟩
  succeeds : answer = .ok () ↔ BasesEarlier specs
  all (hdone : answer = .ok ()) (h : LoaderHandle) : s.isInitialized h ↔ h.index < specs.length
  breaks (hfailed : answer ≠ .ok ()) : ∃ before spec base, Breaks specs before spec base
  reported {before : List LoaderSpec} {spec : LoaderSpec} {base : String}
    (hbreaks : Breaks specs before spec base) :
    ∃ loader missing, names.lookup? loader = some spec.name ∧
      names.lookup? missing = some base ∧
      answer = .error (baseFault specs base loader missing)
  initialized {before : List LoaderSpec} {spec : LoaderSpec} {base : String}
    (hbreaks : Breaks specs before spec base) (h : LoaderHandle) :
    s.isInitialized h ↔ h.index < before.length
  noRegistry (e : RegistryError) : answer ≠ .error (.registry e)

/-! ### Bases that come before -/

theorem baseFault_ne_registry {specs : List LoaderSpec} {base : String}
    {loader missing : Name} {e : RegistryError} :
  baseFault specs base loader missing ≠ .registry e
  := by
  unfold baseFault
  split
  · simp
  · simp

theorem basesEarlier_nil :
  BasesEarlier []
  := by
  intro before spec after base hsplit
  simp at hsplit

theorem basesEarlier_concat_iff (before : List LoaderSpec) (spec : LoaderSpec) :
  BasesEarlier (before ++ [spec]) ↔ BasesEarlier before ∧
    ∀ base, spec.base = some base → base ∈ before.map (·.name)
  := by
  constructor
  · intro h
    constructor
    · rintro first other rest base rfl
      apply h first other (rest ++ [spec])
      simp
    · intro base
      apply h before spec [] base rfl
  · rintro ⟨hbefore, hlast⟩ first other rest base hsplit hbase
    rcases List.eq_nil_or_concat rest with rfl | ⟨rest, last, rfl⟩
    · obtain ⟨rfl, hsame⟩ := List.append_inj' hsplit rfl
      obtain rfl : spec = other := List.head_eq_of_cons_eq hsame
      apply hlast base hbase
    · rw [List.concat_eq_append, ← List.cons_append, ← List.append_assoc] at hsplit
      obtain ⟨rfl, -⟩ := List.append_inj' hsplit rfl
      apply hbefore first other rest base rfl hbase

theorem basesEarlier_singleton {spec : LoaderSpec} (h : spec.base = none) :
  BasesEarlier [spec]
  := by
  apply (basesEarlier_concat_iff [] spec).mpr
  simp [basesEarlier_nil, h]

/-- Where not all bases come before, there is a first loader whose base does not. -/
theorem basesEarlier_or_breaks (specs : List LoaderSpec) :
  BasesEarlier specs ∨ ∃ before spec base, Breaks specs before spec base
  := by
  induction specs using List.reverseRecOn with
  | nil =>
      left
      apply basesEarlier_nil
  | append_singleton specs last ih =>
      rcases ih with hspecs | ⟨before, spec, base, ⟨after, rfl⟩, hbefore, hbase, hmissing⟩
      · by_cases hlast : ∀ base, last.base = some base → base ∈ specs.map (·.name)
        · left
          apply (basesEarlier_concat_iff specs last).mpr ⟨hspecs, hlast⟩
        · right
          push Not at hlast
          obtain ⟨base, hbase, hmissing⟩ := hlast
          exact ⟨specs, last, base, ⟨[], rfl⟩, hspecs, hbase, hmissing⟩
      · right
        use before, spec, base
        exact ⟨⟨after ++ [last], by simp⟩, hbefore, hbase, hmissing⟩

theorem Breaks.mem {specs before : List LoaderSpec} {spec : LoaderSpec} {base : String}
    (h : Breaks specs before spec base) :
  spec ∈ specs
  := by
  obtain ⟨after, rfl⟩ := h.split
  simp

theorem Breaks.length_le {specs before : List LoaderSpec} {spec : LoaderSpec} {base : String}
    (h : Breaks specs before spec base) :
  before.length ≤ specs.length
  := by
  obtain ⟨after, rfl⟩ := h.split
  simp

end Layout

/-! ### Adding loaders -/

namespace Scope

open Layout

theorem size_ofSpecs (naming : String → Name) (specs : List LoaderSpec) :
  (ofSpecs naming specs).size = specs.length
  := by
  simp [size, ofSpecs]

theorem ofSpecs_concat (naming : String → Name) (before : List LoaderSpec)
    (spec : LoaderSpec) :
  ofSpecs naming (before ++ [spec]) = (ofSpecs naming before).push (spec.loader naming)
  := by
  simp [ofSpecs, push, directory_concat, size, LoaderSpec.loader]

theorem loader?_ofSpecs (naming : String → Name) (specs : List LoaderSpec)
    (h : LoaderHandle) :
  (ofSpecs naming specs).loader? h = (specs[h.index]?).map (·.loader naming)
  := by
  simp [loader?, ofSpecs]

/-- A loader of a new name is added at the end. -/
theorem addLanguage_ofSpecs {naming : String → Name} {before : List LoaderSpec}
    {spec : LoaderSpec} {names : Interner} (hroom : names.HasRoom spec.texts)
    (hknows : (names.internAll spec.texts).Knows naming spec.texts)
    (hnew : naming spec.name ∉ before.map fun spec => naming spec.name) :
  (ofSpecs naming before).addLanguage spec names
    = ((ofSpecs naming (before ++ [spec]), .ok ⟨before.length⟩), names.internAll spec.texts)
  := by
  have hname := hroom.intern_eq hknows List.mem_cons_self
  have hfree : (ofSpecs naming before).handle? (naming spec.name) = none :=
    lookup_directory_eq_none hnew
  obtain ⟨-, hrest⟩ := Interner.hasRoom_cons_iff.mp hroom
  have hpushed : (ofSpecs naming before).push (spec.loader naming)
      = ofSpecs naming (before ++ [spec]) := (ofSpecs_concat naming before spec).symm
  rw [addLanguage, InternM.bind_apply, InternM.intern_apply, hname, ← hpushed,
    ← size_ofSpecs naming before]
  simp only [hfree]
  rcases spec with ⟨name, language, base?, synthetic⟩
  cases base? with
  | none => rfl
  | some base =>
      have hbase := Interner.HasRoom.intern_eq hrest
        (hknows.mono (List.subset_cons_self name [base])) List.mem_cons_self
      simp only [InternM.bind_apply, InternM.intern_apply, hbase]
      rfl

/-- Loaders are added in order if the interner has room for their texts and knows them
apart. -/
theorem addEach_ofSpecs {naming : String → Name} (before : List LoaderSpec)
    {specs : List LoaderSpec} {names : Interner} (hroom : names.HasRoom (texts specs))
    (hknows : (names.internAll (texts specs)).Knows naming (texts specs))
    (hnodup : ((before ++ specs).map fun spec => naming spec.name).Nodup) :
  addEach (ofSpecs naming before) specs names
    = (.ok (ofSpecs naming (before ++ specs)), names.internAll (texts specs))
  := by
  induction specs generalizing before names with
  | nil =>
      rw [List.append_nil]
      rfl
  | cons spec rest ih =>
      rw [texts, List.flatMap_cons] at hroom hknows ⊢
      rw [Interner.internAll_append] at hknows ⊢
      obtain ⟨hfirst, hrest⟩ := Interner.hasRoom_append_iff.mp hroom
      have hnew : naming spec.name ∉ before.map fun spec => naming spec.name := by
        rw [List.map_append, List.nodup_append] at hnodup
        intro hmem
        apply hnodup.2.2 _ hmem _ List.mem_cons_self rfl
      have hspec := hfirst.knows_of_internAll (hknows.mono (List.subset_append_left _ _))
      have hadded := ih (before ++ [spec]) hrest
        (hknows.mono (List.subset_append_right _ _)) (by rwa [← List.append_cons])
      rw [← List.append_cons] at hadded
      rw [addEach, InternM.bind_apply, addLanguage_ofSpecs hfirst hspec hnew]
      apply hadded

/-! ### Loaders that were added -/

theorem upTo_zero (naming : String → Name) (specs : List LoaderSpec) :
  upTo naming specs 0 = ofSpecs naming specs
  := by
  apply ext_loader?
  · rfl
  · intro h
    rw [upTo, loader?_complete]
    simp

/-- The loader after the first ones is as it was added. -/
theorem loader?_upTo_length (naming : String → Name) (before : List LoaderSpec)
    (spec : LoaderSpec) (after : List LoaderSpec) :
  (upTo naming (before ++ spec :: after) before.length).loader? ⟨before.length⟩
    = some (spec.loader naming)
  := by
  simp [upTo, loader?_complete, loader?_ofSpecs]

/-- With the loader after the first ones initialized, one more of them is. -/
theorem replace_upTo_length (naming : String → Name) (before : List LoaderSpec)
    (spec : LoaderSpec) (after : List LoaderSpec) :
  (upTo naming (before ++ spec :: after) before.length).replace ⟨before.length⟩
      (spec.loader naming).bootstrapped
    = upTo naming (before ++ spec :: after) (before.length + 1)
  := by
  apply ext_loader?
  · rfl
  · intro o
    rw [loader?_replace (loader?_upTo_length naming before spec after)]
    split
    · rename_i hsame
      simp [hsame, upTo, loader?_complete, loader?_ofSpecs]
    · rename_i hne
      have hindex : o.index ≠ before.length := by
        rintro hindex
        apply hne
        rw [← hindex]
      have hsame : o.index < before.length + 1 ↔ o.index < before.length := by omega
      simp only [upTo, loader?_complete, hsame]

/-- The superclasses of the classes of a registry that contains all they need are resolved,
whatever other loaders there are. -/
theorem exists_resolveSuperclass_of_selfContained {s : Scope} {h : LoaderHandle} {l : Loader}
    (hl : s.loader? h = some l) (hself : l.registry.SelfContained) {id : ClassId} {c : Class}
    (hc : l.registry.class? id = some c) :
  ∃ answer, s.resolveSuperclass h id = .ok answer
  := by
  obtain ⟨answer, hanswer⟩ := hself.resolvable hc
  rw [resolveSuperclass]
  simp only [hl, hanswer, hc]
  cases answer with
  | some superclass => exact ⟨_, rfl⟩
  | none =>
      use none
      cases hsuper : c.superclass with
      | none => rfl
      | some superclass => exact if_pos (hself.within hc hsuper)

theorem isInitialized_upTo {naming : String → Name} {specs : List LoaderSpec} {count : Nat}
    (hcount : count ≤ specs.length) (h : LoaderHandle) :
  (upTo naming specs count).isInitialized h = decide (h.index < count)
  := by
  rw [isInitialized, upTo, loader?_complete, loader?_ofSpecs]
  by_cases hlt : h.index < count
  · rw [List.getElem?_eq_getElem (Nat.lt_of_lt_of_le hlt hcount)]
    simp [hlt, Loader.bootstrapped]
  · cases specs[h.index]? with
    | none => simp [hlt]
    | some spec => simp [hlt, LoaderSpec.loader]

end Scope

/-! ### Bases of loaders -/

namespace Layout

open Scope

theorem name_mem_texts {specs : List LoaderSpec} {spec : LoaderSpec} (hspec : spec ∈ specs) :
  spec.name ∈ texts specs
  := by
  apply List.mem_flatMap.mpr
  use spec, hspec
  apply List.mem_cons_self

theorem base_mem_texts {specs : List LoaderSpec} {spec : LoaderSpec} (hspec : spec ∈ specs)
    {base : String} (hbase : spec.base = some base) :
  base ∈ texts specs
  := by
  apply List.mem_flatMap.mpr
  use spec, hspec
  simp [LoaderSpec.texts, hbase]

section

variable {names : Interner} {naming : String → Name} {specs : List LoaderSpec}
  (h : Sound names naming specs)

include h

theorem Sound.nodup_naming :
  (specs.map fun spec => naming spec.name).Nodup
  := by
  have hnames : specs.map (·.name) ⊆ texts specs := by
    intro text htext
    obtain ⟨spec, hspec, rfl⟩ := List.mem_map.mp htext
    apply name_mem_texts hspec
  have hdistinct := h.knows.nodup_map h.reached hnames h.nodup
  rw [List.map_map] at hdistinct
  apply hdistinct

/-- The name of a loader leads to its position. -/
theorem Sound.handle?_eq_some {i : Nat} {spec : LoaderSpec} (hspec : specs[i]? = some spec)
    (count : Nat) :
  (upTo naming specs count).handle? (naming spec.name) = some ⟨i⟩
  := lookup_directory_eq_some h.nodup_naming hspec

theorem Sound.getLoader_upTo {i : Nat} {spec : LoaderSpec} (hspec : specs[i]? = some spec)
    (count : Nat) :
  (upTo naming specs count).getLoader names spec.name = .ok ⟨i⟩
  := by
  have htext := name_mem_texts (List.mem_of_getElem? hspec)
  rw [getLoader, h.knows _ htext, Option.bind_some, h.handle?_eq_some hspec]

/-- The name of a base that is not among the loaders leads nowhere. -/
theorem Sound.handle?_eq_none {base : String} (hbase : base ∈ texts specs)
    (hmissing : base ∉ specs.map (·.name)) (count : Nat) :
  (upTo naming specs count).handle? (naming base) = none
  := by
  apply lookup_directory_eq_none
  intro hmem
  obtain ⟨spec, hspec, hsame⟩ := List.mem_map.mp hmem
  apply hmissing
  rw [← h.knows.injective h.reached (name_mem_texts hspec) hbase hsame]
  apply List.mem_map_of_mem hspec

end

section

variable {names : Interner} {naming : String → Name} {before : List LoaderSpec}
  {spec : LoaderSpec} {after : List LoaderSpec}
  (h : Sound names naming (before ++ spec :: after))

include h

/-- A base that comes before does not keep a loader from being initialized after those
before it. -/
theorem Sound.baseError?_eq_none
    (hbase : ∀ base, spec.base = some base → base ∈ before.map (·.name)) :
  (upTo naming (before ++ spec :: after) before.length).baseError? (spec.loader naming) = none
  := by
  rw [baseError?, LoaderSpec.loader]
  cases hdeclared : spec.base with
  | none => rfl
  | some base =>
      obtain ⟨other, hother, rfl⟩ := List.mem_map.mp (hbase base hdeclared)
      obtain ⟨i, hi⟩ := List.mem_iff_getElem?.mp hother
      obtain ⟨hlt, -⟩ := List.getElem?_eq_some_iff.mp hi
      have hplace : (before ++ spec :: after)[i]? = some other := by
        rw [List.getElem?_append_left hlt, hi]
      have hcount : before.length ≤ (before ++ spec :: after).length := by simp
      simp only [Option.map_some, h.handle?_eq_some hplace, isInitialized_upTo hcount,
        decide_eq_true hlt, if_true]

/-- A base that does not come before keeps a loader from being initialized after those before
it, as it is not initialized or not part of the scope. -/
theorem Sound.baseError?_eq_some {base : String} (hdeclared : spec.base = some base)
    (hmissing : base ∉ before.map (·.name)) :
  (upTo naming (before ++ spec :: after) before.length).baseError? (spec.loader naming)
    = some (baseFault (before ++ spec :: after) base (naming spec.name) (naming base))
  := by
  rw [baseError?, LoaderSpec.loader, hdeclared, Option.map_some, baseFault]
  by_cases hmem : base ∈ (before ++ spec :: after).map (·.name)
  · obtain ⟨other, hother, rfl⟩ := List.mem_map.mp hmem
    obtain ⟨i, hi⟩ := List.mem_iff_getElem?.mp hother
    have hlate : ¬ i < before.length := by
      intro hlt
      rw [List.getElem?_append_left hlt] at hi
      apply hmissing (List.mem_map_of_mem (List.mem_of_getElem? hi))
    have hcount : before.length ≤ (before ++ spec :: after).length := by simp
    simp only [h.handle?_eq_some hi, isInitialized_upTo hcount, decide_eq_false hlate,
      Bool.false_eq_true, if_false, if_pos hmem]
  · have hbase : base ∈ texts (before ++ spec :: after) := base_mem_texts (by simp) hdeclared
    simp only [h.handle?_eq_none hbase hmem, if_neg hmem]

/-- A loader whose base comes before it can be initialized after those before it. -/
theorem Sound.ready
    (hbase : ∀ base, spec.base = some base → base ∈ before.map (·.name)) :
  ∃ started, (upTo naming (before ++ spec :: after) before.length).Ready ⟨before.length⟩
    (spec.loader naming) started
  := by
  have hl := loader?_upTo_length naming before spec after
  obtain ⟨started, hstarted, -, hself⟩ :=
    Registry.defineTemplate_empty_of_founded (h.founded spec (by simp)) spec.synthetic
  use started
  constructor
  · apply hl
  · rfl
  · apply h.baseError?_eq_none hbase
  · apply hstarted
  · have hfilled : ((upTo naming (before ++ spec :: after) before.length).setRegistry
        ⟨before.length⟩ started).loader? ⟨before.length⟩
          = some { spec.loader naming with registry := started } := by
      rw [setRegistry_eq_replace hl, loader?_replace hl, if_pos rfl]
    apply unresolved?_eq_none_iff.mpr
    intro id c hc
    apply exists_resolveSuperclass_of_selfContained hfilled hself hc

/-- A loader whose base comes before it is initialized after those before it. -/
theorem Sound.initializeLoader_upTo
    (hbase : ∀ base, spec.base = some base → base ∈ before.map (·.name)) (names' : Interner) :
  (upTo naming (before ++ spec :: after) before.length).initializeLoader names'
      ⟨before.length⟩
    = (upTo naming (before ++ spec :: after) (before.length + 1), .ok ())
  := by
  obtain ⟨started, hready⟩ := h.ready hbase
  rw [hready.initializeLoader, replace_upTo_length]

/-- A loader whose base does not come before it is not initialized after those before it. -/
theorem Sound.initializeLoader_upTo_error {base : String} (hdeclared : spec.base = some base)
    (hmissing : base ∉ before.map (·.name)) (names' : Interner) :
  (upTo naming (before ++ spec :: after) before.length).initializeLoader names'
      ⟨before.length⟩
    = (upTo naming (before ++ spec :: after) before.length,
        .error (baseFault (before ++ spec :: after) base (naming spec.name) (naming base)))
  := by
  have hnew : (spec.loader naming).initialized = false := rfl
  rw [initializeLoader, loader?_upTo_length]
  simp only [hnew, Bool.false_eq_true, if_false, h.baseError?_eq_some hdeclared hmissing]

end

/-! ### Runs -/

section

variable {names : Interner} {naming : String → Name}

/-- The first loaders are initialized one after the other if their bases come before them;
the others are then left. -/
theorem Sound.initializeAll_ofSpecs {before after : List LoaderSpec}
    (h : Sound names naming (before ++ after)) (hearlier : BasesEarlier before)
    (names' : Interner) :
  (ofSpecs naming (before ++ after)).initializeAll names'
    = (upTo naming (before ++ after) before.length).initializeEach names'
        ((List.range' before.length after.length).map LoaderHandle.mk)
  := by
  induction before using List.reverseRecOn generalizing after with
  | nil =>
      rw [List.length_nil, upTo_zero, initializeAll, handles, size_ofSpecs,
        List.range_eq_range']
      rfl
  | append_singleton before spec ih =>
      obtain ⟨hbefore, hlast⟩ := (basesEarlier_concat_iff before spec).mp hearlier
      rw [← List.append_cons] at h ⊢
      rw [ih h hbefore, List.length_cons, List.range'_succ, List.map_cons, initializeEach,
        h.initializeLoader_upTo hlast, List.length_append, List.length_singleton]

/-- All loaders are initialized if their bases come before them. -/
theorem Sound.initializeAll_eq_ok {specs : List LoaderSpec} (h : Sound names naming specs)
    (hearlier : BasesEarlier specs) (names' : Interner) :
  (ofSpecs naming specs).initializeAll names' = (upTo naming specs specs.length, .ok ())
  := by
  rw [← List.append_nil specs] at h
  have hrun := h.initializeAll_ofSpecs hearlier names'
  rw [List.append_nil] at hrun
  apply hrun

/-- The loaders are initialized up to the first whose base does not come before it. -/
theorem Sound.initializeAll_eq_error {specs before : List LoaderSpec} {spec : LoaderSpec}
    {base : String} (h : Sound names naming specs) (hbreaks : Breaks specs before spec base)
    (names' : Interner) :
  (ofSpecs naming specs).initializeAll names'
    = (upTo naming specs before.length,
        .error (baseFault specs base (naming spec.name) (naming base)))
  := by
  obtain ⟨⟨after, rfl⟩, hearlier, hdeclared, hmissing⟩ := hbreaks
  rw [h.initializeAll_ofSpecs hearlier, List.length_cons, List.range'_succ, List.map_cons,
    initializeEach, h.initializeLoader_upTo_error hdeclared hmissing]

/-- What initializing sound loaders comes to. -/
theorem Sound.outcome {specs : List LoaderSpec} (h : Sound names naming specs) {s : Scope}
    {answer : Except ScopeError Unit}
    (hrun : (ofSpecs naming specs).initializeAll names = (s, answer)) :
  Outcome names specs s answer
  := by
  have hdone : BasesEarlier specs → s = upTo naming specs specs.length ∧ answer = .ok () := by
    intro hearlier
    apply Prod.mk.inj
    rw [← hrun, h.initializeAll_eq_ok hearlier]
  have hfailed : ∀ {before spec base}, Breaks specs before spec base →
      s = upTo naming specs before.length ∧
        answer = .error (baseFault specs base (naming spec.name) (naming base)) := by
    intro before spec base hbreaks
    apply Prod.mk.inj
    rw [← hrun, h.initializeAll_eq_error hbreaks]
  have hsucceeds : answer = .ok () ↔ BasesEarlier specs := by
    constructor
    · intro hok
      rcases basesEarlier_or_breaks specs with hearlier | ⟨before, spec, base, hbreaks⟩
      · apply hearlier
      · rw [(hfailed hbreaks).2] at hok
        cases hok
    · intro hearlier
      apply (hdone hearlier).2
  have hbreaks : answer ≠ .ok () → ∃ before spec base, Breaks specs before spec base := by
    intro hnot
    apply (basesEarlier_or_breaks specs).resolve_left
    rw [← hsucceeds]
    apply hnot
  constructor
  · intro i spec hspec
    obtain ⟨count, rfl⟩ : ∃ count, s = upTo naming specs count := by
      rcases basesEarlier_or_breaks specs with hearlier | ⟨before, spec, base, hbreaks⟩
      · exact ⟨_, (hdone hearlier).1⟩
      · exact ⟨_, (hfailed hbreaks).1⟩
    apply h.getLoader_upTo hspec
  · apply hsucceeds
  · intro hok o
    rw [(hdone (hsucceeds.mp hok)).1, isInitialized_upTo (Nat.le_refl _), decide_eq_true_iff]
  · apply hbreaks
  · intro before spec base hbreaks
    have hspec := hbreaks.mem
    have hname := h.knows _ (name_mem_texts hspec)
    have hbase := h.knows _ (base_mem_texts hspec hbreaks.declared)
    use naming spec.name, naming base
    use h.reached.lookup?_eq_some_iff.mpr hname
    use h.reached.lookup?_eq_some_iff.mpr hbase
    apply (hfailed hbreaks).2
  · intro before spec base hbreaks o
    rw [(hfailed hbreaks).1, isInitialized_upTo hbreaks.length_le, decide_eq_true_iff]
  · intro e he
    obtain ⟨before, spec, base, hbreaks⟩ := hbreaks (by simp [he])
    rw [(hfailed hbreaks).2] at he
    apply baseFault_ne_registry (Except.error.inj he)

end

/-! ### Layouts that are built -/

section

variable {names : Interner} {specs : List LoaderSpec} (hroom : names.HasRoom (texts specs))
  (h : Sound (names.internAll (texts specs)) (names.internAll (texts specs)).naming specs)

include hroom h

/-- Sound loaders are added to an empty scope. -/
theorem Sound.addEach :
  Layout.addEach {} specs names
    = (.ok (ofSpecs (names.internAll (texts specs)).naming specs),
        names.internAll (texts specs))
  := addEach_ofSpecs [] hroom h.knows h.nodup_naming

/-- A layout of languages of the catalog is built if its bases come before. -/
theorem build_eq_ok {layout : Layout} {c : Catalog}
    (hspecs : layout.mapM (spec c names) = .ok specs) (hearlier : BasesEarlier specs) :
  layout.build c names
    = (.ok (upTo (names.internAll (texts specs)).naming specs specs.length),
        names.internAll (texts specs))
  := by
  have hadded := h.addEach hroom
  have hdone := h.initializeAll_eq_ok hearlier (names.internAll (texts specs))
  rw [build, InternM.bind_apply, InternM.get_apply]
  simp only [hspecs, InternM.bind_apply, hadded, InternM.get_apply, hdone]
  rfl

end

end Layout

end DialectIR
