import DialectIR.Proofs.Scope.Delegation
import Mathlib.Logic.Relation

/-!
# Names and bases of loaders

The names of the loaders of a scope are those which additions brought in, each with the
position that the addition answered.

A loader names its base, which may be added later or never, and may depend on the loader in
turn.  But it is initialized only after its base.  So the bases of an initialized loader
were initialized one before the other, and they end at a loader that names none.
-/

namespace DialectIR.Scope

/-! ### Additions -/

/-- The text and the position of the loader that a request adds. -/
def addition (s : Scope) (names : Interner) : Request → List (String × LoaderHandle)
  | .addLanguage spec =>
    match (s.addLanguage spec names).1.2 with
    | .ok h => [(spec.name, h)]
    | .error _ => []
  | _ => []

/-- The texts and positions of the loaders that are added in a run. -/
def additions (s : Scope) (names : Interner) :
    List Request → List (String × LoaderHandle)
  | [] => []
  | request :: rest =>
    s.addition names request ++
      (s.perform request names).1.additions (s.perform request names).2 rest

/-- The names of a scope are those of the listed loaders. -/
structure Booked (names : Interner) (s : Scope) (added : List (String × LoaderHandle)) :
    Prop where
  held {text : String} {h : LoaderHandle} (hadded : (text, h) ∈ added) :
    ∃ n, names.get? text = some n ∧ s.handle? n = some h
  complete {n : Name} {h : LoaderHandle} (hn : s.handle? n = some h) :
    ∃ text, (text, h) ∈ added ∧ names.get? text = some n

theorem booked_nil (names : Interner) :
  Booked names {} []
  := by
  constructor
  · intro text h hadded
    cases hadded
  · intro n h hn
    simp [handle?] at hn

theorem Booked.internAll {names : Interner} {s : Scope}
    {added : List (String × LoaderHandle)} (hs : Booked names s added)
    (texts : List String) :
  Booked (names.internAll texts) s added
  := by
  constructor
  · intro text h hadded
    obtain ⟨n, hn, hhandle⟩ := hs.held hadded
    use n, Interner.get?_internAll hn texts
  · intro n h hn
    obtain ⟨text, hadded, hheld⟩ := hs.complete hn
    use text, hadded
    apply Interner.get?_internAll hheld

theorem Booked.sameIndex {names : Interner} {s t : Scope}
    {added : List (String × LoaderHandle)} (hs : Booked names s added)
    (hindex : t.index = s.index) :
  Booked names t added
  := by
  have hsame : t.handle? = s.handle? := by
    funext n
    rw [handle?, hindex]
    rfl
  constructor
  · intro text h hadded
    rw [hsame]
    apply hs.held hadded
  · intro n h hn
    rw [hsame] at hn
    apply hs.complete hn

theorem Booked.push {names : Interner} {s : Scope} {added : List (String × LoaderHandle)}
    (hs : Booked names s added) {l : Loader} (hname : s.handle? l.name = none)
    {text : String} (htext : names.get? text = some l.name) :
  Booked names (s.push l) (added ++ [(text, ⟨s.size⟩)])
  := by
  have hnew : (s.push l).handle? l.name = some ⟨s.size⟩ := by simp [handle?, Scope.push]
  constructor
  · intro text' h hadded
    rcases List.mem_append.mp hadded with hold | hlast
    · obtain ⟨n, hn, hhandle⟩ := hs.held hold
      use n, hn
      apply (extends_push hname).handle hhandle
    · cases List.mem_singleton.mp hlast
      use l.name, htext
  · intro n h hn
    by_cases hsame : n = l.name
    · subst hsame
      rw [hnew] at hn
      cases hn
      use text, List.mem_append_right added List.mem_cons_self
    · simp only [handle?, Scope.push, List.lookup_cons, beq_false_of_ne hsame] at hn
      obtain ⟨text', hadded, hheld⟩ := hs.complete hn
      use text', List.mem_append_left _ hadded

/-- Attempts to initialize a loader bring in no names. -/
theorem Attempt.index {names : Interner} {s t : Scope} {h : LoaderHandle}
    (ht : Attempt names s h t) :
  t.index = s.index
  := by
  cases ht with
  | keep => rfl
  | failed => rfl
  | done => rfl

/-- Only additions bring in names. -/
theorem index_perform (s : Scope) (names : Interner) {request : Request}
    (hnot : ∀ spec, request ≠ .addLanguage spec) :
  (s.perform request names).1.index = s.index
  := by
  cases request with
  | addLanguage spec => cases hnot spec rfl
  | initializeLoader h => apply (s.attempt_initializeLoader names h).index
  | initializeAll =>
      apply initializeEach_induct (P := fun _ t => t.index = s.index) _ rfl
      · intro _ t h ht
        rw [(t.attempt_initializeLoader names h).index, ht]
      · exact []
  | edit h request =>
      change (s.edit h request names).1.index = s.index
      unfold edit
      cases s.loader? h with
      | none => rfl
      | some l => rfl
  | intern text => rfl

theorem interned_addLanguage (s : Scope) (names : Interner) (spec : LoaderSpec) :
  ∃ texts, (s.addLanguage spec names).2 = (names.intern spec.name).2.internAll texts
  := by
  rw [addLanguage, InternM.bind_apply, InternM.intern_apply]
  cases (names.tryIntern spec.name).1 with
  | error e => use []; rfl
  | ok n =>
      cases hn : s.handle? n with
      | some h => simp only [hn]; use []; rfl
      | none =>
          simp only [hn]
          cases spec.base with
          | none => use []; rfl
          | some base =>
              use [base]
              simp only [InternM.bind_apply, InternM.intern_apply]
              cases ((names.tryIntern spec.name).2.tryIntern base).1 with
              | error e => rfl
              | ok b => rfl

/-- A request changes the interner by interning texts only. -/
theorem interned_perform (s : Scope) (names : Interner) (request : Request) :
  ∃ texts, (s.perform request names).2 = names.internAll texts
  := by
  cases request with
  | addLanguage spec =>
      obtain ⟨texts, htexts⟩ := s.interned_addLanguage names spec
      use spec.name :: texts, htexts
  | initializeLoader h => use []; rfl
  | initializeAll => use []; rfl
  | edit h request =>
      change ∃ texts, (s.edit h request names).2 = names.internAll texts
      unfold edit
      cases s.loader? h with
      | none => use []; rfl
      | some l => apply l.registry.interned_perform names request
  | intern text => use [text]; rfl

/-- A request adds the names that its addition lists. -/
theorem Booked.perform {names : Interner} {s : Scope} {added : List (String × LoaderHandle)}
    (hs : Booked names s added) (request : Request) :
  Booked (s.perform request names).2 (s.perform request names).1
    (added ++ s.addition names request)
  := by
  obtain ⟨texts, htexts⟩ := s.interned_perform names request
  by_cases hadds : ∃ spec, request = .addLanguage spec
  · obtain ⟨spec, rfl⟩ := hadds
    rcases s.addLanguage_cases names spec with ⟨e, he⟩ | ⟨l, -, hlname, hname, hadded⟩
    · have hsame : (s.perform (.addLanguage spec) names).1 = s := by
        change (s.addLanguage spec names).1.1 = s
        rw [he]
      rw [htexts, hsame, addition, he, List.append_nil]
      apply hs.internAll
    · have hgrown : (s.perform (.addLanguage spec) names).1 = s.push l := by
        change (s.addLanguage spec names).1.1 = s.push l
        rw [hadded]
      obtain ⟨more, hmore⟩ := s.interned_addLanguage names spec
      have hheld := Interner.get?_intern_of_tryIntern hlname
      change Booked (s.addLanguage spec names).2 _ _
      rw [hmore, hgrown, addition, hadded]
      apply Booked.internAll
      apply (hs.internAll [spec.name]).push hname hheld
  · have hindex : (s.perform request names).1.index = s.index := by
      apply s.index_perform names
      intro spec hspec
      apply hadds ⟨spec, hspec⟩
    have hnone : s.addition names request = [] := by
      cases request with
      | addLanguage spec => cases hadds ⟨spec, rfl⟩
      | _ => rfl
    rw [htexts, hnone, List.append_nil]
    apply (hs.internAll texts).sameIndex hindex

/-- The names of a scope are those of the loaders that were added in the run. -/
theorem Booked.performAll {names : Interner} {s : Scope}
    {added : List (String × LoaderHandle)} (hs : Booked names s added)
    (requests : List Request) :
  Booked (s.performAll requests names).2 (s.performAll requests names).1
    (added ++ s.additions names requests)
  := by
  induction requests generalizing s names added with
  | nil =>
      rw [additions, List.append_nil]
      apply hs
  | cons request rest ih =>
      rw [additions, ← List.append_assoc]
      apply ih (hs.perform request)

theorem reached_performAll {names : Interner} (hnames : names.Reached) (s : Scope)
    (requests : List Request) :
  (s.performAll requests names).2.Reached
  := by
  induction requests generalizing s names with
  | nil => apply hnames
  | cons request rest ih =>
      have hnext : (s.perform request names).2.Reached := by
        obtain ⟨texts, htexts⟩ := s.interned_perform names request
        rw [htexts]
        apply hnames.internAll
      apply ih hnext

/-- A name leads to the loader that was added under it, and to no other. -/
theorem Booked.getLoader_eq_ok_iff {names : Interner} {s : Scope}
    {added : List (String × LoaderHandle)} (hs : Booked names s added) (hnames : names.Reached)
    {text : String} {h : LoaderHandle} :
  s.getLoader names text = .ok h ↔ (text, h) ∈ added
  := by
  have hfound : s.getLoader names text = .ok h ↔
      ∃ n, names.get? text = some n ∧ s.handle? n = some h := by
    rw [getLoader, ← Option.bind_eq_some_iff]
    cases (names.get? text).bind s.handle? with
    | none => simp
    | some o => simp
  rw [hfound]
  constructor
  · rintro ⟨n, hn, hhandle⟩
    obtain ⟨text', hadded, hn'⟩ := hs.complete hhandle
    -- One name stands for one text only.
    have hsame := hnames.lookup?_eq_some_iff.mpr hn
    rw [hnames.lookup?_eq_some_iff.mpr hn'] at hsame
    cases hsame
    apply hadded
  · apply hs.held

/-! ### Initialized loaders -/

theorem isInitialized_performAll (s : Scope) (names : Interner) (requests : List Request)
    {h : LoaderHandle} (hh : s.isInitialized h) :
  (s.performAll requests names).1.isInitialized h
  := by
  have hstep : ∀ (past : List Scope) names s t, s.isInitialized h →
      Change True names s t → t.isInitialized h :=
    fun _ _ _ _ hs hchange => hchange.step.isInitialized hs
  apply performAll_induct (P := fun _ t => t.isInitialized h) hstep hh
  · intro request _ _
    trivial
  · exact []

/-- Whatever is requested, the loaders of a scope were initialized in some order. -/
theorem ordered_run (names : Interner) (requests : List Request) :
  ∃ order, Ordered (history {} names requests) (performAll {} requests names).1 order
  := by
  have hstep : ∀ past names s t, (∃ order, Ordered past s order) →
      Change True names s t → ∃ order, Ordered (past ++ [s]) t order := by
    rintro past names s t ⟨order, hordered⟩ hchange
    cases hchange.step with
    | quiet hextends hinitialized hkept =>
        exact ⟨order, hordered.quiet hextends hinitialized⟩
    | @done h l hl hnew hbase started hstarted hresolved =>
        exact ⟨h :: order, hordered.done hl hnew hbase started⟩
  have heditable : ∀ request ∈ requests, request.IsEdit → True := fun _ _ _ => trivial
  have hrun := performAll_induct hstep ⟨[], ordered_nil []⟩ names heditable
  rw [List.nil_append] at hrun
  apply hrun

/-! ### Bases of bases -/

/-- The second loader is the base of the first. -/
def IsBase (s : Scope) (h o : LoaderHandle) : Prop := s.base? h = some o

instance (s : Scope) (h o : LoaderHandle) : Decidable (s.IsBase h o) :=
  inferInstanceAs (Decidable (s.base? h = some o))

/-- From a loader on a chain the bases lead along the chain. -/
theorem BaseChain.of_isBase {s : Scope} {h o : LoaderHandle} {bases : List LoaderHandle}
    (hchain : s.BaseChain (h :: bases)) (hbase : s.IsBase h o) :
  ∃ rest, bases = o :: rest ∧ s.BaseChain (o :: rest)
  := by
  cases hchain with
  | last hdeclared =>
      rw [IsBase, base?_of_declared_none hdeclared] at hbase
      cases hbase
  | @cons _ b x rest hdeclared hhandle hrest =>
      rw [IsBase, base?_of_declared_some hdeclared, hhandle] at hbase
      cases hbase
      use rest

/-- Wherever bases lead from the start of a chain, the rest of the chain starts there. -/
theorem BaseChain.of_bases {s : Scope} {h o : LoaderHandle} {bases : List LoaderHandle}
    (hchain : s.BaseChain (h :: bases)) (hbases : Relation.ReflTransGen s.IsBase h o) :
  ∃ rest, s.BaseChain (o :: rest) ∧ o :: rest <:+ h :: bases
  := by
  induction hbases with
  | refl => use bases, hchain
  | tail hbefore hbase ih =>
      obtain ⟨rest, hrest, hsuffix⟩ := ih
      obtain ⟨rest', rfl, hrest'⟩ := hrest.of_isBase hbase
      use rest', hrest'
      apply List.IsSuffix.trans _ hsuffix
      apply List.suffix_cons

/-- Bases do not lead from a chain without repetition back to its start. -/
theorem BaseChain.not_cyclic {s : Scope} {h : LoaderHandle} {bases : List LoaderHandle}
    (hchain : s.BaseChain (h :: bases)) (hnodup : (h :: bases).Nodup) :
  ¬ Relation.TransGen s.IsBase h h
  := by
  intro hcycle
  obtain ⟨o, hbase, hback⟩ := Relation.TransGen.head'_iff.mp hcycle
  obtain ⟨rest, rfl, hrest⟩ := hchain.of_isBase hbase
  obtain ⟨rest', -, hsuffix⟩ := hrest.of_bases hback
  apply (List.nodup_cons.mp hnodup).1
  apply hsuffix.subset List.mem_cons_self

/-- The base that the first loader of a chain names is part of the scope. -/
theorem BaseChain.not_dangling {s : Scope} {h : LoaderHandle} {bases : List LoaderHandle}
    (hchain : s.BaseChain (h :: bases)) {b : Name} (hb : s.declared? h = some (some b)) :
  ∃ o, s.handle? b = some o
  := by
  cases hchain with
  | last hdeclared =>
      rw [hdeclared] at hb
      cases hb
  | @cons _ b x rest hdeclared hhandle hrest =>
      rw [hdeclared] at hb
      cases hb
      use x

/-- The bases of an initialized loader are initialized and differ from one another, each
was initialized before the one that it is the base of, and the last names no base. -/
theorem Ordered.exists_bases {past : List Scope} {s : Scope} {order : List LoaderHandle}
    (h : Ordered past s order) {o : LoaderHandle} (ho : s.isInitialized o) :
  ∃ bases, s.BaseChain (o :: bases) ∧ (∀ x ∈ bases, s.isInitialized x) ∧
    (o :: bases).Nodup ∧ (o :: bases).Pairwise fun x y => InitializedBefore past y x
  := by
  obtain ⟨bases, hchain, hsublist⟩ :=
    h.stacked.exists_baseChain ((h.initialized o).mp ho)
  use bases, hchain
  refine ⟨?_, h.stacked.nodup.sublist hsublist, h.before.sublist hsublist⟩
  intro x hx
  apply (h.initialized x).mpr
  apply hsublist.subset (List.mem_cons_of_mem o hx)

/-- Whatever is requested: a text leads to a loader exactly if the loader was added under it,
and every loader was added under its name; no two loaders have one name.  A loader that is
initialized stays so.  Its bases are initialized, they differ from one another, each was
initialized before the one that it is the base of, and the last names no base.  So they lead
neither to a cycle nor to a base that is not part of the scope. -/
theorem bases_of_initialized {placement : Placement} {requests : List Request} {s : Scope}
    {names : Interner}
    (hrun : performAll {} requests (Interner.initial placement) = (s, names)) :
  (∀ text h, s.getLoader names text = .ok h ↔
    (text, h) ∈ additions {} (Interner.initial placement) requests) ∧
  (∀ h l, s.loader? h = some l → ∃ text, names.lookup? l.name = some text ∧
    (text, h) ∈ additions {} (Interner.initial placement) requests) ∧
  (∀ g h m l, s.loader? g = some m → s.loader? h = some l → m.name = l.name → g = h) ∧
  (∀ more h, s.isInitialized h → (s.performAll more names).1.isInitialized h) ∧
  (∀ h, s.isInitialized h → ∃ bases, s.BaseChain (h :: bases) ∧
    (∀ x ∈ bases, s.isInitialized x) ∧ (h :: bases).Nodup ∧
    (h :: bases).Pairwise fun x y =>
      InitializedBefore (history {} (Interner.initial placement) requests) y x) ∧
  (∀ h o, s.isInitialized h → Relation.ReflTransGen s.IsBase h o →
    ¬ Relation.TransGen s.IsBase o o ∧
    ∀ b, s.declared? o = some (some b) → ∃ x, s.handle? b = some x)
  := by
  obtain ⟨-, hnamed⟩ := indexed_named_run (Interner.initial placement) requests
  obtain ⟨order, hordered⟩ := ordered_run (Interner.initial placement) requests
  have hreached := reached_performAll (Interner.reached_initial placement) {} requests
  have hbooked := (booked_nil (Interner.initial placement)).performAll requests
  rw [List.nil_append] at hbooked
  rw [hrun] at hnamed hordered hreached hbooked
  refine ⟨?_, ?_, ?_, ?_, ?_, ?_⟩
  · intro text h
    apply hbooked.getLoader_eq_ok_iff hreached
  · intro h l hl
    obtain ⟨text, hadded, hheld⟩ := hbooked.complete (hnamed.found hl)
    use text, hreached.lookup?_eq_some_iff.mpr hheld
  · intro g h m l hm hl hname
    apply hnamed.handle_unique hm hl hname
  · intro more h hh
    apply s.isInitialized_performAll names more hh
  · intro h hh
    apply hordered.exists_bases hh
  · intro h o hh hbases
    obtain ⟨bases, hchain, -, hnodup, -⟩ := hordered.exists_bases hh
    obtain ⟨rest, hrest, hsuffix⟩ := hchain.of_bases hbases
    use hrest.not_cyclic (hnodup.sublist hsuffix.sublist)
    intro b hb
    apply hrest.not_dangling hb

/-- Requests for a loader that is added before its base, one that is its own base, and one
whose base is never added. -/
def depending : List Request :=
  [.addLanguage { name := "a", language := default, base := some "b" },
    .addLanguage { name := "b", language := default },
    .addLanguage { name := "c", language := default, base := some "c" },
    .addLanguage { name := "d", language := default, base := some "e" },
    .initializeAll,
    .initializeLoader ⟨1⟩,
    .initializeLoader ⟨0⟩,
    .initializeLoader ⟨2⟩,
    .initializeLoader ⟨3⟩]

/-- The scope that these requests lead to, and the interner. -/
def dependent : Scope × Interner := performAll {} depending (Interner.initial .bySum)

theorem bases_of_initialized_dependent :
  dependent.1.getLoader dependent.2 "a" = .ok ⟨0⟩ ∧ dependent.1.isInitialized ⟨0⟩ ∧
    InitializedBefore (history {} (Interner.initial .bySum) depending) ⟨1⟩ ⟨0⟩ ∧
    ¬ dependent.1.isInitialized ⟨2⟩ ∧ ¬ dependent.1.isInitialized ⟨3⟩
  := by
  have hrun : performAll {} depending (Interner.initial .bySum) = (dependent.1, dependent.2) :=
    Prod.mk.eta.symm
  obtain ⟨hnames, -, -, -, hbases, hends⟩ := bases_of_initialized hrun
  have hinitialized : dependent.1.isInitialized ⟨0⟩ := by decide +kernel
  have hbase : dependent.1.IsBase ⟨0⟩ ⟨1⟩ := by decide +kernel
  have hcycle : dependent.1.IsBase ⟨2⟩ ⟨2⟩ := by decide +kernel
  have hdangling : dependent.1.declared? ⟨3⟩ = some (some ⟨5⟩) ∧
      dependent.1.handle? ⟨5⟩ = none := by decide +kernel
  refine ⟨?_, hinitialized, ?_, ?_, ?_⟩
  · apply (hnames "a" ⟨0⟩).mpr
    decide +kernel
  · obtain ⟨bases, hchain, -, -, hbefore⟩ := hbases ⟨0⟩ hinitialized
    obtain ⟨rest, rfl, -⟩ := hchain.of_isBase hbase
    apply (List.pairwise_cons.mp hbefore).1 ⟨1⟩ List.mem_cons_self
  · intro hh
    apply (hends ⟨2⟩ ⟨2⟩ hh .refl).1
    apply Relation.TransGen.single hcycle
  · intro hh
    obtain ⟨x, hx⟩ := (hends ⟨3⟩ ⟨3⟩ hh .refl).2 ⟨5⟩ hdangling.1
    rw [hdangling.2] at hx
    cases hx

end DialectIR.Scope
