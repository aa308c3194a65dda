import DialectIR.Proofs.Registry.Answers
import DialectIR.Proofs.Scope.Bases
import DialectIR.Proofs.Scope.Cycles

/-!
# Superclasses that are hidden later

A superclass in the loader of the class stays what it is once it was found.  One that names
another loader is looked up along the chain of that loader whenever it is asked for, the
outermost loader first.  The chain stays, as the loader is initialized, and so do the
classes in it; but a class of the same name that is defined further out hides the one that
was found before.

It takes a request to a registry to define such a class.  Adding and initializing loaders
changes no superclass.
-/

namespace DialectIR.Scope

/-- What becomes of a scope: names, bases and registries are extended, loaders stay
initialized, and the initialized ones stay as they are unless registries are edited. -/
structure Grown (editable : Prop) (s t : Scope) : Prop where
  extended : s.Extends t
  initialized {h : LoaderHandle} (hh : s.isInitialized h) : t.isInitialized h
  registry {h : LoaderHandle} {l : Loader} (hl : s.loader? h = some l) :
    ∃ l', t.loader? h = some l' ∧ l.registry.Extends l'.registry
  kept (heditable : ¬ editable) {h : LoaderHandle} (hh : s.isInitialized h) :
    t.loader? h = s.loader? h

/-- The superclass of a class is given by the name of a class and another loader. -/
def NamesAbroad (s : Scope) (h : LoaderHandle) (id : ClassId) (g : LoaderHandle) (n : Name) :
    Prop :=
  ∃ l c loader, s.loader? h = some l ∧ l.registry.class? id = some c ∧
    c.superclass = some ⟨loader, n⟩ ∧ loader ≠ l.registry.loader ∧ s.handle? loader = some g

/-- A superclass that was found in a loader is hidden later: further out on the chain of the
loader that it names, where there was no class of its name, there is one then, and of these
this is the outermost. -/
def HiddenBy (s t : Scope) (h : LoaderHandle) (id : ClassId) (o : LoaderHandle)
    (found : LoaderHandle × ClassId) : Prop :=
  ∃ g n inner outer, s.NamesAbroad h id g n ∧ s.delegationChain g = inner ++ o :: outer ∧
    (∀ x ∈ outer, s.classIn? n x = none) ∧ t.OutermostIn n outer found.1 found.2

/-! ### Growth along a run -/

theorem grown_self (editable : Prop) (s : Scope) :
  s.Grown editable s
  := by
  refine ⟨s.extends_self, fun hh => hh, ?_, fun _ _ _ => rfl⟩
  intro h l hl
  exact ⟨l, hl, l.registry.extends_self⟩

theorem Grown.trans {editable : Prop} {s t u : Scope} (h : s.Grown editable t)
    (h' : t.Grown editable u) :
  s.Grown editable u
  := by
  refine ⟨h.extended.trans h'.extended, fun hh => h'.initialized (h.initialized hh), ?_, ?_⟩
  · intro o l hl
    obtain ⟨l', hl', hext⟩ := h.registry hl
    obtain ⟨l'', hl'', hext'⟩ := h'.registry hl'
    exact ⟨l'', hl'', hext.trans hext'⟩
  · intro heditable o ho
    rw [h'.kept heditable (h.initialized ho), h.kept heditable ho]

/-- Loaders of a scope in which one is replaced by one with an extended registry have
extended registries. -/
theorem registry_replace {s : Scope} {h : LoaderHandle} {old l : Loader}
    (hold : s.loader? h = some old) (hext : old.registry.Extends l.registry)
    {o : LoaderHandle} {l' : Loader} (hl' : s.loader? o = some l') :
  ∃ l'', (s.replace h l).loader? o = some l'' ∧ l'.registry.Extends l''.registry
  := by
  rw [loader?_replace hold]
  split
  · rename_i hsame
    rw [hsame, hold] at hl'
    cases hl'
    use l, rfl
  · exact ⟨l', hl', l'.registry.extends_self⟩

theorem registry_setRegistry {s : Scope} {h : LoaderHandle} {old : Loader}
    (hold : s.loader? h = some old) {r : Registry} (hext : old.registry.Extends r)
    {o : LoaderHandle} {l' : Loader} (hl' : s.loader? o = some l') :
  ∃ l'', (s.setRegistry h r).loader? o = some l'' ∧ l'.registry.Extends l''.registry
  := by
  rw [setRegistry_eq_replace hold]
  apply registry_replace hold hext hl'

theorem Change.registry {editable : Prop} {names : Interner} {s t : Scope} (hs : s.Indexed)
    (h : Change editable names s t) {o : LoaderHandle} {l' : Loader}
    (hl' : s.loader? o = some l') :
  ∃ l'', t.loader? o = some l'' ∧ l'.registry.Extends l''.registry
  := by
  cases h with
  | keep => exact ⟨l', hl', l'.registry.extends_self⟩
  | add hnew hname =>
      refine ⟨l', ?_, l'.registry.extends_self⟩
      rw [loader?_push, if_neg]
      · apply hl'
      · rintro rfl
        rw [loader?_size] at hl'
        cases hl'
  | attempt hattempt =>
      cases hattempt with
      | keep => exact ⟨l', hl', l'.registry.extends_self⟩
      | failed hl hnew hr =>
          apply registry_setRegistry hl _ hl'
          rcases hr with rfl | rfl
          · apply (hs _ _ hl).extends_change (Registry.Change.bootstrap _)
          · apply (hs _ _ hl).extends_bootstrap_rollback
      | @done l hl hnew hbase started hstarted hresolved =>
          have hchange : Registry.Change names l.registry _ := .bootstrap l.language
          have hext := (hs _ _ hl).extends_change hchange
          rw [hstarted] at hext
          rw [markInitialized_setRegistry hl]
          apply registry_replace hl hext hl'
  | edit heditable hl hr =>
      apply registry_setRegistry hl ((hs _ _ hl).extends_change hr) hl'

theorem Change.grown {editable : Prop} {names : Interner} {s t : Scope} (hs : s.Indexed)
    (h : Change editable names s t) :
  s.Grown editable t
  := by
  have hregistry : ∀ {o l}, s.loader? o = some l →
      ∃ l', t.loader? o = some l' ∧ l.registry.Extends l'.registry :=
    fun hl => h.registry hs hl
  have hstep := h.step
  cases h.step with
  | quiet hextends hsame hkept =>
      exact ⟨hextends, hstep.isInitialized, hregistry, fun heditable => hkept heditable _⟩
  | @done o l hl hnew hbase started hstarted hresolved =>
      refine ⟨extends_replace hl rfl, hstep.isInitialized, hregistry, ?_⟩
      intro heditable x hx
      rw [loader?_replace hl, if_neg]
      rintro rfl
      rw [isInitialized_eq hl, hnew] at hx
      cases hx

/-- Whatever is requested of a scope, it grows, and its initialized loaders stay as they are
if nothing is requested of registries. -/
theorem Indexed.grown_performAll {s : Scope} (hs : s.Indexed) {editable : Prop}
    (names : Interner) {requests : List Request}
    (heditable : ∀ request ∈ requests, request.IsEdit → editable) :
  (s.performAll requests names).1.Indexed ∧ s.Grown editable (s.performAll requests names).1
  := by
  have hstep : ∀ (past : List Scope) names t u, t.Indexed ∧ s.Grown editable t →
      Change editable names t u → u.Indexed ∧ s.Grown editable u := by
    rintro past names t u ⟨ht, hgrown⟩ hchange
    use ht.change hchange
    apply hgrown.trans (hchange.grown ht)
  apply performAll_induct (P := fun _ t => t.Indexed ∧ s.Grown editable t) hstep
    ⟨hs, s.grown_self editable⟩ names heditable
  exact []

/-! ### Look-ups in a scope that grew -/

/-- The classes that are visible in a loader stay so. -/
theorem Grown.classIn? {editable : Prop} {s t : Scope} (h : s.Grown editable t) {n : Name}
    {o : LoaderHandle} {id : ClassId} (hclass : s.classIn? n o = some (o, id)) :
  t.classIn? n o = some (o, id)
  := by
  obtain ⟨-, l, hl, hid⟩ := classIn?_eq_some_iff.mp hclass
  obtain ⟨l', hl', hext⟩ := h.registry hl
  apply classIn?_eq_some_iff.mpr
  use rfl, l', hl', hext.found hid

/-- What was answered for a class within its loader is answered again. -/
theorem Grown.superclassOf {editable : Prop} {s t : Scope} (h : s.Grown editable t)
    (hs : s.Indexed) (ht : t.Indexed) {o : LoaderHandle} {l : Loader}
    (hl : s.loader? o = some l) {id : ClassId} {superclass : Option ClassId}
    (hup : l.registry.superclassOf id = .ok superclass) :
  ∃ l', t.loader? o = some l' ∧ l.registry.Extends l'.registry ∧
    l'.registry.superclassOf id = .ok superclass
  := by
  obtain ⟨l', hl', hext⟩ := h.registry hl
  obtain ⟨c, hc⟩ := Registry.Resolvable.class? ⟨superclass, hup⟩
  use l', hl', hext
  rcases hext.superclassOf_or_undefined (hs o l hl) (ht o l' hl') hc with hsame | ⟨n, hn⟩
  · rw [hsame, hup]
  · rw [hup] at hn
    cases hn

/-- Of loaders one is the outermost that has a class of a name, or none has one. -/
theorem outermostIn_or_none (s : Scope) (n : Name) (chain : List LoaderHandle) :
  (∃ found : LoaderHandle × ClassId, s.OutermostIn n chain found.1 found.2) ∨
    ∀ x ∈ chain, s.classIn? n x = none
  := by
  induction chain with
  | nil => simp
  | cons h rest ih =>
      rcases ih with ⟨found, inner, outer, rfl, hclass, houter⟩ | hnone
      · left
        exact ⟨found, h :: inner, outer, rfl, hclass, houter⟩
      · cases hclass : s.classIn? n h with
        | none =>
            right
            exact List.forall_mem_cons.mpr ⟨hclass, hnone⟩
        | some found =>
            left
            obtain ⟨o, id⟩ := found
            obtain rfl := (classIn?_eq_some_iff.mp hclass).1
            exact ⟨(o, id), [], rest, rfl, hclass, hnone⟩

/-- The outermost class of the last loaders of a list is that of the list. -/
theorem OutermostIn.append {s : Scope} {n : Name} {chain : List LoaderHandle}
    {o : LoaderHandle} {id : ClassId} (h : s.OutermostIn n chain o id)
    (inner : List LoaderHandle) :
  s.OutermostIn n (inner ++ chain) o id
  := by
  obtain ⟨inner', outer, rfl, hclass, houter⟩ := h
  exact ⟨inner ++ inner', outer, (List.append_assoc ..).symm, hclass, houter⟩

theorem OutermostIn.mem {s : Scope} {n : Name} {chain : List LoaderHandle} {o : LoaderHandle}
    {id : ClassId} (h : s.OutermostIn n chain o id) :
  o ∈ chain ∧ s.classIn? n o = some (o, id)
  := by
  obtain ⟨inner, outer, rfl, hclass, -⟩ := h
  use List.mem_append_right inner List.mem_cons_self, hclass

/-- The chain of an initialized loader has no loader twice and initialized ones only, and it
stays. -/
theorem Grown.delegationChain {editable : Prop} {past : List Scope} {s t : Scope}
    {order : List LoaderHandle} (h : s.Grown editable t) (hordered : Ordered past s order)
    {g : LoaderHandle} (hg : s.isInitialized g) :
  t.delegationChain g = s.delegationChain g ∧ (s.delegationChain g).Nodup ∧
    ∀ x ∈ s.delegationChain g, s.isInitialized x
  := by
  have hstacked := hordered.stacked
  obtain ⟨bases, hchain, hsublist⟩ := hstacked.exists_baseChain ((hordered.initialized g).mp hg)
  rw [hstacked.delegationChain_eq hchain hsublist,
    (hstacked.extends h.extended).delegationChain_eq (hchain.extends h.extended) hsublist]
  use rfl, hstacked.nodup.sublist hsublist
  intro x hx
  apply (hordered.initialized x).mpr (hsublist.subset hx)

/-! ### Superclasses abroad -/

section

variable {s : Scope} {h : LoaderHandle} {id : ClassId} {g : LoaderHandle} {n : Name}

theorem NamesAbroad.unique (habroad : s.NamesAbroad h id g n) {g' : LoaderHandle} {n' : Name}
    (habroad' : s.NamesAbroad h id g' n') :
  g = g' ∧ n = n'
  := by
  obtain ⟨l, c, loader, hl, hc, hsuper, -, hg⟩ := habroad
  obtain ⟨l', c', loader', hl', hc', hsuper', -, hg'⟩ := habroad'
  rw [hl] at hl'
  cases hl'
  rw [hc] at hc'
  cases hc'
  rw [hsuper] at hsuper'
  cases hsuper'
  rw [hg] at hg'
  cases hg'
  exact ⟨rfl, rfl⟩

/-- A superclass that is found within the loader is not named abroad. -/
theorem NamesAbroad.superclassOf_ne (hs : s.Indexed) (habroad : s.NamesAbroad h id g n)
    {l : Loader} (hl : s.loader? h = some l) (parent : ClassId) :
  l.registry.superclassOf id ≠ .ok (some parent)
  := by
  intro hup
  obtain ⟨l', c, loader, hl', hc, hsuper, hforeign, -⟩ := habroad
  rw [hl] at hl'
  cases hl'
  obtain ⟨hparent, -⟩ := (hs h l hl).chain_of_superclassOf hc hup
  rw [Registry.parent?_of_isTop hc] at hparent
  · cases hparent
  · intro superclass hsuper'
    rw [hsuper] at hsuper'
    cases hsuper'
    apply hforeign

/-- A superclass is found within the loader, or it is named abroad and looked up from
there. -/
theorem Indexed.below_or_abroad (hs : s.Indexed) {found : LoaderHandle × ClassId}
    (hup : s.resolveSuperclass h id = .ok (some found)) :
  ∃ l, s.loader? h = some l ∧
    ((∃ parent, found = (h, parent) ∧ l.registry.superclassOf id = .ok (some parent)) ∨
      l.registry.superclassOf id = .ok none ∧ ∃ g n, s.NamesAbroad h id g n ∧
        s.isInitialized g ∧ s.lookupName? g n = some found)
  := by
  obtain ⟨l, c, hl, hc⟩ := class?_of_resolveSuperclass hup
  use l, hl
  cases resolves_of_resolveSuperclass hs hl hc hup with
  | @below parent hlocal =>
      left
      use parent
  | @foreign c superclass o _ hlocal hc hsuper hforeign ho hready hfound =>
      right
      use hlocal, o, superclass.name
      exact ⟨⟨l, c, superclass.loader, hl, hc, hsuper, hforeign, ho⟩, hready, hfound⟩

end

/-- A superclass that is named abroad was looked up from there when it was found. -/
theorem NamesAbroad.of_resolveSuperclass {s : Scope} (hs : s.Indexed) {h g : LoaderHandle}
    {id : ClassId} {n : Name} (habroad : s.NamesAbroad h id g n)
    {found : LoaderHandle × ClassId} (hup : s.resolveSuperclass h id = .ok (some found)) :
  ∃ l, s.loader? h = some l ∧ l.registry.superclassOf id = .ok none ∧ s.isInitialized g
  := by
  obtain ⟨l, hl, ⟨parent, -, hlocal⟩ | ⟨hlocal, g', n', habroad', hg, -⟩⟩ :=
    hs.below_or_abroad hup
  · cases habroad.superclassOf_ne hs hl parent hlocal
  · obtain ⟨rfl, rfl⟩ := habroad.unique habroad'
    use l, hl, hlocal

section

variable {editable : Prop} {s t : Scope} (hgrown : s.Grown editable t) (hs : s.Indexed)
  (ht : t.Indexed) {h : LoaderHandle} {id : ClassId}
include hgrown hs ht

/-- A superclass that was found within the loader is found again. -/
theorem Grown.resolveSuperclass_below {l : Loader} (hl : s.loader? h = some l)
    {parent : ClassId} (hup : l.registry.superclassOf id = .ok (some parent)) :
  t.resolveSuperclass h id = .ok (some (h, parent))
  := by
  obtain ⟨l', hl', -, hup'⟩ := hgrown.superclassOf hs ht hl hup
  apply Resolves.resolveSuperclass hl' (Resolves.below hup') (fun _ hready => hready)

/-- A superclass that is named abroad is what is found from there later. -/
theorem Grown.resolveSuperclass_abroad {l : Loader} (hl : s.loader? h = some l)
    (hup : l.registry.superclassOf id = .ok none) {g : LoaderHandle} {n : Name}
    (habroad : s.NamesAbroad h id g n) (hg : s.isInitialized g)
    {found : LoaderHandle × ClassId} (hfound : t.lookupName? g n = some found) :
  t.resolveSuperclass h id = .ok (some found)
  := by
  obtain ⟨l', hl', hext, hup'⟩ := hgrown.superclassOf hs ht hl hup
  obtain ⟨l₀, c, loader, hl₀, hc, hsuper, hforeign, hhandle⟩ := habroad
  rw [hl] at hl₀
  cases hl₀
  obtain ⟨d, hd, hcd⟩ := hext.kept hc
  have hsuper' : d.superclass = some ⟨loader, n⟩ := by rw [hcd, hsuper]
  rw [← hext.loader] at hforeign
  apply Resolves.resolveSuperclass hl' (Resolves.foreign hup' hd hsuper' hforeign
    (hgrown.extended.handle hhandle) (hgrown.initialized hg) hfound) (fun _ hready => hready)

end

/-! ### Hidden superclasses -/

section

variable {editable : Prop} {past : List Scope} {s t : Scope} {order : List LoaderHandle}
  (hgrown : s.Grown editable t) (hs : s.Indexed) (hordered : Ordered past s order)
  {h o : LoaderHandle} {id p : ClassId} (hup : s.resolveSuperclass h id = .ok (some (o, p)))
include hgrown hs hordered hup

/-- Nothing is hidden unless registries are edited. -/
theorem not_hidden_of_not_editable (heditable : ¬ editable) (found : LoaderHandle × ClassId) :
  ¬ s.HiddenBy t h id o found
  := by
  rintro ⟨g, n, inner, outer, habroad, hsplit, houter, hout⟩
  obtain ⟨-, -, -, hg⟩ := habroad.of_resolveSuperclass hs hup
  obtain ⟨-, -, hinitialized⟩ := hgrown.delegationChain hordered hg
  obtain ⟨hmem, hclass⟩ := hout.mem
  have hinside : found.1 ∈ s.delegationChain g := by
    rw [hsplit]
    apply List.mem_append_right inner (List.mem_cons_of_mem o hmem)
  -- The loader with the class is initialized, so that it had the class before.
  have hnone := houter found.1 hmem
  rw [Scope.classIn?, ← hgrown.kept heditable (hinitialized _ hinside), ← Scope.classIn?,
    hclass] at hnone
  cases hnone

variable (ht : t.Indexed)
include ht

/-- A superclass that is hidden is not found again, but the class that hides it. -/
theorem HiddenBy.resolveSuperclass {found : LoaderHandle × ClassId}
    (hhidden : s.HiddenBy t h id o found) :
  t.resolveSuperclass h id = .ok (some found) ∧ found.1 ≠ o
  := by
  obtain ⟨g, n, inner, outer, habroad, hsplit, -, hout⟩ := hhidden
  obtain ⟨l, hl, hlocal, hg⟩ := habroad.of_resolveSuperclass hs hup
  obtain ⟨hchain, hnodup, -⟩ := hgrown.delegationChain hordered hg
  rw [hsplit] at hchain hnodup
  constructor
  · apply hgrown.resolveSuperclass_abroad hs ht hl hlocal habroad hg
    rw [lookupName?_eq_some_iff, hchain, List.append_cons]
    apply hout.append
  · intro hsame
    obtain ⟨hmem, -⟩ := hout.mem
    rw [hsame] at hmem
    apply (List.nodup_cons.mp hnodup.of_append_right).1 hmem

/-- A superclass that is not hidden is found again. -/
theorem resolveSuperclass_of_not_hidden (hnot : ∀ found, ¬ s.HiddenBy t h id o found) :
  t.resolveSuperclass h id = .ok (some (o, p))
  := by
  obtain ⟨l, hl, ⟨parent, hfound, hlocal⟩ | ⟨hlocal, g, n, habroad, hg, hfound⟩⟩ :=
    hs.below_or_abroad hup
  · cases hfound
    apply hgrown.resolveSuperclass_below hs ht hl hlocal
  · obtain ⟨hchain, -, -⟩ := hgrown.delegationChain hordered hg
    obtain ⟨inner, outer, hsplit, hclass, houter⟩ := lookupName?_eq_some_iff.mp hfound
    apply hgrown.resolveSuperclass_abroad hs ht hl hlocal habroad hg
    rw [lookupName?_eq_some_iff, hchain]
    rcases t.outermostIn_or_none n outer with ⟨found, hout⟩ | hnone
    · cases hnot found ⟨g, n, inner, outer, habroad, hsplit, houter, hout⟩
    · exact ⟨inner, outer, hsplit, hgrown.classIn? hclass, hnone⟩

end

/-- However loaders are added and initialized and classes are defined after a superclass was
found: it is found again, unless it is hidden.  It is hidden when the class names it in
another loader, and when there is a class of its name, by then, in a loader that lies further
out on the chain of that one than the loader in which it was found; what is found is then
the class of the outermost such loader.  Without requests to registries it is found again. -/
theorem superclass_kept_unless_hidden (names : Interner) (requests more : List Request)
    {s : Scope} {grown : Interner} (hs : performAll {} requests names = (s, grown))
    {t : Scope} (ht : (s.performAll more grown).1 = t) {h o : LoaderHandle} {id p : ClassId}
    (hup : s.resolveSuperclass h id = .ok (some (o, p))) :
  ((∀ found, ¬ s.HiddenBy t h id o found) → t.resolveSuperclass h id = .ok (some (o, p))) ∧
  (∀ found, s.HiddenBy t h id o found →
    t.resolveSuperclass h id = .ok (some found) ∧ found.1 ≠ o) ∧
  ((∀ request ∈ more, ¬ request.IsEdit) → t.resolveSuperclass h id = .ok (some (o, p)))
  := by
  obtain ⟨hindexed, -⟩ := indexed_named_run names requests
  obtain ⟨order, hordered⟩ := ordered_run names requests
  rw [hs] at hindexed hordered
  have heditable : ∀ request ∈ more, request.IsEdit → True := fun _ _ _ => trivial
  obtain ⟨hindexed', hgrown⟩ := hindexed.grown_performAll grown heditable
  rw [ht] at hindexed' hgrown
  have hkept := resolveSuperclass_of_not_hidden hgrown hindexed hordered hup hindexed'
  refine ⟨hkept, ?_, ?_⟩
  · intro found hhidden
    apply hhidden.resolveSuperclass hgrown hindexed hordered hup hindexed'
  · intro hedit
    obtain ⟨-, hquiet⟩ := hindexed.grown_performAll grown hedit
    rw [ht] at hquiet
    apply hkept
    apply not_hidden_of_not_editable hquiet hindexed hordered hup not_false

/-- Requests for a loader, one that is layered over it and has a class, and a third with a
class below that. -/
def layeringClass : List Request :=
  [.addLanguage { name := "a", language := default },
    .addLanguage { name := "b", language := default, base := some "a" },
    .addLanguage { name := "d", language := default },
    .initializeAll,
    .edit ⟨1⟩ (.defineClass "f" none .plain .dummy),
    .edit ⟨2⟩ (.define { name := ⟨7⟩, kind := .plain, superclass := some ⟨⟨2⟩, ⟨6⟩⟩ })]

/-- The scope that these requests lead to, and the interner. -/
def layeredClass : Scope × Interner := performAll {} layeringClass (Interner.initial .bySum)

/-- A request for a class of the same name in the outer loader. -/
def hidingClass : List Request := [.edit ⟨0⟩ (.defineClass "f" none .plain .dummy)]

/-- Requests that define no class. -/
def layeringMore : List Request :=
  [.addLanguage { name := "e", language := default, base := some "b" }, .initializeAll]

theorem superclass_kept_unless_hidden_layeredClass :
  layeredClass.1.resolveSuperclass ⟨2⟩ ⟨0⟩ = .ok (some (⟨1⟩, ⟨0⟩)) ∧
    (layeredClass.1.performAll hidingClass layeredClass.2).1.resolveSuperclass ⟨2⟩ ⟨0⟩
      = .ok (some (⟨0⟩, ⟨0⟩)) ∧
    (layeredClass.1.performAll layeringMore layeredClass.2).1.resolveSuperclass ⟨2⟩ ⟨0⟩
      = .ok (some (⟨1⟩, ⟨0⟩))
  := by
  have hs : performAll {} layeringClass (Interner.initial .bySum)
      = (layeredClass.1, layeredClass.2) := (Prod.eta layeredClass).symm
  have hup : layeredClass.1.resolveSuperclass ⟨2⟩ ⟨0⟩ = .ok (some (⟨1⟩, ⟨0⟩)) := by
    decide +kernel
  obtain ⟨-, hhiding, -⟩ := superclass_kept_unless_hidden _ _ hidingClass hs rfl hup
  obtain ⟨-, -, hquiet⟩ := superclass_kept_unless_hidden _ _ layeringMore hs rfl hup
  have habroad : layeredClass.1.NamesAbroad ⟨2⟩ ⟨0⟩ ⟨1⟩ ⟨6⟩ :=
    ⟨_, _, ⟨2⟩, rfl, rfl, rfl, by decide +kernel, by decide +kernel⟩
  have hhidden : layeredClass.1.HiddenBy
      (layeredClass.1.performAll hidingClass layeredClass.2).1 ⟨2⟩ ⟨0⟩ ⟨1⟩ (⟨0⟩, ⟨0⟩) := by
    refine ⟨⟨1⟩, ⟨6⟩, [], [⟨0⟩], habroad, ?_, ?_, [], [], rfl, ?_, ?_⟩
    · decide +kernel
    · decide +kernel
    · decide +kernel
    · intro x hx
      cases hx
  have hedit : ∀ request ∈ layeringMore, ¬ request.IsEdit := by
    simp [layeringMore, Request.IsEdit]
  exact ⟨hup, (hhiding _ hhidden).1, hquiet hedit⟩

/-- A superclass that was found may change when a class is defined in another loader. -/
theorem superclass_changes :
  layeredClass.1.resolveSuperclass ⟨2⟩ ⟨0⟩ = .ok (some (⟨1⟩, ⟨0⟩)) ∧
    (layeredClass.1.performAll hidingClass layeredClass.2).1.resolveSuperclass ⟨2⟩ ⟨0⟩
      = .ok (some (⟨0⟩, ⟨0⟩))
  := by
  decide +kernel

end DialectIR.Scope
