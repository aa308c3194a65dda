import DialectIR.Proofs.Scope.Bases

/-!
# What is visible from a loader

From a loader the classes of its bases are visible, and of two classes of one name that of
the outer base.  The bases may lead in a circle or out of the scope.  Looking up walks along
them as far as no loader comes twice, which is at most once past every loader, so that the
bound on the length of the walk never cuts it short.

On a circle the walk depends on where it starts, and loaders on it may see different
classes.  The bases of an initialized loader end at one that has none.  From each of them on
the walk is the same, and so the loader sees whatever its bases see.
-/

namespace DialectIR.Scope

/-- A walk along the bases from a loader, past loaders that were not met before: it goes on
to the base of the loader, unless that was met or there is none. -/
inductive Walk (s : Scope) : List LoaderHandle → LoaderHandle → List LoaderHandle → Prop where
  | last {seen : List LoaderHandle} {h : LoaderHandle} (hnew : h ∉ seen)
    (hends : ∀ base, s.IsBase h base → base ∈ h :: seen) : Walk s seen h [h]
  | cons {seen : List LoaderHandle} {h base : LoaderHandle} {rest : List LoaderHandle}
    (hnew : h ∉ seen) (hbase : s.IsBase h base) (hrest : Walk s (h :: seen) base rest) :
    Walk s seen h (h :: rest)

/-- The names of a scope lead to loaders. -/
def Located (s : Scope) : Prop :=
  ∀ n h, s.handle? n = some h → ∃ l, s.loader? h = some l

/-! ### Names that lead to loaders -/

theorem located_nil :
  Located {}
  := by
  intro n h hn
  simp [handle?] at hn

theorem Located.push {s : Scope} (hs : s.Located) (l : Loader) :
  (s.push l).Located
  := by
  intro n h hn
  rw [loader?_push]
  split
  · use l
  · rename_i hold
    by_cases hsame : n = l.name
    · subst hsame
      simp only [handle?, Scope.push, List.lookup_cons_self, Option.some.injEq] at hn
      cases hold hn.symm
    · simp only [handle?, Scope.push, List.lookup_cons, beq_false_of_ne hsame] at hn
      apply hs n h hn

theorem Located.replace {s : Scope} (hs : s.Located) {h : LoaderHandle} {old : Loader}
    (hold : s.loader? h = some old) (l : Loader) :
  (s.replace h l).Located
  := by
  intro n o hn
  rw [loader?_replace hold]
  split
  · use l
  · apply hs n o hn

theorem Located.change {editable : Prop} {names : Interner} {s t : Scope} (hs : s.Located)
    (h : Change editable names s t) :
  t.Located
  := by
  cases h with
  | keep => apply hs
  | add hnew hname => apply hs.push
  | attempt hattempt =>
      cases hattempt with
      | keep => apply hs
      | failed hl hnew hr =>
          rw [setRegistry_eq_replace hl]
          apply hs.replace hl
      | done hl hnew hbase hstarted hresolved =>
          rw [markInitialized_setRegistry hl]
          apply hs.replace hl
  | edit heditable hl hr =>
      rw [setRegistry_eq_replace hl]
      apply hs.replace hl

theorem located_run (names : Interner) (requests : List Request) :
  (performAll {} requests names).1.Located
  := by
  have hstep : ∀ (past : List Scope) names s t, s.Located → Change True names s t →
      t.Located := fun _ _ _ _ hs hchange => hs.change hchange
  apply performAll_induct (P := fun _ s => s.Located) hstep located_nil
  · intro request _ _
    trivial
  · exact []

theorem Located.of_isBase {s : Scope} (hs : s.Located) {h base : LoaderHandle}
    (hbase : s.IsBase h base) :
  ∃ l, s.loader? base = some l
  := by
  obtain ⟨l, -, hbase⟩ := Option.bind_eq_some_iff.mp hbase
  obtain ⟨n, -, hn⟩ := Option.bind_eq_some_iff.mp hbase
  apply hs n base hn

/-! ### Walks -/

section

variable {s : Scope} {seen chain : List LoaderHandle} {h : LoaderHandle}

theorem Walk.eq_cons (hwalk : s.Walk seen h chain) :
  ∃ bases, chain = h :: bases
  := by
  cases hwalk with
  | last hnew hends => use []
  | cons hnew hbase hrest => exact ⟨_, rfl⟩

/-- A walk comes past no loader that was met before, and past none twice. -/
theorem Walk.nodup (hwalk : s.Walk seen h chain) :
  chain.Nodup ∧ ∀ o ∈ chain, o ∉ seen
  := by
  induction hwalk with
  | last hnew hends =>
      use List.nodup_singleton _
      simpa using hnew
  | cons hnew hbase hrest ih =>
      obtain ⟨hnodup, hfresh⟩ := ih
      constructor
      · apply List.nodup_cons.mpr ⟨_, hnodup⟩
        intro hmem
        apply hfresh _ hmem List.mem_cons_self
      · intro o ho
        rcases List.mem_cons.mp ho with rfl | ho
        · apply hnew
        · intro hseen
          apply hfresh o ho (List.mem_cons_of_mem _ hseen)

/-- Each loader of a walk is followed by its base. -/
theorem Walk.isChain (hwalk : s.Walk seen h chain) :
  chain.IsChain s.IsBase
  := by
  induction hwalk with
  | last hnew hends => apply List.IsChain.singleton
  | cons hnew hbase hrest ih =>
      obtain ⟨bases, rfl⟩ := hrest.eq_cons
      apply List.isChain_cons_cons.mpr ⟨hbase, ih⟩

/-- A walk ends only where the base was met. -/
theorem Walk.mem_of_isBase_last (hwalk : s.Walk seen h chain) {last base : LoaderHandle}
    (hlast : chain.getLast? = some last) (hbase : s.IsBase last base) :
  base ∈ chain ∨ base ∈ seen
  := by
  induction hwalk with
  | last hnew hends =>
      obtain rfl := Option.some.inj hlast
      rcases List.mem_cons.mp (hends base hbase) with rfl | hseen
      · left
        apply List.mem_cons_self
      · right
        apply hseen
  | cons hnew hfirst hrest ih =>
      obtain ⟨bases, rfl⟩ := hrest.eq_cons
      rw [List.getLast?_cons_cons] at hlast
      rcases ih hlast with hmem | hmet
      · left
        apply List.mem_cons_of_mem _ hmem
      · rcases List.mem_cons.mp hmet with rfl | hseen
        · left
          apply List.mem_cons_self
        · right
          apply hseen

theorem chainFrom_of_mem (hmet : h ∈ seen) {fuel : Nat} :
  s.chainFrom fuel seen h = []
  := by
  cases fuel with
  | zero => rfl
  | succ fuel => rw [chainFrom, if_pos hmet]

/-- As many steps as there are loaders not met before are enough for a walk. -/
theorem Located.walk_chainFrom (hs : s.Located) {fuel : Nat} (hnodup : (h :: seen).Nodup)
    (hmet : ∀ o ∈ h :: seen, ∃ l, s.loader? o = some l)
    (hfuel : s.size ≤ seen.length + fuel) :
  s.Walk seen h (s.chainFrom fuel seen h)
  := by
  have hnew : h ∉ seen := (List.nodup_cons.mp hnodup).1
  induction fuel generalizing h seen with
  | zero =>
      -- Every loader was met, and so this one would be one too many.
      have hlength := length_le_size hnodup hmet
      rw [List.length_cons] at hlength
      omega
  | succ fuel ih =>
      rw [chainFrom, if_neg hnew]
      cases hbase : s.base? h with
      | none =>
          apply Walk.last hnew
          intro base hbase'
          rw [IsBase, hbase] at hbase'
          cases hbase'
      | some base =>
          have hbase' : s.IsBase h base := hbase
          by_cases hback : base ∈ h :: seen
          · simp only [chainFrom_of_mem hback]
            apply Walk.last hnew
            intro other hother
            rw [IsBase, hbase] at hother
            cases hother
            apply hback
          · apply Walk.cons hnew hbase'
            apply ih (List.nodup_cons.mpr ⟨hback, hnodup⟩) _ _ hback
            · intro o ho
              rcases List.mem_cons.mp ho with rfl | ho
              · apply hs.of_isBase hbase'
              · apply hmet o ho
            · rw [List.length_cons]
              omega

theorem Located.walk_delegationChain (hs : s.Located) {l : Loader}
    (hl : s.loader? h = some l) :
  s.Walk [] h (s.delegationChain h)
  := by
  apply hs.walk_chainFrom (List.nodup_singleton h)
  · intro o ho
    rw [List.mem_singleton.mp ho]
    use l
  · rw [List.length_nil, Nat.zero_add]

end

/-! ### Walks that end without a base -/

/-- What is left of a chain of bases from one of its loaders on is one as well. -/
theorem BaseChain.of_append {s : Scope} {inner outer : List LoaderHandle} {o : LoaderHandle}
    (h : s.BaseChain (inner ++ o :: outer)) :
  s.BaseChain (o :: outer)
  := by
  induction inner with
  | nil => apply h
  | cons x inner ih =>
      generalize hwhole : (x :: inner) ++ o :: outer = whole at h
      cases h with
      | last hdeclared => simp at hwhole
      | cons hdeclared hhandle hrest =>
          rw [← (List.cons.inj hwhole).2] at hrest
          apply ih hrest

/-- The walk from an initialized loader is a walk from each of its bases, from there on. -/
theorem Ordered.delegationChain_of_mem {past : List Scope} {s : Scope}
    {order : List LoaderHandle} (h : Ordered past s order) {o base : LoaderHandle}
    (ho : s.isInitialized o) (hbase : base ∈ s.delegationChain o) :
  ∃ inner, s.delegationChain o = inner ++ s.delegationChain base
  := by
  obtain ⟨bases, hchain, hsublist⟩ := h.stacked.exists_baseChain ((h.initialized o).mp ho)
  rw [h.stacked.delegationChain_eq hchain hsublist] at hbase ⊢
  obtain ⟨inner, outer, hsplit⟩ := List.append_of_mem hbase
  use inner
  rw [hsplit] at hchain hsublist ⊢
  have hrest : (base :: outer).Sublist order :=
    (List.sublist_append_right inner _).trans hsublist
  rw [h.stacked.delegationChain_eq hchain.of_append hrest]

/-! ### Classes of a text -/

/-- A class of a loader has the text as its name. -/
def HasClass (names : Interner) (s : Scope) (text : String) (h : LoaderHandle)
    (id : ClassId) : Prop :=
  ∃ l c, s.loader? h = some l ∧ l.registry.class? id = some c ∧
    names.lookup? c.name = some text

section

variable {names : Interner} {s : Scope} (hnames : names.Reached) (hs : s.Indexed)
include hnames hs

/-- A loader has a class of a text if the text has a name and the loader has a class of that
name. -/
theorem hasClass_iff {text : String} {h : LoaderHandle} {id : ClassId} :
  HasClass names s text h id ↔
    ∃ n, names.get? text = some n ∧ s.classIn? n h = some (h, id)
  := by
  constructor
  · rintro ⟨l, c, hl, hc, htext⟩
    use c.name, hnames.lookup?_eq_some_iff.mp htext
    apply classIn?_eq_some_iff.mpr
    use rfl, l, hl, (hs h l hl).found hc
  · rintro ⟨n, hn, hclass⟩
    obtain ⟨-, l, hl, hid⟩ := classIn?_eq_some_iff.mp hclass
    obtain ⟨c, hc, rfl⟩ := (hs h l hl).classId?_eq_some_iff.mp hid
    use l, c, hl, hc, hnames.lookup?_eq_some_iff.mpr hn

theorem classIn?_eq_none_iff {text : String} {n : Name} (hn : names.get? text = some n)
    {h : LoaderHandle} :
  s.classIn? n h = none ↔ ∀ id, ¬ HasClass names s text h id
  := by
  constructor
  · intro hnone id hclass
    obtain ⟨n', hn', hclass⟩ := (hasClass_iff hnames hs).mp hclass
    rw [hn] at hn'
    cases hn'
    rw [hnone] at hclass
    cases hclass
  · intro hnot
    cases hclass : s.classIn? n h with
    | none => rfl
    | some found =>
        obtain ⟨rfl, -⟩ := classIn?_eq_some_iff.mp hclass
        cases hnot found.2 ((hasClass_iff hnames hs).mpr ⟨n, hn, hclass⟩)

/-- What a look-up finds is the class of the text in the outermost loader that has one. -/
theorem lookupClass?_eq_some_iff {h o : LoaderHandle} {text : String} {id : ClassId} :
  s.lookupClass? names h text = some (o, id) ↔
    ∃ inner outer, s.delegationChain h = inner ++ o :: outer ∧
      HasClass names s text o id ∧ ∀ x ∈ outer, ∀ other, ¬ HasClass names s text x other
  := by
  rw [lookupClass?, Option.bind_eq_some_iff]
  constructor
  · rintro ⟨n, hn, hfound⟩
    obtain ⟨inner, outer, hsplit, hclass, houter⟩ := lookupName?_eq_some_iff.mp hfound
    use inner, outer, hsplit, (hasClass_iff hnames hs).mpr ⟨n, hn, hclass⟩
    intro x hx
    apply (classIn?_eq_none_iff hnames hs hn).mp (houter x hx)
  · rintro ⟨inner, outer, hsplit, hclass, houter⟩
    obtain ⟨n, hn, hclass⟩ := (hasClass_iff hnames hs).mp hclass
    use n, hn
    apply lookupName?_eq_some_iff.mpr
    use inner, outer, hsplit, hclass
    intro x hx
    apply (classIn?_eq_none_iff hnames hs hn).mpr (houter x hx)

/-- A look-up finds nothing exactly when no loader on the chain has a class of the text. -/
theorem lookupClass?_eq_none_iff {h : LoaderHandle} {text : String} :
  s.lookupClass? names h text = none ↔
    ∀ o ∈ s.delegationChain h, ∀ id, ¬ HasClass names s text o id
  := by
  cases hn : names.get? text with
  | none =>
      have hnone : s.lookupClass? names h text = none := by
        rw [lookupClass?, hn, Option.bind_none]
      rw [hnone, eq_self, true_iff]
      intro o ho id hclass
      obtain ⟨n, hn', -⟩ := (hasClass_iff hnames hs).mp hclass
      rw [hn] at hn'
      cases hn'
  | some n =>
      rw [lookupClass?, hn, Option.bind_some, lookupName?, List.findSome?_eq_none_iff]
      simp only [List.mem_reverse, classIn?_eq_none_iff hnames hs hn]

end

/-- Whatever is requested: the chain of a loader starts with it, leads from each loader to
its base and comes past no loader twice.  It ends at a loader without a base, or whose base
is on it already.  A look-up for a text finds the class of that text in the outermost loader
of the chain that has one, and nothing exactly if none has one.  What is found from a loader
on the chain of an initialized one is also found from the latter. -/
theorem lookups_through_bases {placement : Placement} {requests : List Request} {s : Scope}
    {names : Interner}
    (hrun : performAll {} requests (Interner.initial placement) = (s, names)) :
  (∀ h l, s.loader? h = some l → ∃ bases, s.delegationChain h = h :: bases ∧
    (h :: bases).IsChain s.IsBase ∧ (h :: bases).Nodup ∧
    ∀ last base, (h :: bases).getLast? = some last → s.IsBase last base →
      base ∈ h :: bases) ∧
  (∀ h text o id, s.lookupClass? names h text = some (o, id) ↔
    ∃ inner outer, s.delegationChain h = inner ++ o :: outer ∧
      HasClass names s text o id ∧
      ∀ x ∈ outer, ∀ other, ¬ HasClass names s text x other) ∧
  (∀ h text, s.lookupClass? names h text = none ↔
    ∀ o ∈ s.delegationChain h, ∀ id, ¬ HasClass names s text o id) ∧
  (∀ h o text found, s.isInitialized h → o ∈ s.delegationChain h →
    s.lookupClass? names o text = some found → s.lookupClass? names h text = some found)
  := by
  obtain ⟨hindexed, -⟩ := indexed_named_run (Interner.initial placement) requests
  obtain ⟨order, hordered⟩ := ordered_run (Interner.initial placement) requests
  have hlocated := located_run (Interner.initial placement) requests
  have hreached := reached_performAll (Interner.reached_initial placement) {} requests
  rw [hrun] at hindexed hordered hlocated hreached
  refine ⟨?_, ?_, ?_, ?_⟩
  · intro h l hl
    have hwalk := hlocated.walk_delegationChain hl
    obtain ⟨bases, hbases⟩ := hwalk.eq_cons
    rw [hbases] at hwalk
    use bases, hbases, hwalk.isChain, hwalk.nodup.1
    intro last base hlast hbase
    rcases hwalk.mem_of_isBase_last hlast hbase with hmem | hmet
    · apply hmem
    · cases hmet
  · intro h text o id
    apply lookupClass?_eq_some_iff hreached hindexed
  · intro h text
    apply lookupClass?_eq_none_iff hreached hindexed
  · rintro h o text ⟨x, id⟩ hh ho hfound
    obtain ⟨before, hbefore⟩ := hordered.delegationChain_of_mem hh ho
    obtain ⟨inner, outer, hsplit, hclass, houter⟩ :=
      (lookupClass?_eq_some_iff hreached hindexed).mp hfound
    apply (lookupClass?_eq_some_iff hreached hindexed).mpr
    use before ++ inner, outer
    rw [hbefore, hsplit, List.append_assoc]
    use rfl, hclass

/-- Requests for three loaders of which each is layered over the one before, and two that
depend on one another.  The first, the third and the last two have a class of one name
each. -/
def facing : List Request :=
  [.addLanguage { name := "a", language := default },
    .addLanguage { name := "b", language := default, base := some "a" },
    .addLanguage { name := "c", language := default, base := some "b" },
    .addLanguage { name := "d", language := default, base := some "e" },
    .addLanguage { name := "e", language := default, base := some "d" },
    .initializeAll,
    .edit ⟨0⟩ (.defineClass "f" none .plain .dummy),
    .edit ⟨2⟩ (.defineClass "f" none .plain .dummy),
    .edit ⟨3⟩ (.defineClass "f" none .plain .dummy),
    .edit ⟨4⟩ (.defineClass "f" none .plain .dummy)]

/-- The scope that these requests lead to, and the interner. -/
def faced : Scope × Interner := performAll {} facing (Interner.initial .bySum)

/-- Of two loaders that depend on one another each sees the class of the other. -/
theorem lookups_through_bases_faced :
  faced.1.isInitialized ⟨2⟩ ∧
    faced.1.lookupClass? faced.2 ⟨2⟩ "f" = some (⟨0⟩, ⟨0⟩) ∧
    faced.1.lookupClass? faced.2 ⟨3⟩ "f" = some (⟨4⟩, ⟨0⟩) ∧
    faced.1.lookupClass? faced.2 ⟨4⟩ "f" = some (⟨3⟩, ⟨0⟩)
  := by
  have hrun : performAll {} facing (Interner.initial .bySum) = (faced.1, faced.2) :=
    (Prod.eta faced).symm
  obtain ⟨-, -, -, hbases⟩ := lookups_through_bases hrun
  have hinitialized : faced.1.isInitialized ⟨2⟩ := by decide +kernel
  have hbase : ⟨1⟩ ∈ faced.1.delegationChain ⟨2⟩ := by decide +kernel
  have hfound : faced.1.lookupClass? faced.2 ⟨1⟩ "f" = some (⟨0⟩, ⟨0⟩) := by decide +kernel
  have hcircle : faced.1.lookupClass? faced.2 ⟨3⟩ "f" = some (⟨4⟩, ⟨0⟩) ∧
      faced.1.lookupClass? faced.2 ⟨4⟩ "f" = some (⟨3⟩, ⟨0⟩) := by decide +kernel
  exact ⟨hinitialized, hbases ⟨2⟩ ⟨1⟩ "f" (⟨0⟩, ⟨0⟩) hinitialized hbase hfound, hcircle⟩

end DialectIR.Scope
