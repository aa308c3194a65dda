import DialectIR.Proofs.Registry.Rollback
import DialectIR.Proofs.Scope.Ancestry

/-!
# What types denote

A type names a loader and a class.  Within that loader it denotes the class of the name.
From other loaders it is looked up along the whole chain of bases of the loader, the
outermost first, and so it denotes the class of the outermost loader on the chain that has
one of the name.

These are two classes exactly when a base has a class of the same name.
-/

namespace DialectIR.Scope

/-- The names of the loaders of a scope lead to them, and their registries have the same
names. -/
structure Named (s : Scope) : Prop where
  found {h : LoaderHandle} {l : Loader} (hl : s.loader? h = some l) :
    s.handle? l.name = some h
  owner {h : LoaderHandle} {l : Loader} (hl : s.loader? h = some l) :
    l.registry.loader = l.name

/-- Of the loaders of a list, innermost first, the outermost that has a class of a name,
and that class. -/
def OutermostIn (s : Scope) (n : Name) (chain : List LoaderHandle) (o : LoaderHandle)
    (id : ClassId) : Prop :=
  ∃ inner outer, chain = inner ++ o :: outer ∧ s.classIn? n o = some (o, id) ∧
    ∀ x ∈ outer, s.classIn? n x = none

/-! ### Names along a run -/

theorem named_nil :
  Named {}
  := by
  constructor
  · intro h l hl
    simp [loader?] at hl
  · intro h l hl
    simp [loader?] at hl

theorem Named.push {s : Scope} (hs : s.Named) {l : Loader} (hnew : l.IsNew)
    (hname : s.handle? l.name = none) :
  (s.push l).Named
  := by
  constructor
  · intro h l' hl'
    rw [loader?_push] at hl'
    split at hl'
    · rename_i hsame
      cases hl'
      rw [hsame]
      simp [handle?, Scope.push]
    · apply (extends_push hname).handle (hs.found hl')
  · intro h l' hl'
    rw [loader?_push] at hl'
    split at hl'
    · cases hl'
      obtain ⟨synthetic, hempty⟩ := hnew.registry
      rw [hempty]
      rfl
    · apply hs.owner hl'

theorem Named.replace {s : Scope} (hs : s.Named) {h : LoaderHandle} {old l : Loader}
    (hold : s.loader? h = some old) (hname : l.name = old.name)
    (howner : l.registry.loader = old.registry.loader) :
  (s.replace h l).Named
  := by
  constructor
  · intro o l' hl'
    rw [loader?_replace hold] at hl'
    split at hl'
    · rename_i hsame
      cases hl'
      rw [hname, hsame]
      apply hs.found hold
    · apply hs.found hl'
  · intro o l' hl'
    rw [loader?_replace hold] at hl'
    split at hl'
    · cases hl'
      rw [howner, hname]
      apply hs.owner hold
    · apply hs.owner hl'

theorem Named.setRegistry {s : Scope} (hs : s.Named) {h : LoaderHandle} {l : Loader}
    (hl : s.loader? h = some l) {r : Registry} (hr : r.loader = l.registry.loader) :
  (s.setRegistry h r).Named
  := by
  rw [setRegistry_eq_replace hl]
  exact hs.replace hl rfl hr

theorem Named.change {editable : Prop} {names : Interner} {s t : Scope} (hs : s.Named)
    (hindexed : s.Indexed) (h : Change editable names s t) :
  t.Named
  := by
  have hbootstrap : ∀ {h l}, s.loader? h = some l →
      (l.registry.bootstrap names l.language).1.loader = l.registry.loader := by
    intro h l hl
    apply ((hindexed h l hl).extends_change (Registry.Change.bootstrap l.language)).loader
  cases h with
  | keep => apply hs
  | add hnew hname => apply hs.push hnew hname
  | attempt hattempt =>
      cases hattempt with
      | keep => apply hs
      | failed hl hnew hr =>
          apply hs.setRegistry hl
          rcases hr with rfl | rfl
          · apply hbootstrap hl
          · apply hbootstrap hl
      | done hl hnew hbase hstarted hresolved =>
          have howner := hbootstrap hl
          rw [hstarted] at howner
          rw [markInitialized_setRegistry hl]
          exact hs.replace hl rfl howner
  | edit heditable hl hr =>
      apply hs.setRegistry hl
      apply ((hindexed _ _ hl).extends_change hr).loader

/-- Whatever is requested, registries are consistent and names lead to their loaders. -/
theorem indexed_named_run (names : Interner) (requests : List Request) :
  (performAll {} requests names).1.Indexed ∧ (performAll {} requests names).1.Named
  := by
  have hstep : ∀ (past : List Scope) names s t, s.Indexed ∧ s.Named →
      Change True names s t → t.Indexed ∧ t.Named := by
    rintro past names s t ⟨hindexed, hnamed⟩ hchange
    use hindexed.change hchange
    apply hnamed.change hindexed hchange
  have hfirst : Indexed {} ∧ Named {} := ⟨allSettled_nil.1, named_nil⟩
  apply performAll_induct (P := fun _ s => s.Indexed ∧ s.Named) hstep hfirst
  · intro request _ _
    trivial
  · exact []

/-! ### Chains of bases -/

/-- A loader that was met before is not on a chain again. -/
theorem not_mem_chainFrom {s : Scope} {fuel : Nat} {seen : List LoaderHandle}
    {h o : LoaderHandle} (ho : o ∈ s.chainFrom fuel seen h) :
  o ∉ seen
  := by
  induction fuel generalizing seen h with
  | zero => cases ho
  | succ fuel ih =>
      rw [chainFrom] at ho
      split at ho
      · cases ho
      · rename_i hnew
        cases hbase : s.base? h with
        | none =>
            rw [hbase] at ho
            rw [List.mem_singleton.mp ho]
            apply hnew
        | some base =>
            rw [hbase] at ho
            rcases List.mem_cons.mp ho with rfl | hrest
            · apply hnew
            · intro hseen
              apply ih hrest (List.mem_cons_of_mem h hseen)

/-- The chain of a loader starts with the loader, which does not come again. -/
theorem delegationChain_eq_cons {s : Scope} {h : LoaderHandle} {l : Loader}
    (hl : s.loader? h = some l) :
  ∃ bases, s.delegationChain h = h :: bases ∧ h ∉ bases
  := by
  obtain ⟨hlt, -⟩ := Array.getElem?_eq_some_iff.mp hl
  obtain ⟨fuel, hfuel⟩ := Nat.exists_eq_succ_of_ne_zero (Nat.ne_zero_of_lt hlt)
  rw [delegationChain, size, hfuel, chainFrom, if_neg List.not_mem_nil]
  cases s.base? h with
  | none => use [], rfl, List.not_mem_nil
  | some base =>
      use s.chainFrom fuel [h] base, rfl
      intro hmem
      apply not_mem_chainFrom hmem List.mem_cons_self

/-! ### The outermost class -/

/-- A look-up from a loader gives the outermost class on its chain. -/
theorem lookupName?_eq_some_iff {s : Scope} {n : Name} {h o : LoaderHandle}
    {id : ClassId} :
  s.lookupName? h n = some (o, id) ↔ s.OutermostIn n (s.delegationChain h) o id
  := by
  rw [lookupName?, List.findSome?_eq_some_iff]
  constructor
  · rintro ⟨outer, x, inner, hsplit, hclass, houter⟩
    obtain ⟨rfl, -⟩ := classIn?_eq_some_iff.mp hclass
    use inner.reverse, outer.reverse
    refine ⟨?_, hclass, ?_⟩
    · rw [← List.reverse_reverse (s.delegationChain h), hsplit]
      simp
    · intro x hx
      apply houter x (List.mem_reverse.mp hx)
  · rintro ⟨inner, outer, hsplit, hclass, houter⟩
    use outer.reverse, o, inner.reverse
    refine ⟨?_, hclass, ?_⟩
    · rw [hsplit]
      simp
    · intro x hx
      apply houter x (List.mem_reverse.mp hx)

/-- A look-up from a loader that has a class of the name gives some class. -/
theorem exists_lookupName? {s : Scope} {n : Name} {h o : LoaderHandle} {id : ClassId}
    (ho : o ∈ s.delegationChain h) (hclass : s.classIn? n o = some (o, id)) :
  ∃ x found, s.lookupName? h n = some (x, found)
  := by
  cases hfound : s.lookupName? h n with
  | some answer => use answer.1, answer.2
  | none =>
      have hnone := List.findSome?_eq_none_iff.mp hfound o (List.mem_reverse.mpr ho)
      rw [hclass] at hnone
      cases hnone

/-- The class of the first loader of a list is the outermost exactly when no other loader
has one. -/
theorem outermostIn_cons_iff {s : Scope} {n : Name} {h : LoaderHandle}
    {bases : List LoaderHandle} (hnew : h ∉ bases) {id : ClassId}
    (hclass : s.classIn? n h = some (h, id)) :
  s.OutermostIn n (h :: bases) h id ↔ ∀ o ∈ h :: bases, o ≠ h → s.classIn? n o = none
  := by
  constructor
  · rintro ⟨inner, outer, hsplit, -, houter⟩ o ho hne
    cases inner with
    | nil =>
        obtain ⟨-, rfl⟩ := List.cons.inj hsplit
        rcases List.mem_cons.mp ho with rfl | hbase
        · cases hne rfl
        · apply houter o hbase
    | cons first inner =>
        -- Otherwise the loader would come again among the bases.
        obtain ⟨-, rfl⟩ := List.cons.inj hsplit
        cases hnew (List.mem_append_right inner List.mem_cons_self)
  · intro hothers
    use [], bases, rfl, hclass
    intro x hx
    apply hothers x (List.mem_cons_of_mem h hx)
    rintro rfl
    apply hnew hx

/-! ### Types -/

theorem Named.lookupType?_eq {s : Scope} (hnamed : s.Named) (hindexed : s.Indexed)
    {h : LoaderHandle} {l : Loader} (hl : s.loader? h = some l) {id : ClassId} {c : Class}
    (hc : l.registry.class? id = some c) :
  s.lookupType? c.ty = s.lookupName? h c.name
  := by
  have hloader : c.ty.loader = l.name :=
    ((hindexed h l hl).loader hc).trans (hnamed.owner hl)
  rw [lookupType?, hloader, hnamed.found hl]
  rfl

/-- Two loaders of one name are the same. -/
theorem Named.handle_unique {s : Scope} (hs : s.Named) {g h : LoaderHandle} {m l : Loader}
    (hm : s.loader? g = some m) (hl : s.loader? h = some l) (hname : m.name = l.name) :
  g = h
  := by
  have hg := hs.found hm
  rw [hname, hs.found hl] at hg
  apply (Option.some.inj hg).symm

/-- The superclass that is found for a class below another is that class itself if both
belong to one loader, and otherwise what its type denotes. -/
theorem Named.resolveSuperclass_below {s : Scope} (hnamed : s.Named) (hindexed : s.Indexed)
    {h g : LoaderHandle} {l m : Loader} (hl : s.loader? h = some l)
    (hm : s.loader? g = some m) {id sub : ClassId} {c d : Class}
    (hc : l.registry.class? id = some c) (hd : m.registry.class? sub = some d)
    (hsuper : d.superclass = some c.ty) {answer : Option (LoaderHandle × ClassId)}
    (hanswer : s.resolveSuperclass g sub = .ok answer) :
  answer = if g = h then some (h, id) else s.lookupType? c.ty
  := by
  have hloader : c.ty.loader = l.registry.loader := (hindexed h l hl).loader hc
  cases resolves_of_resolveSuperclass hindexed hm hd hanswer with
  | @below superclass hup =>
      obtain ⟨hparent, -⟩ := (hindexed g m hm).chain_of_superclassOf hd hup
      obtain ⟨d', n, hd', hsuper', hn⟩ := Registry.parent?_eq_some_iff.mp hparent
      rw [hd] at hd'
      cases hd'
      have hty : c.ty = ⟨m.registry.loader, n⟩ := Option.some.inj (hsuper.symm.trans hsuper')
      obtain rfl : g = h := by
        apply hnamed.handle_unique hm hl
        rw [← hnamed.owner hm, ← hnamed.owner hl, ← hloader, hty]
      rw [hl] at hm
      cases hm
      have hid := (hindexed g l hl).found hc
      rw [Class.name, hty, hn] at hid
      cases hid
      rw [if_pos rfl]
  | root hup hd' hroot =>
      rw [hd] at hd'
      cases hd'
      rw [hsuper] at hroot
      cases hroot
  | foreign hup hd' hsuper' hforeign ho hready hfound =>
      rw [hd] at hd'
      cases hd'
      rw [hsuper] at hsuper'
      cases hsuper'
      have hother : g ≠ h := by
        rintro rfl
        rw [hl] at hm
        cases hm
        apply hforeign hloader
      rw [if_neg hother, lookupType?, ho]
      exact hfound.symm

/-- A type of a class denotes the class of its name in the outermost loader on the chain of
its own that has one; so it denotes the class exactly when no base has a class of the same
name.  A class whose superclass is given by that type is below the class if both belong to
one loader, and otherwise below the one denoted. -/
theorem type_denotes_outermost (names : Interner) (requests : List Request) {s : Scope}
    (hs : (performAll {} requests names).1 = s) {h : LoaderHandle} {l : Loader}
    (hl : s.loader? h = some l) {id : ClassId} {c : Class}
    (hc : l.registry.class? id = some c) :
  (∃ o found, s.lookupType? c.ty = some (o, found) ∧
    s.OutermostIn c.name (s.delegationChain h) o found) ∧
  (s.lookupType? c.ty = some (h, id) ↔
    ∀ o ∈ s.delegationChain h, o ≠ h → s.classIn? c.name o = none) ∧
  (∀ g m sub d answer, s.loader? g = some m → m.registry.class? sub = some d →
    d.superclass = some c.ty → s.resolveSuperclass g sub = .ok answer →
    answer = if g = h then some (h, id) else s.lookupType? c.ty)
  := by
  obtain ⟨hindexed, hnamed⟩ := indexed_named_run names requests
  rw [hs] at hindexed hnamed
  have hclass : s.classIn? c.name h = some (h, id) :=
    classIn?_eq_some_iff.mpr ⟨rfl, l, hl, (hindexed h l hl).found hc⟩
  obtain ⟨bases, hchain, hnew⟩ := delegationChain_eq_cons hl
  have hmem : h ∈ s.delegationChain h := by
    rw [hchain]
    apply List.mem_cons_self
  rw [hnamed.lookupType?_eq hindexed hl hc]
  refine ⟨?_, ?_, ?_⟩
  · obtain ⟨o, found, hfound⟩ := exists_lookupName? hmem hclass
    use o, found, hfound
    apply lookupName?_eq_some_iff.mp hfound
  · rw [lookupName?_eq_some_iff, hchain]
    apply outermostIn_cons_iff hnew hclass
  · intro g m sub d answer hm hd hsuper hanswer
    rw [← hnamed.lookupType?_eq hindexed hl hc]
    apply hnamed.resolveSuperclass_below hindexed hl hm hc hd hsuper hanswer

theorem type_denotes_outermost_layered :
  ∃ l c, layered.loader? ⟨1⟩ = some l ∧ l.registry.class? ⟨0⟩ = some c ∧
    layered.lookupType? c.ty = some (⟨1⟩, ⟨0⟩)
  := by
  have hs : (performAll {} layering (Interner.initial .bySum)).1 = layered := rfl
  obtain ⟨l, hl, c, hc, hname⟩ : ∃ l, layered.loader? ⟨1⟩ = some l ∧
      ∃ c, l.registry.class? ⟨0⟩ = some c ∧ c.name = ⟨80⟩ := ⟨_, rfl, _, rfl, rfl⟩
  obtain ⟨-, hdenotes, -⟩ := type_denotes_outermost _ _ hs hl hc
  use l, c, hl, hc
  rw [hdenotes, hname]
  decide +kernel

/-- Requests for a loader, one that is layered over it, and a third.  The first two have a
class of one name each, below which the last two have a class each. -/
def shadowing : List Request :=
  [.addLanguage { name := "a", language := default },
    .addLanguage { name := "b", language := default, base := some "a" },
    .addLanguage { name := "d", language := default },
    .initializeAll,
    .edit ⟨0⟩ (.defineClass "f" none .plain .dummy),
    .edit ⟨1⟩ (.defineClass "f" none .plain .dummy),
    .edit ⟨1⟩ (.defineClass "g" (some "f") .plain .dummy),
    .edit ⟨2⟩ (.define { name := ⟨7⟩, kind := .plain, superclass := some ⟨⟨2⟩, ⟨6⟩⟩ })]

/-- The scope that these requests lead to. -/
def shadowed : Scope := (performAll {} shadowing (Interner.initial .bySum)).1

/-- The type of a class may denote another class, so that of two classes whose superclass is
given by that type one is below the class and the other is not. -/
theorem type_denotes_shadowing_class :
  ((shadowed.loader? ⟨1⟩).bind fun l => (l.registry.class? ⟨0⟩).map (·.ty))
      = some ⟨⟨2⟩, ⟨6⟩⟩ ∧
    shadowed.lookupType? ⟨⟨2⟩, ⟨6⟩⟩ = some (⟨0⟩, ⟨0⟩) ∧
    shadowed.resolveSuperclass ⟨1⟩ ⟨1⟩ = .ok (some (⟨1⟩, ⟨0⟩)) ∧
    shadowed.resolveSuperclass ⟨2⟩ ⟨0⟩ = .ok (some (⟨0⟩, ⟨0⟩))
  := by
  decide +kernel

end DialectIR.Scope
