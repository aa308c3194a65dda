import DialectIR.Proofs.Registry.Chain

/-!
# Registries that grow

Whatever is requested of a registry short of taking a bootstrap back, each class stays at
its position and stays what its definition made it, except for its kind and its state.  So
a class whose hierarchy can be resolved remains one: its interfaces and the names on its
chain lead to the same classes as before, and the chain has the same end.

This works in both directions between registries that differ in kinds and states only.
-/

namespace DialectIR

/-- Classes that differ in kind and state at most. -/
def Class.Alike (c d : Class) : Prop :=
  d = { c with kind := d.kind, state := d.state }

namespace Registry

/-- The classes and names of a registry are those of another as well. -/
structure Extends (r s : Registry) : Prop where
  loader : s.loader = r.loader
  found {n : Name} {id : ClassId} (hn : r.classId? n = some id) : s.classId? n = some id
  kept {id : ClassId} {c : Class} (hc : r.class? id = some c) :
    ∃ d, s.class? id = some d ∧ c.Alike d

/-- The hierarchy of the class at a position can be resolved. -/
def Resolvable (r : Registry) (id : ClassId) : Prop :=
  ∃ superclass, r.superclassOf id = .ok superclass

/-! ### Extensions -/

theorem extends_self (r : Registry) :
  r.Extends r
  := by
  constructor
  · rfl
  · intro n id hn
    apply hn
  · intro id c hc
    use c, hc
    rfl

theorem Extends.trans {r s t : Registry} (h : r.Extends s) (h' : s.Extends t) :
  r.Extends t
  := by
  constructor
  · rw [h'.loader, h.loader]
  · intro n id hn
    apply h'.found (h.found hn)
  · intro id c hc
    obtain ⟨d, hd, hcd⟩ := h.kept hc
    obtain ⟨e, he, hde⟩ := h'.kept hd
    use e, he
    rw [Class.Alike, hde, hcd]

/-- A definition leaves the classes and names before it. -/
theorem extends_define {r s : Registry} {d : ClassDef} {new : ClassId}
    (hdefine : r.define d = (s, .ok new)) :
  r.Extends s
  := by
  have hclass := @class?_define _ _ _ _ hdefine
  obtain ⟨hfresh, rfl, rfl⟩ := define_eq_ok.mp hdefine
  constructor
  · rfl
  · intro n id hn
    have hne : n ≠ d.name := by
      rintro rfl
      rw [hfresh] at hn
      cases hn
    simp only [classId?, List.lookup_cons, beq_false_of_ne hne]
    apply hn
  · intro id c hc
    use c, hclass.mpr (.inl hc)
    rfl

theorem extends_modifyClass (r : Registry) (id : ClassId) {f : Class → Class}
    (hf : ∀ c : Class, c.Alike (f c)) :
  r.Extends (r.modifyClass id f)
  := by
  constructor
  · rfl
  · intro n other hn
    apply hn
  · intro other c hc
    obtain ⟨d, hd, rfl | rfl⟩ := class?_modifyClass_of_class? hc id f
    · use d, hd
      rfl
    · use f c, hd, hf c

/-- What a registry was before a class changed in kind and state extends it as well. -/
theorem modifyClass_extends (r : Registry) (id : ClassId) {f : Class → Class}
    (hf : ∀ c : Class, c.Alike (f c)) :
  (r.modifyClass id f).Extends r
  := by
  constructor
  · rfl
  · intro n other hn
    apply hn
  · intro other d hd
    obtain ⟨c, hc, rfl | rfl⟩ := class?_of_modifyClass hd
    · use d, hc
      rfl
    · use c, hc
      rw [Class.Alike, hf c]

theorem extends_resolveSuperclass {r s : Registry} {id : ClassId}
    {superclass : Option ClassId} (hresolve : r.resolveSuperclass id = (s, .ok superclass)) :
  r.Extends s
  := by
  obtain ⟨-, rfl⟩ := resolveSuperclass_eq_ok.mp hresolve
  apply extends_modifyClass
  intro c
  rfl

theorem extends_resolveEach (r : Registry) (ids : List ClassId) :
  r.Extends (r.resolveEach ids).1
  := by
  apply resolveEach_induct (P := r.Extends) _ r.extends_self
  intro s id superclass t hs hresolve
  apply hs.trans (extends_resolveSuperclass hresolve)

theorem extends_bound (r : Registry) (id : ClassId) (c : Class) (selector : Name)
    (body : CodeBody) :
  r.Extends (r.bound id c selector body)
  := by
  have hbound := (r.extends_modifyClass id (f := Class.resolved) (fun _ => rfl)).trans
    (extends_modifyClass _ id (f := (·.bind ⟨r.methods.size⟩)) (fun _ => rfl))
  exact ⟨hbound.loader, hbound.found, hbound.kept⟩

/-- What a template defines is added to what there was, as far as that went. -/
theorem extends_defineTemplate (r : Registry) (l : Language) :
  r.Extends (r.defineTemplate l).1
  := by
  apply defineTemplate_induct (P := r.Extends) _ _ _ r.extends_self
  · intro s d id t hs hdefine
    apply hs.trans (extends_define hdefine)
  · intro s id superclass t hs hresolve
    apply hs.trans (extends_resolveSuperclass hresolve)
  · intro s types hs
    exact ⟨hs.loader, hs.found, hs.kept⟩

/-- A request other than a bootstrap extends the registry. -/
theorem Advance.extends {names : Interner} {r s : Registry} (h : Advance names r s) :
  r.Extends s
  := by
  cases h with
  | keep => apply extends_self
  | define hdefine => apply extends_define hdefine
  | bind hc hkind hup hname body => apply extends_bound
  | resolve hresolve => apply extends_resolveSuperclass hresolve
  | resolveAll => apply extends_resolveEach

/-! ### Hierarchies in an extension -/

/-- The superclass of a class is the same in an extension. -/
theorem Extends.parent? {r s : Registry} (h : r.Extends s) {id parent : ClassId}
    (hp : r.parent? id = some parent) :
  s.parent? id = some parent
  := by
  obtain ⟨c, n, hc, hsuper, hn⟩ := parent?_eq_some_iff.mp hp
  obtain ⟨d, hd, hcd⟩ := h.kept hc
  apply parent?_eq_some_iff.mpr
  use d, n, hd
  rw [hcd, h.loader]
  use hsuper, h.found hn

theorem Extends.ancestor? {r s : Registry} (h : r.Extends s) {k : Nat} {id top : ClassId}
    (hk : r.ancestor? k id = some top) :
  s.ancestor? k id = some top
  := by
  induction k generalizing id with
  | zero => apply hk
  | succ k ih =>
      obtain ⟨parent, hp, hk⟩ := Option.bind_eq_some_iff.mp hk
      rw [Registry.ancestor?, h.parent? hp]
      apply ih hk

/-- A chain that ends has the same end in an extension. -/
theorem Extends.chainOutcome {r s : Registry} (h : r.Extends s) {id : ClassId}
    (houtcome : r.ChainOutcome id none) :
  s.ChainOutcome id none
  := by
  cases houtcome with
  | @ends k top d hk hd htop =>
      obtain ⟨d', hd', hlike⟩ := h.kept hd
      apply ChainOutcome.ends (h.ancestor? hk) hd'
      intro superclass hsuper
      rw [hlike] at hsuper
      rw [h.loader]
      apply htop superclass hsuper

theorem Extends.interfacesDefined {r s : Registry} (h : r.Extends s) {c d : Class}
    (hcd : c.Alike d) (hi : r.InterfacesDefined c) :
  s.InterfacesDefined d
  := by
  intro i hmem hlocal
  rw [hcd] at hmem
  rw [h.loader] at hlocal
  obtain ⟨id, hid⟩ := Option.isSome_iff_exists.mp (hi i hmem hlocal)
  rw [h.found hid]
  rfl

/-! ### Resolvable classes -/

theorem Resolvable.class? {r : Registry} {id : ClassId} (h : r.Resolvable id) :
  ∃ c, r.class? id = some c
  := by
  obtain ⟨superclass, hup⟩ := h
  cases hc : r.class? id with
  | none =>
      rw [superclassOf, hc] at hup
      cases hup
  | some c => use c

/-- The hierarchy of a class can be resolved exactly when its interfaces are defined and
the chain above it ends. -/
theorem Indexed.resolvable_iff {r : Registry} (h : r.Indexed) {id : ClassId} {c : Class}
    (hc : r.class? id = some c) :
  r.Resolvable id ↔ r.InterfacesDefined c ∧ r.ChainOutcome id none
  := by
  obtain ⟨n, hn, hup⟩ | ⟨hi, outcome, houtcome, hup⟩ :=
    (h.superclassOf_answer hc).interface_or_outcome hc
  · constructor
    · rintro ⟨superclass, hok⟩
      rw [hup] at hok
      cases hok
    · rintro ⟨hi, -⟩
      cases hi.not_firstUndefined hn
  · constructor
    · rintro ⟨superclass, hok⟩
      cases outcome with
      | none => use hi, houtcome
      | some fault =>
          rw [hup] at hok
          cases hok
    · rintro ⟨-, hends⟩
      obtain rfl := houtcome.unique hends
      use r.parent? id
      apply hup

/-- A hierarchy that can be resolved can be in every extension. -/
theorem Extends.resolvable {r s : Registry} (h : r.Extends s) (hr : r.Indexed)
    (hs : s.Indexed) {id : ClassId} (hresolvable : r.Resolvable id) :
  s.Resolvable id
  := by
  obtain ⟨c, hc⟩ := hresolvable.class?
  obtain ⟨hi, hends⟩ := (hr.resolvable_iff hc).mp hresolvable
  obtain ⟨d, hd, hcd⟩ := h.kept hc
  apply (hs.resolvable_iff hd).mpr
  use h.interfacesDefined hcd hi, h.chainOutcome hends

end Registry

end DialectIR
