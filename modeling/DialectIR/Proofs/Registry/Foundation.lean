import DialectIR.Proofs.Registry.Template

/-!
# Founded templates

A template is founded if its names are distinct, if each of its classes is a root or below one
that comes before it, and if its interfaces are among its classes.  Chains of superclasses in
such a template go backwards and so end.  Hence a founded template goes with every registry
that has none of its names and that can resolve the classes it has, and in particular with a
registry without classes.  What comes of the latter needs no other loader.
-/

namespace DialectIR

namespace ClassTemplate

/-- Each class of a list is a root, or below one that was seen or comes before it. -/
def Rooted (seen : List TypeRef) : List ClassTemplate → Prop
  | [] => True
  | t :: rest => (∀ superclass, t.superclass = some superclass → superclass ∈ seen) ∧
      Rooted (t.ty :: seen) rest

/-- The classes of a list have distinct names, go back to roots among themselves and have
their interfaces among themselves. -/
structure Founded (ts : List ClassTemplate) : Prop where
  names : (ts.map (·.ty.name)).Nodup
  rooted : Rooted [] ts
  interfaces : ∀ t ∈ ts, ∀ i ∈ t.interfaces, i ∈ ts.map (·.ty)

/-- A superclass was seen or is in the list. -/
theorem Rooted.superclass_mem {seen : List TypeRef} {ts : List ClassTemplate}
    (h : Rooted seen ts) {t : ClassTemplate} (ht : t ∈ ts) {superclass : TypeRef}
    (hsuper : t.superclass = some superclass) :
  superclass ∈ seen ∨ superclass ∈ ts.map (·.ty)
  := by
  induction ts generalizing seen with
  | nil => cases ht
  | cons first rest ih =>
      obtain ⟨hfirst, hrest⟩ := h
      rw [List.map_cons, List.mem_cons]
      rcases List.mem_cons.mp ht with rfl | ht
      · left
        apply hfirst superclass hsuper
      · rcases ih hrest ht with hseen | hlater
        · rcases List.mem_cons.mp hseen with rfl | hseen
          · right
            left
            rfl
          · left
            apply hseen
        · right
          right
          apply hlater

theorem founded_nil :
  Founded []
  := by
  constructor
  · simp
  · trivial
  · simp

/-- The loader to which all classes of a template belong gets all of them. -/
theorem templateOf_eq_template {l : Language} {owner : Name}
    (howner : ∀ t ∈ l.template, t.ty.loader = owner) :
  l.templateOf owner = l.template
  := by
  apply List.filter_eq_self.mpr
  intro t ht
  rw [howner t ht, beq_self_eq_true]

/-- A founded template whose classes belong to one loader is founded for every loader: that
one gets all of them, and any other none. -/
theorem Founded.templateOf {l : Language} (h : Founded l.template) {owner : Name}
    (howner : ∀ t ∈ l.template, t.ty.loader = owner) (loader : Name) :
  Founded (l.templateOf loader)
  := by
  by_cases hloader : owner = loader
  · rw [← hloader, templateOf_eq_template howner]
    apply h
  · have hnone : l.templateOf loader = [] := by
      apply List.filter_eq_nil_iff.mpr
      intro t ht
      rw [howner t ht, beq_iff_eq]
      apply hloader
    rw [hnone]
    apply founded_nil

end ClassTemplate

namespace Registry

open ClassTemplate

/-- A type leads to a class of a registry above which the chain ends. -/
def EndsAbove (r : Registry) (ty : TypeRef) : Prop :=
  ty.loader = r.loader ∧ ∃ id, r.classId? ty.name = some id ∧ r.ChainOutcome id none

/-- The classes of a registry can be resolved, and each is a root or below a class of the
same loader. -/
structure SelfContained (r : Registry) : Prop where
  resolvable {id : ClassId} {c : Class} (hc : r.class? id = some c) : r.Resolvable id
  within {id : ClassId} {c : Class} (hc : r.class? id = some c) {superclass : TypeRef}
    (hsuper : c.superclass = some superclass) : superclass.loader = r.loader

/-- Where a class can be resolved, the superclass that it names in its own loader is found. -/
theorem Resolvable.superclassOf_eq {r : Registry} {id : ClassId} (h : r.Resolvable id)
    {c : Class} (hc : r.class? id = some c) {superclass : TypeRef}
    (hsuper : c.superclass = some superclass) (hlocal : superclass.loader = r.loader)
    {parent : ClassId} (hparent : r.classId? superclass.name = some parent) :
  r.superclassOf id = .ok (some parent)
  := by
  have hnamed : r.localSuperclass c = .ok (some parent) := by
    simp only [localSuperclass, hsuper, if_pos hlocal, hparent]
  obtain ⟨answer, hanswer⟩ := h
  simp only [superclassOf, hc, hnamed] at hanswer ⊢
  cases hmissing : r.missingInterface? c with
  | some n => simp [hmissing] at hanswer
  | none =>
      cases hfault : r.chainFault? id r.size parent with
      | some fault => simp [hmissing, hfault] at hanswer
      | none => rfl

/-- The chains above the classes of a rooted list end, if those above the types that were
seen do. -/
theorem endsAbove_of_rooted {r : Registry} {seen : List TypeRef} {ts : List ClassTemplate}
    (hrooted : Rooted seen ts) (hseen : ∀ ty ∈ seen, r.EndsAbove ty)
    (hts : ∀ t ∈ ts, t.ty.loader = r.loader ∧ ∃ id c, r.classId? t.ty.name = some id ∧
      r.class? id = some c ∧ c.superclass = t.superclass) :
  ∀ t ∈ ts, r.EndsAbove t.ty
  := by
  induction ts generalizing seen with
  | nil => simp
  | cons t rest ih =>
      obtain ⟨hsuper, hrest⟩ := hrooted
      obtain ⟨⟨hloader, id, c, hid, hc, hct⟩, hts⟩ := List.forall_mem_cons.mp hts
      have hends : r.EndsAbove t.ty := by
        use hloader, id, hid
        cases habove : t.superclass with
        | none =>
            apply ChainOutcome.ends (k := 0) rfl hc
            intro superclass h
            rw [hct, habove] at h
            cases h
        | some superclass =>
            obtain ⟨hlocal, parent, hparent, hends⟩ := hseen superclass (hsuper _ habove)
            have hnamed : c.superclass = some ⟨r.loader, superclass.name⟩ := by
              rw [hct, habove, ← hlocal]
            apply ChainOutcome.of_parent _ hends
            rw [parent?_of_superclass hc hnamed, hparent]
      have hseen' : ∀ ty ∈ t.ty :: seen, r.EndsAbove ty :=
        List.forall_mem_cons.mpr ⟨hends, hseen⟩
      rw [List.forall_mem_cons]
      use hends, ih hrest hseen' hts

/-- What has the classes of a template as well extends the registry. -/
theorem extends_filledBy {r : Registry} {l : Language}
    (hnames : ((l.templateOf r.loader).map (·.ty.name)).Nodup)
    (hfresh : ∀ t ∈ l.templateOf r.loader, r.classId? t.ty.name = none) :
  r.Extends (r.filledBy l)
  := by
  have hextends := defineEach_induct (P := r.Extends)
    (fun s d id t hs hdefine => hs.trans (extends_define hdefine)) r.extends_self
    ((l.templateOf r.loader).map ClassTemplate.definition)
  rw [defineEach_definition_eq_ok_iff.mpr ⟨hnames, hfresh, rfl⟩] at hextends
  apply hextends

/-- The classes of a template belong to the loader that it is for. -/
theorem loader_of_mem_templateOf {l : Language} {loader : Name} {t : ClassTemplate}
    (ht : t ∈ l.templateOf loader) :
  t.ty.loader = loader
  := eq_of_beq (List.mem_filter.mp ht).2

/-- A class of a registry with a template was there before or is one of the template. -/
theorem class?_filledBy_cases {r : Registry} {l : Language} {id : ClassId} {c : Class}
    (hc : (r.filledBy l).class? id = some c) :
  r.class? id = some c ∨ ∃ t ∈ l.templateOf r.loader, c = r.classOf t.definition
  := by
  obtain ⟨index⟩ := id
  rcases Nat.lt_or_ge index r.classes.size with hold | hnew
  · left
    rw [filledBy, class?, extendedBy, Array.getElem?_append_left hold] at hc
    apply hc
  · right
    obtain ⟨i, rfl⟩ := Nat.exists_eq_add_of_le hnew
    rw [← size, filledBy, class?_extendedBy_add, List.getElem?_map, Option.map_map] at hc
    obtain ⟨t, ht, rfl⟩ := Option.map_eq_some_iff.mp hc
    use t, List.mem_of_getElem? ht
    rfl

/-- The name of a class of a template leads to that class once the template was added. -/
theorem exists_class?_filledBy {r : Registry} {l : Language} (h : (r.filledBy l).Indexed)
    {t : ClassTemplate} (ht : t ∈ l.templateOf r.loader) :
  ∃ id, (r.filledBy l).classId? t.ty.name = some id ∧
    (r.filledBy l).class? id = some (r.classOf t.definition)
  := by
  obtain ⟨i, hi⟩ := List.mem_iff_getElem?.mp ht
  have hc : (r.filledBy l).class? ⟨r.size + i⟩ = some (r.classOf t.definition) := by
    rw [filledBy, class?_extendedBy_add, List.getElem?_map, hi]
    rfl
  use ⟨r.size + i⟩, h.found hc, hc

/-- A founded template goes with a registry that has none of its names and that can resolve
the classes it has. -/
theorem Indexed.accepts_of_founded {r : Registry} (h : r.Indexed) {l : Language}
    (hfounded : Founded (l.templateOf r.loader))
    (hfresh : ∀ t ∈ l.templateOf r.loader, r.classId? t.ty.name = none)
    (hall : ∀ id c, r.class? id = some c → r.Resolvable id) :
  r.Accepts l
  := by
  have hfilled := h.filledBy hfounded.names hfresh
  have hends : ∀ t ∈ l.templateOf r.loader, (r.filledBy l).EndsAbove t.ty := by
    apply endsAbove_of_rooted hfounded.rooted (by simp)
    intro t ht
    obtain ⟨id, hid, hc⟩ := exists_class?_filledBy hfilled ht
    exact ⟨loader_of_mem_templateOf ht, id, _, hid, hc, rfl⟩
  use hfounded.names, hfresh _
  intro id c hc
  rcases class?_filledBy_cases hc with hold | ⟨t, ht, rfl⟩
  · apply (extends_filledBy hfounded.names hfresh).resolvable h hfilled (hall id c hold)
  · apply (hfilled.resolvable_iff hc).mpr
    constructor
    · intro i hi _
      obtain ⟨u, hu, rfl⟩ := List.mem_map.mp (hfounded.interfaces t ht i hi)
      obtain ⟨id', hid', -⟩ := exists_class?_filledBy hfilled hu
      rw [hid']
      rfl
    · obtain ⟨-, id', hid', houtcome⟩ := hends t ht
      obtain rfl : id = id' := Option.some.inj ((hfilled.found hc).symm.trans hid')
      apply houtcome

/-! ### Registries without other classes -/

section

variable {loader : Name} {synthetic : Bool} {l : Language} {s : Registry}

/-- The classes after a bootstrap of a registry without classes are those of the template. -/
theorem Bootstrapped.eq_of_class? (h : (empty loader synthetic).Bootstrapped l s)
    {id : ClassId} {c : Class} (hc : s.class? id = some c) :
  ∃ t ∈ l.templateOf loader, c = t.bootstrapped synthetic
  := by
  have hzero : (empty loader synthetic).size = 0 := rfl
  have hsize : s.size = (l.templateOf loader).length := h.size.trans (Nat.zero_add _)
  have hlt : id.index < (l.templateOf loader).length := by
    rw [← hsize]
    apply lt_size_of_class? hc
  have ht := List.getElem?_eq_getElem hlt
  obtain ⟨hadded, -⟩ := h.added (i := id.index) ht
  rw [hzero, Nat.zero_add, hc] at hadded
  use (l.templateOf loader)[id.index], List.mem_of_getElem? ht
  apply Option.some.inj hadded

/-- The type of a class of the template leads to the class. -/
theorem Bootstrapped.exists_class? (h : (empty loader synthetic).Bootstrapped l s)
    {t : ClassTemplate} (ht : t ∈ l.templateOf loader) :
  ∃ id, s.classId? t.ty.name = some id ∧ s.class? id = some (t.bootstrapped synthetic)
  := by
  obtain ⟨i, hi⟩ := List.mem_iff_getElem?.mp ht
  obtain ⟨hc, hn⟩ := h.added hi
  exact ⟨_, hn, hc⟩

theorem Bootstrapped.loader_eq (h : (empty loader synthetic).Bootstrapped l s) :
  s.loader = loader
  := by
  rw [h.rest]
  rfl

/-- The superclass that a class of a founded template names is found. -/
theorem Bootstrapped.exists_superclassOf (h : (empty loader synthetic).Bootstrapped l s)
    (hfounded : Founded (l.templateOf loader)) {t : ClassTemplate}
    (ht : t ∈ l.templateOf loader) {superclass : TypeRef}
    (hsuper : t.superclass = some superclass) :
  ∃ id parent, s.classId? t.ty.name = some id ∧ s.classId? superclass.name = some parent ∧
    s.superclassOf id = .ok (some parent)
  := by
  obtain ⟨id, hid, hc⟩ := h.exists_class? ht
  rcases hfounded.rooted.superclass_mem ht hsuper with hnone | hmem
  · cases hnone
  · obtain ⟨u, hu, rfl⟩ := List.mem_map.mp hmem
    obtain ⟨parent, hparent, -⟩ := h.exists_class? hu
    have hlocal : u.ty.loader = s.loader := by
      rw [h.loader_eq, loader_of_mem_templateOf hu]
    use id, parent, hid, hparent
    apply (h.resolvable hc).superclassOf_eq hc hsuper hlocal hparent

end

/-- A founded template can be defined in a registry without classes, which then contains all
that its classes need. -/
theorem defineTemplate_empty_of_founded {loader : Name} {l : Language}
    (hfounded : Founded (l.templateOf loader)) (synthetic : Bool) :
  ∃ s, (empty loader synthetic).defineTemplate l = (s, .ok ()) ∧
    (empty loader synthetic).Bootstrapped l s ∧ s.SelfContained
  := by
  have hempty := indexed_empty loader synthetic
  have haccepts : (empty loader synthetic).Accepts l := by
    apply hempty.accepts_of_founded hfounded
    · intro t ht
      rfl
    · intro id c hc
      simp [empty, class?] at hc
  have hb := haccepts.bootstrapped hempty
  refine ⟨_, hempty.defineTemplate_eq_ok_iff.mpr ⟨haccepts, rfl⟩, hb, ?_⟩
  constructor
  · intro id c hc
    apply hb.resolvable hc
  · intro id c hc superclass hsuper
    obtain ⟨t, ht, rfl⟩ := hb.eq_of_class? hc
    rw [hb.loader_eq]
    rcases hfounded.rooted.superclass_mem ht hsuper with hnone | hmem
    · cases hnone
    · obtain ⟨u, hu, rfl⟩ := List.mem_map.mp hmem
      apply loader_of_mem_templateOf hu

end Registry

end DialectIR
