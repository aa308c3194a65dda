import DialectIR.Proofs.Registry.Answers

/-!
# The order of definitions

Classes get their positions in the order of their definitions, but what is said about them
is said by name.  Two registries of one loader in which every name leads to the same class
agree about the hierarchy, whatever the positions: the chain above a class goes through the
same classes in both, and comes to the same.
-/

namespace DialectIR.Registry

/-- Registries of one loader that index their classes, and in which every name leads to the
same class. -/
structure Rearranged (r s : Registry) : Prop where
  left : r.Indexed
  right : s.Indexed
  loader : s.loader = r.loader
  named (n : Name) : s.classNamed? n = r.classNamed? n

/-- The same answer about superclasses in two registries, with positions read as the names
of their classes. -/
inductive SameAnswer (r s : Registry) :
    Except RegistryError (Option ClassId) → Except RegistryError (Option ClassId) → Prop where
  | none : SameAnswer r s (.ok none) (.ok none)
  | some {id id' : ClassId} {c d : Class} (hc : r.class? id = some c)
    (hd : s.class? id' = some d) (hname : d.name = c.name) :
    SameAnswer r s (.ok (some id)) (.ok (some id'))
  | error (e : RegistryError) : SameAnswer r s (.error e) (.error e)

/-! ### Rearranged registries -/

theorem mem_classes_iff {r : Registry} {c : Class} :
  c ∈ r.classes ↔ ∃ id, r.class? id = some c
  := by
  rw [Array.mem_iff_getElem?]
  constructor
  · rintro ⟨i, hc⟩
    use ⟨i⟩, hc
  · rintro ⟨id, hc⟩
    use id.index, hc

/-- A name leads to a class exactly when that has the name. -/
theorem Indexed.classNamed?_eq_some_iff {r : Registry} (h : r.Indexed) {n : Name} {c : Class} :
  r.classNamed? n = some c ↔ c.name = n ∧ c ∈ r.classes
  := by
  rw [classNamed?, Option.bind_eq_some_iff, mem_classes_iff]
  constructor
  · rintro ⟨id, hn, hc⟩
    obtain ⟨c', hc', hname⟩ := h.classId?_eq_some_iff.mp hn
    rw [hc] at hc'
    cases hc'
    use hname, id
  · rintro ⟨rfl, id, hc⟩
    use id, h.found hc

theorem Indexed.exists_classId?_iff {r : Registry} (h : r.Indexed) {n : Name} :
  (∃ id, r.classId? n = some id) ↔ ∃ c ∈ r.classes, c.name = n
  := by
  simp only [h.classId?_eq_some_iff, mem_classes_iff]
  constructor
  · rintro ⟨id, c, hc, hname⟩
    use c, ⟨id, hc⟩, hname
  · rintro ⟨c, ⟨id, hc⟩, hname⟩
    use id, c, hc, hname

theorem Rearranged.symm {r s : Registry} (h : Rearranged r s) :
  Rearranged s r
  := ⟨h.right, h.left, h.loader.symm, fun n => (h.named n).symm⟩

/-- A class that a name leads to has a position in both registries. -/
theorem Rearranged.class? {r s : Registry} (h : Rearranged r s) {n : Name} {id : ClassId}
    (hn : r.classId? n = some id) :
  ∃ id' c, s.classId? n = some id' ∧ r.class? id = some c ∧ s.class? id' = some c
  := by
  obtain ⟨c, hc, rfl⟩ := h.left.classId?_eq_some_iff.mp hn
  have hnamed := h.left.classNamed?_eq_some_iff.mpr ⟨rfl, mem_classes_iff.mpr ⟨id, hc⟩⟩
  rw [← h.named] at hnamed
  obtain ⟨-, hmem⟩ := h.right.classNamed?_eq_some_iff.mp hnamed
  obtain ⟨id', hc'⟩ := mem_classes_iff.mp hmem
  use id', c, h.right.found hc', hc

/-- A name that leads to no class of one registry leads to none of the other. -/
theorem Rearranged.classId?_eq_none {r s : Registry} (h : Rearranged r s) {n : Name}
    (hn : r.classId? n = none) :
  s.classId? n = none
  := by
  cases hn' : s.classId? n with
  | none => rfl
  | some id' =>
      obtain ⟨id, -, hid, -⟩ := h.symm.class? hn'
      rw [hn] at hid
      cases hid

/-! ### Chains in rearranged registries -/

section

variable {r s : Registry} {id id' : ClassId} {c : Class}

/-- Positions of the same class have superclasses at positions of the same class. -/
theorem Rearranged.parent? (h : Rearranged r s) (hc : r.class? id = some c)
    (hc' : s.class? id' = some c) {parent : ClassId} (hp : r.parent? id = some parent) :
  ∃ parent' d, s.parent? id' = some parent' ∧ r.class? parent = some d ∧
    s.class? parent' = some d
  := by
  obtain ⟨c₀, n, hc₀, hsuper, hn⟩ := parent?_eq_some_iff.mp hp
  rw [hc] at hc₀
  cases hc₀
  obtain ⟨parent', d, hn', hd, hd'⟩ := h.class? hn
  rw [← h.loader] at hsuper
  use parent', d
  rw [parent?_of_superclass hc' hsuper, hn']
  use rfl, hd

theorem Rearranged.ancestor? (h : Rearranged r s) (hc : r.class? id = some c)
    (hc' : s.class? id' = some c) {k : Nat} {top : ClassId}
    (hk : r.ancestor? k id = some top) :
  ∃ top' d, s.ancestor? k id' = some top' ∧ r.class? top = some d ∧ s.class? top' = some d
  := by
  induction k generalizing id id' c with
  | zero =>
      cases hk
      use id', c, rfl, hc
  | succ k ih =>
      obtain ⟨parent, hp, hk⟩ := Option.bind_eq_some_iff.mp hk
      obtain ⟨parent', d, hp', hd, hd'⟩ := h.parent? hc hc' hp
      rw [Registry.ancestor?, hp']
      apply ih hd hd' hk

/-- The chains above positions of the same class come to the same. -/
theorem Rearranged.chainOutcome (h : Rearranged r s) (hc : r.class? id = some c)
    (hc' : s.class? id' = some c) {outcome : Option HierarchyFault}
    (houtcome : r.ChainOutcome id outcome) :
  s.ChainOutcome id' outcome
  := by
  cases houtcome with
  | ends hk hd htop =>
      obtain ⟨top', d', hk', hd₀, hd'⟩ := h.ancestor? hc hc' hk
      rw [hd] at hd₀
      cases hd₀
      apply ChainOutcome.ends hk' hd'
      rw [IsTop, h.loader]
      apply htop
  | breaksOff hk hd hsuper hn =>
      obtain ⟨last', d', hk', hd₀, hd'⟩ := h.ancestor? hc hc' hk
      rw [hd] at hd₀
      cases hd₀
      rw [← h.loader] at hsuper
      apply ChainOutcome.breaksOff hk' hd' hsuper (h.classId?_eq_none hn)
  | endless hendless =>
      apply ChainOutcome.endless
      intro k
      obtain ⟨d, hd⟩ := Option.isSome_iff_exists.mp (hendless k)
      obtain ⟨d', -, hd', -⟩ := h.ancestor? hc hc' hd
      rw [hd']
      rfl

end

/-! ### Answers in rearranged registries -/

/-- The same interfaces are missing in both registries. -/
theorem Rearranged.missingInterface? {r s : Registry} (h : Rearranged r s) (c : Class) :
  s.missingInterface? c = r.missingInterface? c
  := by
  have hundefined : ∀ n, (s.classId? n).isNone = (r.classId? n).isNone := by
    intro n
    rw [Bool.eq_iff_iff, Option.isNone_iff_eq_none, Option.isNone_iff_eq_none]
    exact ⟨h.symm.classId?_eq_none, h.classId?_eq_none⟩
  simp only [Registry.missingInterface?, h.loader, hundefined]

/-- Positions of the same class have the same answer. -/
theorem Rearranged.sameAnswer {r s : Registry} (h : Rearranged r s) {id id' : ClassId}
    {c : Class} (hc : r.class? id = some c) (hc' : s.class? id' = some c) :
  SameAnswer r s (r.superclassOf id) (s.superclassOf id')
  := by
  obtain ⟨n, hn, hup⟩ | ⟨hi, outcome, houtcome, hup⟩ :=
    (h.left.superclassOf_answer hc).interface_or_outcome hc
  · have hn' : s.FirstUndefinedInterface c n := by
      rw [← missingInterface?_eq_some, h.missingInterface?, missingInterface?_eq_some]
      apply hn
    rw [hup, (h.right.superclassOf_answer hc').unique hc' (.undefinedInterface hn')]
    apply SameAnswer.error
  · have hi' : s.InterfacesDefined c := by
      rw [← missingInterface?_eq_none, h.missingInterface?, missingInterface?_eq_none]
      apply hi
    rw [hup, h.right.superclassOf_of_outcome hc' hi' (h.chainOutcome hc hc' houtcome)]
    cases outcome with
    | some fault => apply SameAnswer.error
    | none =>
        rw [answerOf, answerOf]
        cases hp : r.parent? id with
        | some parent =>
            obtain ⟨parent', d, hp', hd, hd'⟩ := h.parent? hc hc' hp
            rw [hp']
            apply SameAnswer.some hd hd' rfl
        | none =>
            cases hp' : s.parent? id' with
            | none => apply SameAnswer.none
            | some parent' =>
                obtain ⟨parent, -, hparent, -⟩ := h.symm.parent? hc' hc hp'
                rw [hp] at hparent
                cases hparent

/-! ### Resolving the hierarchy -/

/-- Classes are resolved in turn if each of them can be. -/
theorem Indexed.resolveEach_eq_ok_iff {r : Registry} (h : r.Indexed) (ids : List ClassId) :
  (r.resolveEach ids).2 = .ok () ↔ ∀ id ∈ ids, r.Resolvable id
  := by
  induction ids generalizing r with
  | nil => simp [Registry.resolveEach]
  | cons id rest ih =>
      rw [Registry.resolveEach, List.forall_mem_cons]
      rcases hresolve : r.resolveSuperclass id with ⟨s, answer⟩
      cases answer with
      | error e =>
          obtain ⟨hfault, rfl⟩ := resolveSuperclass_eq_error.mp hresolve
          constructor
          · intro hok
            cases hok
          · rintro ⟨⟨superclass, hup⟩, -⟩
            rw [hup] at hfault
            cases hfault
      | ok superclass =>
          obtain ⟨hup, rfl⟩ := resolveSuperclass_eq_ok.mp hresolve
          simp only [ih (h.resolved id), h.resolvable_resolved]
          constructor
          · intro hrest
            use ⟨superclass, hup⟩, hrest
          · rintro ⟨-, hrest⟩
            apply hrest

/-- The hierarchy is resolved if that of every class can be. -/
theorem Indexed.resolveHierarchy_eq_ok_iff {r : Registry} (h : r.Indexed) :
  r.resolveHierarchy.2 = .ok () ↔ ∀ id c, r.class? id = some c → r.Resolvable id
  := by
  rw [resolveHierarchy, h.resolveEach_eq_ok_iff]
  constructor
  · intro hall id c hc
    apply hall
    apply List.mem_map.mpr
    use id.index, List.mem_range.mpr (lt_size_of_class? hc)
  · intro hall id hid
    obtain ⟨i, hi, rfl⟩ := List.mem_map.mp hid
    have hlt : i < r.classes.size := List.mem_range.mp hi
    apply hall _ r.classes[i] (Array.getElem?_eq_getElem hlt)

theorem SameAnswer.isOk {r s : Registry}
    {answer answer' : Except RegistryError (Option ClassId)} (h : SameAnswer r s answer answer')
    {superclass : Option ClassId} (hok : answer = .ok superclass) :
  ∃ superclass', answer' = .ok superclass'
  := by
  cases h with
  | none => exact ⟨_, rfl⟩
  | some => exact ⟨_, rfl⟩
  | error => cases hok

theorem Rearranged.resolveHierarchy {r s : Registry} (h : Rearranged r s)
    (hok : r.resolveHierarchy.2 = .ok ()) :
  s.resolveHierarchy.2 = .ok ()
  := by
  rw [h.left.resolveHierarchy_eq_ok_iff] at hok
  rw [h.right.resolveHierarchy_eq_ok_iff]
  intro id' c hc'
  obtain ⟨id, d, -, hd', hd⟩ := h.symm.class? (h.right.found hc')
  rw [hc'] at hd'
  cases hd'
  obtain ⟨superclass, hup⟩ := hok id c hd
  apply (h.sameAnswer hd hc').isOk hup

/-! ### Definitions in order -/

/-- The registry with further classes after those that it has, each of which its name leads
to. -/
def extendedBy (r : Registry) (ds : List ClassDef) : Registry :=
  { r with
    classes := r.classes ++ (ds.map r.classOf).toArray
    index := (ds.mapIdx fun i d => (d.name, ⟨r.size + i⟩)).reverse ++ r.index }

theorem extendedBy_nil (r : Registry) :
  r.extendedBy [] = r
  := by
  simp [extendedBy]

/-- Further classes can be added one after the other. -/
theorem extendedBy_extendedBy (r : Registry) (d : ClassDef) (ds : List ClassDef) :
  (r.extendedBy [d]).extendedBy ds = r.extendedBy (d :: ds)
  := by
  have hsize : (r.extendedBy [d]).size = r.size + 1 := by simp [extendedBy, size]
  have hclasses : ((r.extendedBy [d]).extendedBy ds).classes
      = (r.extendedBy (d :: ds)).classes := by
    change r.classes ++ [r.classOf d].toArray ++ (ds.map r.classOf).toArray = _
    simp [extendedBy]
  have hindex : ((r.extendedBy [d]).extendedBy ds).index = (r.extendedBy (d :: ds)).index := by
    rw [extendedBy, hsize]
    simp [extendedBy, List.mapIdx_cons, Nat.add_assoc, Nat.add_comm 1]
  exact (Registry.mk.injEq ..).mpr ⟨rfl, rfl, hclasses, hindex, rfl, rfl⟩

theorem classId?_extendedBy_one (r : Registry) (d : ClassDef) (n : Name) :
  (r.extendedBy [d]).classId? n = if n = d.name then some ⟨r.size⟩ else r.classId? n
  := by
  by_cases hn : n = d.name
  · simp [classId?, extendedBy, hn]
  · simp [classId?, extendedBy, hn, List.lookup_cons, beq_false_of_ne hn]

/-- Definitions are met in order exactly if their names are distinct and none is taken; they
append their classes. -/
theorem defineEach_eq_ok_iff {r s : Registry} {ds : List ClassDef} :
  r.defineEach ds = (s, .ok ()) ↔
    (ds.map ClassDef.name).Nodup ∧ (∀ d ∈ ds, r.classId? d.name = none) ∧
      s = r.extendedBy ds
  := by
  induction ds generalizing r with
  | nil => simp [Registry.defineEach, extendedBy_nil, eq_comm]
  | cons d rest ih =>
      rw [Registry.defineEach, Registry.define, ← extendedBy_extendedBy, List.forall_mem_cons,
        List.map_cons, List.nodup_cons]
      cases hd : r.classId? d.name with
      | some taken => simp
      | none =>
          -- The first class takes its own name only, so the rest must avoid that as well.
          have hfresh : (∀ e ∈ rest, (r.extendedBy [d]).classId? e.name = none) ↔
              d.name ∉ rest.map ClassDef.name ∧ ∀ e ∈ rest, r.classId? e.name = none := by
            simp only [classId?_extendedBy_one]
            grind
          have hdefined : ({ r with
              classes := r.classes.push (r.classOf d)
              index := (d.name, ⟨r.size⟩) :: r.index } : Registry) = r.extendedBy [d] := by
            simp [extendedBy]
          simp only [hdefined, ih, hfresh, true_and]
          tauto

/-! ### Definitions in any order -/

/-- A registry without classes accepts definitions of distinct names, and its classes are
then those that they make. -/
theorem defineEach_empty (loader : Name) (synthetic : Bool) {ds : List ClassDef}
    (hnames : (ds.map ClassDef.name).Nodup) :
  ∃ r, (empty loader synthetic).defineEach ds = (r, .ok ()) ∧ r.Indexed ∧
    r.loader = loader ∧ r.classes = (ds.map (empty loader synthetic).classOf).toArray
  := by
  have hindexed := (indexed_empty loader synthetic).defineEach ds
  have hdefined : (empty loader synthetic).defineEach ds
      = ((empty loader synthetic).extendedBy ds, .ok ()) :=
    defineEach_eq_ok_iff.mpr ⟨hnames, fun _ _ => rfl, rfl⟩
  rw [hdefined] at hindexed
  refine ⟨_, hdefined, hindexed, rfl, ?_⟩
  apply Array.empty_append

/-- Registries that have the same classes, in whatever order, are rearranged. -/
theorem Indexed.rearranged {r s : Registry} (hr : r.Indexed) (hs : s.Indexed)
    (hloader : s.loader = r.loader) (hclasses : ∀ c, c ∈ s.classes ↔ c ∈ r.classes) :
  Rearranged r s
  := by
  use hr, hs, hloader
  intro n
  ext c
  simp only [hr.classNamed?_eq_some_iff, hs.classNamed?_eq_some_iff, hclasses]

/-- Classes of distinct names can be defined in any order: in whichever they are, each name
leads to a class for which the answer is the same, with positions read as names, and the
whole hierarchy is resolved in one order if it is in the other. -/
theorem hierarchy_reordered (loader : Name) (synthetic : Bool) {ds es : List ClassDef}
    (hnames : (ds.map ClassDef.name).Nodup) (horder : ds.Perm es) :
  ∃ r s, (empty loader synthetic).defineEach ds = (r, .ok ()) ∧
    (empty loader synthetic).defineEach es = (s, .ok ()) ∧
    (∀ n, (∃ id, r.classId? n = some id) ↔ ∃ d ∈ ds, d.name = n) ∧
    (∀ n id, r.classId? n = some id → ∃ id', s.classId? n = some id' ∧
      SameAnswer r s (r.superclassOf id) (s.superclassOf id')) ∧
    (r.resolveHierarchy.2 = .ok () ↔ s.resolveHierarchy.2 = .ok ())
  := by
  obtain ⟨r, hr, hindexed, hloader, hclasses⟩ := defineEach_empty loader synthetic hnames
  obtain ⟨s, hs, hindexed', hloader', hclasses'⟩ := defineEach_empty loader synthetic
    ((horder.map ClassDef.name).nodup_iff.mp hnames)
  have hrearranged : Rearranged r s := by
    apply hindexed.rearranged hindexed'
    · rw [hloader, hloader']
    · intro c
      simp only [hclasses, hclasses', List.mem_toArray]
      apply (horder.map _).mem_iff.symm
  refine ⟨r, s, hr, hs, ?_, ?_, hrearranged.resolveHierarchy, hrearranged.symm.resolveHierarchy⟩
  · intro n
    rw [hindexed.exists_classId?_iff, hclasses]
    simp [classOf, Class.name]
  · intro n id hn
    obtain ⟨id', c, hn', hc, hc'⟩ := hrearranged.class? hn
    use id', hn', hrearranged.sameAnswer hc hc'

/-- A class below two that are each the superclass of the other, one below a class that is
not defined, and one below a class of another loader. -/
def entangled : List ClassDef :=
  [{ name := ⟨16⟩, kind := .plain, superclass := some ⟨⟨0⟩, ⟨32⟩⟩ },
    { name := ⟨32⟩, kind := .plain, superclass := some ⟨⟨0⟩, ⟨48⟩⟩ },
    { name := ⟨48⟩, kind := .plain, superclass := some ⟨⟨0⟩, ⟨32⟩⟩ },
    { name := ⟨64⟩, kind := .codeBody none, superclass := some ⟨⟨0⟩, ⟨96⟩⟩ },
    { name := ⟨80⟩, kind := .plain, superclass := some ⟨⟨1⟩, ⟨32⟩⟩,
      interfaces := [⟨⟨0⟩, ⟨16⟩⟩] }]

theorem hierarchy_reordered_entangled :
  ∃ r s, (empty ⟨0⟩ false).defineEach entangled = (r, .ok ()) ∧
    (empty ⟨0⟩ false).defineEach entangled.reverse = (s, .ok ()) ∧
    r.superclassOf ⟨0⟩ = .error (.hierarchy ⟨16⟩ .cycle) ∧
    ∃ id, s.classId? ⟨16⟩ = some id ∧ s.superclassOf id = .error (.hierarchy ⟨16⟩ .cycle)
  := by
  have hnames : (entangled.map ClassDef.name).Nodup := by decide
  obtain ⟨r, s, hr, hs, -, hanswers, -⟩ :=
    hierarchy_reordered ⟨0⟩ false hnames entangled.reverse_perm.symm
  obtain rfl : ((empty ⟨0⟩ false).defineEach entangled).1 = r := by rw [hr]
  have hcyclic : ((empty ⟨0⟩ false).defineEach entangled).1.superclassOf ⟨0⟩
      = .error (.hierarchy ⟨16⟩ .cycle) := by
    decide +kernel
  obtain ⟨id, hid, hsame⟩ := hanswers ⟨16⟩ ⟨0⟩ (by decide +kernel)
  refine ⟨_, s, hr, hs, hcyclic, id, hid, ?_⟩
  rw [hcyclic] at hsame
  cases hanswer : s.superclassOf id with
  | ok superclass =>
      rw [hanswer] at hsame
      cases hsame
  | error e =>
      rw [hanswer] at hsame
      cases hsame
      rfl

end DialectIR.Registry
