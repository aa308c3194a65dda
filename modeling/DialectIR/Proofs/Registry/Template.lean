import DialectIR.Proofs.Registry.Reordering

/-!
# Accepted templates

A bootstrap defines the classes of a template one after the other, and then resolves the
classes of the registry one after the other.  Each of these steps looks at the registry as it
is by then, but together they come to a question about the registry with all classes of the
template: whether each class, old or new, can be resolved there.  So a class of the template
may be below one that comes later, and a class that was there before may be below one of the
template.
-/

namespace DialectIR

/-- The class that an entry of a template becomes when it is bootstrapped. -/
def ClassTemplate.bootstrapped (t : ClassTemplate) (synthetic : Bool) : Class where
  ty := t.ty
  kind := t.kind.unbound
  superclass := t.superclass
  interfaces := t.interfaces
  flags := { t.flags with isSynthetic := t.flags.isSynthetic || synthetic }
  span := .dummy
  state := .hierarchyResolved

namespace Registry

/-- The registry with the classes of the template of a language. -/
def filledBy (r : Registry) (l : Language) : Registry :=
  r.extendedBy ((l.templateOf r.loader).map ClassTemplate.definition)

/-- The registry with the template of a language, before its hierarchy is resolved. -/
def seededBy (r : Registry) (l : Language) : Registry :=
  { r.filledBy l with codeBodyTypes := l.codeBodyTypes }

/-- The template of a language goes with a registry: its names are distinct and not taken,
and with its classes every class of the registry can be resolved. -/
structure Accepts (r : Registry) (l : Language) : Prop where
  names : ((l.templateOf r.loader).map (·.ty.name)).Nodup
  fresh {t : ClassTemplate} (ht : t ∈ l.templateOf r.loader) : r.classId? t.ty.name = none
  resolvable {id : ClassId} {c : Class} (hc : (r.filledBy l).class? id = some c) :
    (r.filledBy l).Resolvable id

/-- The second registry has the classes of the first and after them those of the template of
a language, in order; all can be resolved, and are marked so. -/
structure Bootstrapped (r : Registry) (l : Language) (s : Registry) : Prop where
  size : s.size = r.size + (l.templateOf r.loader).length
  kept {id : ClassId} {c : Class} (hc : r.class? id = some c) :
    s.class? id = some c.resolved
  found {n : Name} {id : ClassId} (hn : r.classId? n = some id) : s.classId? n = some id
  added {i : Nat} {t : ClassTemplate} (ht : (l.templateOf r.loader)[i]? = some t) :
    s.class? ⟨r.size + i⟩ = some (t.bootstrapped r.synthetic) ∧
      s.classId? t.ty.name = some ⟨r.size + i⟩
  marked {id : ClassId} {c : Class} (hc : s.class? id = some c) : c.state ≠ .declared
  resolvable {id : ClassId} {c : Class} (hc : s.class? id = some c) : s.Resolvable id
  rest : s = { r with
    classes := s.classes, index := s.index, codeBodyTypes := l.codeBodyTypes }

/-! ### Extended registries -/

theorem class?_extendedBy_of_class? {r : Registry} {id : ClassId} {c : Class}
    (hc : r.class? id = some c) (ds : List ClassDef) :
  (r.extendedBy ds).class? id = some c
  := by
  rw [class?, extendedBy, Array.getElem?_append_left (lt_size_of_class? hc)]
  apply hc

theorem class?_extendedBy_add (r : Registry) (ds : List ClassDef) (i : Nat) :
  (r.extendedBy ds).class? ⟨r.size + i⟩ = (ds[i]?).map r.classOf
  := by
  simp only [class?, extendedBy, size]
  rw [Array.getElem?_append_right (Nat.le_add_right r.classes.size i)]
  simp

theorem size_extendedBy (r : Registry) (ds : List ClassDef) :
  (r.extendedBy ds).size = r.size + ds.length
  := by
  simp [size, extendedBy]

theorem names_definition (ts : List ClassTemplate) :
  (ts.map ClassTemplate.definition).map ClassDef.name = ts.map (·.ty.name)
  := by
  simp [ClassTemplate.definition]

/-- The definitions of a template are met exactly if its names are distinct and not
taken. -/
theorem defineEach_definition_eq_ok_iff {r s : Registry} {ts : List ClassTemplate} :
  r.defineEach (ts.map ClassTemplate.definition) = (s, .ok ()) ↔
    (ts.map (·.ty.name)).Nodup ∧ (∀ t ∈ ts, r.classId? t.ty.name = none) ∧
      s = r.extendedBy (ts.map ClassTemplate.definition)
  := by
  rw [defineEach_eq_ok_iff, names_definition, List.forall_mem_map]
  rfl

section

variable {r : Registry} (h : r.Indexed) {l : Language}
  (hnames : ((l.templateOf r.loader).map (·.ty.name)).Nodup)
  (hfresh : ∀ t ∈ l.templateOf r.loader, r.classId? t.ty.name = none)

include h hnames hfresh

/-- A registry in which a template can be defined indexes its classes afterwards. -/
theorem Indexed.filledBy :
  (r.filledBy l).Indexed
  := by
  have hfilled := h.defineEach ((l.templateOf r.loader).map ClassTemplate.definition)
  rw [defineEach_definition_eq_ok_iff.mpr ⟨hnames, hfresh, rfl⟩] at hfilled
  apply hfilled

theorem Indexed.seededBy :
  (r.seededBy l).Indexed
  := by
  have hfilled := h.filledBy hnames hfresh
  exact ⟨hfilled.found, hfilled.entry, hfilled.loader⟩

theorem Indexed.resolvable_seededBy (id : ClassId) :
  (r.seededBy l).Resolvable id ↔ (r.filledBy l).Resolvable id
  := (h.filledBy hnames hfresh).resolvable_codeBodyTypes l.codeBodyTypes id

end

/-! ### Resolved registries -/

/-- Where the hierarchy was resolved every class is marked. -/
theorem Indexed.class?_resolveHierarchy {r : Registry} (h : r.Indexed)
    (hall : ∀ id c, r.class? id = some c → r.Resolvable id) (id : ClassId) :
  r.resolveHierarchy.1.class? id = (r.class? id).map Class.resolved
  := by
  obtain ⟨hmarked, hkept⟩ := h.class?_resolveEach (Nat.zero_add r.size) id
  rw [resolveHierarchy, classIds, List.range_eq_range']
  cases hc : r.class? id with
  | none =>
      rw [hc, Option.map_none] at hmarked
      by_cases hpassed : r.PassedFrom 0 id
      · apply hmarked hpassed
      · rw [hkept hpassed, hc, Option.map_none]
  | some c =>
      have hpassed : r.PassedFrom 0 id := by
        use Nat.zero_le _
        intro i _ hi
        have hlt : i < r.classes.size := Nat.lt_of_le_of_lt hi (lt_size_of_class? hc)
        apply hall ⟨i⟩ r.classes[i] (Array.getElem?_eq_getElem hlt)
      rw [hmarked hpassed, hc]

theorem size_resolveEach (r : Registry) (ids : List ClassId) :
  (r.resolveEach ids).1.size = r.size
  := by
  apply resolveEach_induct (P := fun s => s.size = r.size) _ rfl
  intro s id superclass t hs hresolve
  obtain ⟨-, rfl⟩ := resolveSuperclass_eq_ok.mp hresolve
  rw [size, Registry.modifyClass, Array.size_modify]
  apply hs

theorem state_resolved_ne_declared (c : Class) :
  c.resolved.state ≠ .declared
  := by
  unfold Class.resolved ClassState.resolve
  cases c.state with
  | declared => simp
  | hierarchyResolved => simp
  | bodyBound => simp

/-! ### Bootstraps that succeed -/

/-- A template is defined and the hierarchy resolved exactly if the registry accepts the
template. -/
theorem Indexed.defineTemplate_eq_ok_iff {r s : Registry} (h : r.Indexed) {l : Language} :
  r.defineTemplate l = (s, .ok ()) ↔
    r.Accepts l ∧ s = (r.seededBy l).resolveHierarchy.1
  := by
  rw [Registry.defineTemplate]
  constructor
  · intro hdone
    rcases hdefined : r.defineEach ((l.templateOf r.loader).map ClassTemplate.definition) with
      ⟨filled, answer⟩
    rw [hdefined] at hdone
    cases answer with
    | error e => cases hdone
    | ok done =>
        obtain ⟨hnames, hfresh, rfl⟩ := defineEach_definition_eq_ok_iff.mp hdefined
        have hseeded : (r.seededBy l).resolveHierarchy = (s, .ok ()) := hdone
        have hall := (h.seededBy hnames hfresh).resolveHierarchy_eq_ok_iff.mp
          (congrArg Prod.snd hseeded)
        refine ⟨⟨hnames, fun {t} => hfresh t, fun {id c} hc => ?_⟩, ?_⟩
        · apply (h.resolvable_seededBy hnames hfresh id).mp (hall id c hc)
        · rw [hseeded]
  · rintro ⟨⟨hnames, hfresh, hall⟩, rfl⟩
    have hfresh : ∀ t ∈ l.templateOf r.loader, r.classId? t.ty.name = none := fun t => hfresh
    have hok : (r.seededBy l).resolveHierarchy.2 = .ok () := by
      apply (h.seededBy hnames hfresh).resolveHierarchy_eq_ok_iff.mpr
      intro id c hc
      apply (h.resolvable_seededBy hnames hfresh id).mpr (hall hc)
    have hresolved : (r.seededBy l).resolveHierarchy
        = ((r.seededBy l).resolveHierarchy.1, .ok ()) := Prod.ext rfl hok
    rw [defineEach_definition_eq_ok_iff.mpr ⟨hnames, hfresh, rfl⟩]
    apply hresolved

theorem classOf_definition {r : Registry} {t : ClassTemplate} (ht : t.ty.loader = r.loader) :
  (r.classOf t.definition).resolved = t.bootstrapped r.synthetic
  := by
  rw [Class.resolved, classOf, ← ht]
  simp [ClassTemplate.definition, ClassTemplate.bootstrapped, ClassFlags.union,
    ClassState.resolve]

/-- What an accepted template makes of a registry. -/
theorem Accepts.bootstrapped {r : Registry} (h : r.Indexed) {l : Language}
    (haccepts : r.Accepts l) :
  r.Bootstrapped l (r.seededBy l).resolveHierarchy.1
  := by
  obtain ⟨hnames, hfresh, hall⟩ := haccepts
  have hfresh : ∀ t ∈ l.templateOf r.loader, r.classId? t.ty.name = none := fun t => hfresh
  have hfilled := h.filledBy hnames hfresh
  have hseeded := h.seededBy hnames hfresh
  have hall : ∀ id c, (r.seededBy l).class? id = some c → (r.seededBy l).Resolvable id :=
    fun id c hc => (h.resolvable_seededBy hnames hfresh id).mpr (hall hc)
  have hclass := hseeded.class?_resolveHierarchy hall
  have hrest := (r.seededBy l).resolveEach_eq (r.seededBy l).classIds
  have hindex : ∀ n, (r.seededBy l).resolveHierarchy.1.classId? n
      = (r.filledBy l).classId? n := by
    intro n
    rw [resolveHierarchy, hrest]
    rfl
  constructor
  · rw [resolveHierarchy, size_resolveEach]
    apply (r.size_extendedBy _).trans
    rw [List.length_map]
  · intro id c hc
    rw [hclass]
    apply congrArg (Option.map Class.resolved) (class?_extendedBy_of_class? hc _)
  · intro n id hn
    obtain ⟨c, hc, rfl⟩ := h.classId?_eq_some_iff.mp hn
    rw [hindex]
    apply hfilled.found (class?_extendedBy_of_class? hc _)
  · intro i t ht
    have hloader : t.ty.loader = r.loader :=
      eq_of_beq (List.mem_filter.mp (List.mem_of_getElem? ht)).2
    have hnew : (r.filledBy l).class? ⟨r.size + i⟩ = some (r.classOf t.definition) := by
      rw [filledBy, class?_extendedBy_add, List.getElem?_map, ht]
      rfl
    constructor
    · rw [hclass, ← classOf_definition hloader]
      apply congrArg (Option.map Class.resolved) hnew
    · rw [hindex]
      apply hfilled.found hnew
  · intro id c hc
    rw [hclass] at hc
    obtain ⟨d, -, rfl⟩ := Option.map_eq_some_iff.mp hc
    apply state_resolved_ne_declared
  · intro id c hc
    rw [hclass] at hc
    obtain ⟨d, hd, -⟩ := Option.map_eq_some_iff.mp hc
    apply ((r.seededBy l).extends_resolveEach _).resolvable hseeded (hseeded.resolveEach _)
    apply hall id d hd
  · rw [resolveHierarchy, hrest]
    rfl

/-- A bootstrap succeeds exactly if the names of the template are distinct and not taken, and
if every class, whether it was there before or is one of the template, can be resolved in the
registry with all classes of the template.  The classes that were there then keep their
positions and those of the template come after them in order; all are marked as resolved, and
code bodies have the parent types that the language gives. -/
theorem bootstrap_succeeds_iff {r : Registry} {names : Interner} (hr : r.Reachable names)
    (l : Language) :
  ((∃ s, r.bootstrap names l = (s, .ok ())) ↔ r.Accepts l) ∧
  (∀ s, r.bootstrap names l = (s, .ok ()) → r.Bootstrapped l s)
  := by
  constructor
  · simp only [bootstrap_eq_ok_iff, hr.indexed.defineTemplate_eq_ok_iff]
    constructor
    · rintro ⟨s, haccepts, -⟩
      apply haccepts
    · intro haccepts
      exact ⟨_, haccepts, rfl⟩
  · intro s hdone
    obtain ⟨haccepts, rfl⟩ := hr.indexed.defineTemplate_eq_ok_iff.mp (bootstrap_eq_ok_iff.mp hdone)
    apply haccepts.bootstrapped hr.indexed

/-- A registry of a synthetic loader with a class below one that is not defined. -/
def belowTemplate : Registry × Interner :=
  (Registry.empty ⟨0⟩ true).performAll
    [.defineClass "A" (some "M") .plain .dummy, .intern "B"] (Interner.initial .bySum)

/-- A language whose template has a code body below a class that comes after it, and in
between an interface. -/
def forward : Language :=
  { (default : Language) with
    template :=
      [{ ty := ⟨⟨0⟩, ⟨2⟩⟩, kind := .codeBody (some ⟨7⟩), superclass := some ⟨⟨0⟩, ⟨13⟩⟩,
          interfaces := [⟨⟨0⟩, ⟨13⟩⟩] },
        { ty := ⟨⟨1⟩, ⟨2⟩⟩ },
        { ty := ⟨⟨0⟩, ⟨13⟩⟩, flags := { isAbstract := true } }] }

theorem bootstrap_succeeds_iff_forward :
  belowTemplate.1.Reachable belowTemplate.2 ∧
    ∃ s, belowTemplate.1.bootstrap belowTemplate.2 forward = (s, .ok ()) ∧
      s.size = 3 ∧
      (s.class? ⟨0⟩).map (·.state) = some .hierarchyResolved ∧
      s.classId? ⟨2⟩ = some ⟨1⟩ ∧
      (s.class? ⟨1⟩).map (·.kind) = some (.codeBody none) ∧
      (s.class? ⟨2⟩).map (·.flags) = some { isAbstract := true, isSynthetic := true } ∧
      ¬ belowTemplate.1.Accepts dangling
  := by
  have hr : belowTemplate.1.Reachable belowTemplate.2 := ⟨_, _, _, _, rfl⟩
  have hdone : (belowTemplate.1.bootstrap belowTemplate.2 forward).2 = .ok () := by
    decide +kernel
  have hfailed : (belowTemplate.1.bootstrap belowTemplate.2 dangling).2 ≠ .ok () := by
    decide +kernel
  obtain ⟨s, hs⟩ : ∃ s, belowTemplate.1.bootstrap belowTemplate.2 forward = (s, .ok ()) :=
    ⟨_, Prod.ext rfl hdone⟩
  obtain ⟨-, hbootstrapped⟩ := bootstrap_succeeds_iff hr forward
  obtain ⟨hsucceeds, -⟩ := bootstrap_succeeds_iff hr dangling
  have hb := hbootstrapped s hs
  have hold : s.class? ⟨0⟩ = _ := hb.kept rfl
  have hnew : s.class? ⟨1⟩ = _ ∧ s.classId? ⟨2⟩ = some ⟨1⟩ := hb.added (i := 0) rfl
  have hlast : s.class? ⟨2⟩ = _ ∧ s.classId? ⟨13⟩ = some ⟨2⟩ := hb.added (i := 1) rfl
  refine ⟨hr, s, hs, hb.size, ?_, hnew.2, ?_, ?_, ?_⟩
  · rw [hold]
    rfl
  · rw [hnew.1]
    rfl
  · rw [hlast.1]
    rfl
  · intro haccepts
    obtain ⟨s, hs⟩ := hsucceeds.mpr haccepts
    apply hfailed (congrArg Prod.snd hs)

end Registry

end DialectIR
