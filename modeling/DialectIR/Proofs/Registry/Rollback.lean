import DialectIR.Proofs.Registry.Growth

/-!
# Bootstraps that are taken back

A bootstrap that fails is taken back to the sizes that the registry had before.  This
removes the classes of the template with their names, and restores the code body types.
What it does not take back are the marks of the classes that were there before: those that
the hierarchy pass came past stay marked as resolved.
-/

namespace DialectIR.Registry

/-- Resolving the classes from a position on, one after the other, comes past a class. -/
def PassedFrom (r : Registry) (first : Nat) (id : ClassId) : Prop :=
  first ≤ id.index ∧ ∀ i, first ≤ i → i ≤ id.index → r.Resolvable ⟨i⟩

/-- The classes that the template of a language defines can be added to a registry, and
resolving the hierarchy then comes past a class. -/
def Passed (r : Registry) (l : Language) (id : ClassId) : Prop :=
  ∃ filled, r.defineEach ((l.templateOf r.loader).map ClassTemplate.definition)
      = (filled, .ok ()) ∧
    filled.PassedFrom 0 id

/-! ### Taking definitions back -/

/-- A registry that is taken back to the sizes it has stays as it is. -/
theorem Indexed.rollback_checkpoint {r : Registry} (h : r.Indexed) :
  r.rollback r.checkpoint = r
  := by
  have hindex : (r.rollback r.checkpoint).index = r.index := by
    apply List.filter_eq_self.mpr
    rintro ⟨n, id⟩ hmem
    obtain ⟨c, hc, -⟩ := h.entry hmem
    apply decide_eq_true (lt_size_of_class? hc)
  have hclasses : (r.rollback r.checkpoint).classes = r.classes := by
    simp [Registry.rollback, checkpoint]
  have hmethods : (r.rollback r.checkpoint).methods = r.methods := by
    simp [Registry.rollback, checkpoint]
  obtain ⟨loader, synthetic, classes, index, methods, types⟩ := r
  exact (Registry.mk.injEq ..).mpr ⟨rfl, rfl, hclasses, hindex, hmethods, rfl⟩

/-- A class that was defined after a checkpoint is gone after the rollback. -/
theorem rollback_define {r s : Registry} {d : ClassDef} {id : ClassId}
    (hdefine : r.define d = (s, .ok id)) {point : Checkpoint} (hpoint : point.classes ≤ r.size) :
  s.rollback point = r.rollback point
  := by
  obtain ⟨-, -, rfl⟩ := define_eq_ok.mp hdefine
  have hclasses : (r.classes.push (r.classOf d)).take point.classes
      = r.classes.take point.classes := by
    apply Array.ext_getElem?
    intro i
    simp only [size] at hpoint
    simp only [Array.take_eq_extract, Array.getElem?_extract, Array.size_push,
      Array.getElem?_push]
    grind
  simp [rollback, hclasses, hpoint]

theorem Indexed.rollback_defineEach {r : Registry} (h : r.Indexed) (ds : List ClassDef) :
  (r.defineEach ds).1.rollback r.checkpoint = r
  := by
  have hall := defineEach_induct
    (P := fun s => s.rollback r.checkpoint = r ∧ r.size ≤ s.size)
    (fun s d id t ⟨hs, hsize⟩ hdefine => by
      rw [rollback_define hdefine hsize]
      use hs
      obtain ⟨-, -, rfl⟩ := define_eq_ok.mp hdefine
      simp only [size, Array.size_push] at hsize ⊢
      omega)
    ⟨h.rollback_checkpoint, Nat.le_refl r.size⟩ ds
  apply hall.1

/-! ### The hierarchy pass -/

/-- Resolving classes changes nothing but classes. -/
theorem resolveEach_eq (r : Registry) (ids : List ClassId) :
  (r.resolveEach ids).1 = { r with classes := (r.resolveEach ids).1.classes }
  := by
  apply resolveEach_induct (P := fun s => s = { r with classes := s.classes }) _ rfl
  intro s id superclass t hs hresolve
  obtain ⟨-, rfl⟩ := resolveSuperclass_eq_ok.mp hresolve
  rw [hs]
  rfl

/-- Marking a class as resolved makes no class resolvable, and keeps none from being. -/
theorem Indexed.resolvable_resolved {r : Registry} (h : r.Indexed) (id other : ClassId) :
  (r.modifyClass id Class.resolved).Resolvable other ↔ r.Resolvable other
  := by
  have hlike : ∀ c : Class, c.Alike c.resolved := fun c => rfl
  constructor
  · apply (r.modifyClass_extends id hlike).resolvable (h.resolved id) h
  · apply (r.extends_modifyClass id hlike).resolvable h (h.resolved id)

/-- Coming past a class from a position on is coming past the class there, and then from
the next position on. -/
theorem Indexed.passedFrom_iff {r : Registry} (h : r.Indexed) {first : Nat}
    (hfirst : r.Resolvable ⟨first⟩) (id : ClassId) :
  r.PassedFrom first id ↔ id = ⟨first⟩ ∨
    (r.modifyClass ⟨first⟩ Class.resolved).PassedFrom (first + 1) id
  := by
  obtain ⟨index⟩ := id
  simp only [PassedFrom, h.resolvable_resolved, ClassId.mk.injEq]
  constructor
  · rintro ⟨hle, hpassed⟩
    rcases Nat.eq_or_lt_of_le hle with hsame | hlt
    · left
      rw [hsame]
    · right
      use hlt
      intro i hi
      apply hpassed i (Nat.le_of_succ_le hi)
  · rintro (rfl | ⟨hlt, hpassed⟩)
    · use Nat.le_refl _
      intro i hi hi'
      rw [Nat.le_antisymm hi' hi]
      apply hfirst
    · use Nat.le_of_succ_le hlt
      intro i hi hi'
      rcases Nat.eq_or_lt_of_le hi with rfl | hi
      · apply hfirst
      · apply hpassed i hi hi'

/-- Resolving the last classes of a registry marks those that it comes past. -/
theorem Indexed.class?_resolveEach {r : Registry} (h : r.Indexed) {first count : Nat}
    (hcount : first + count = r.size) (id : ClassId) :
  (r.PassedFrom first id →
    (r.resolveEach ((List.range' first count).map ClassId.mk)).1.class? id
      = (r.class? id).map Class.resolved) ∧
  (¬ r.PassedFrom first id →
    (r.resolveEach ((List.range' first count).map ClassId.mk)).1.class? id = r.class? id)
  := by
  induction count generalizing r first with
  | zero =>
      constructor
      · rintro ⟨hfirst, hpassed⟩
        obtain ⟨c, hc⟩ := (hpassed id.index hfirst (Nat.le_refl _)).class?
        have hlt : id.index < r.size := lt_size_of_class? hc
        omega
      · intro _
        rfl
  | succ count ih =>
      rw [List.range'_succ, List.map_cons, Registry.resolveEach]
      rcases hresolve : r.resolveSuperclass ⟨first⟩ with ⟨s, answer⟩
      cases answer with
      | error e =>
          obtain ⟨hfault, rfl⟩ := resolveSuperclass_eq_error.mp hresolve
          constructor
          · rintro ⟨hfirst, hpassed⟩
            obtain ⟨superclass, hup⟩ := hpassed first (Nat.le_refl first) hfirst
            rw [hup] at hfault
            cases hfault
          · intro _
            rfl
      | ok superclass =>
          obtain ⟨hup, rfl⟩ := resolveSuperclass_eq_ok.mp hresolve
          have hsize : first + 1 + count = (r.modifyClass ⟨first⟩ Class.resolved).size := by
            rw [size, Registry.modifyClass, Array.size_modify, ← size, ← hcount]
            omega
          obtain ⟨hmarked, hkept⟩ := ih (h.resolved ⟨first⟩) hsize
          rw [h.passedFrom_iff ⟨superclass, hup⟩]
          rw [class?_modifyClass] at hmarked hkept
          have hother : (r.modifyClass ⟨first⟩ Class.resolved).PassedFrom (first + 1) id →
              id ≠ ⟨first⟩ := by
            rintro ⟨hlt, -⟩ rfl
            apply Nat.not_succ_le_self first hlt
          constructor
          · rintro (hsame | hpassed)
            · rw [hkept (fun hpassed => hother hpassed hsame), if_pos hsame]
            · rw [hmarked hpassed, if_neg (hother hpassed)]
          · intro hnot
            obtain ⟨hsame, hpassed⟩ := not_or.mp hnot
            rw [hkept hpassed, if_neg hsame]

/-! ### Failed bootstraps -/

theorem Indexed.defineEach {r : Registry} (h : r.Indexed) (ds : List ClassDef) :
  (r.defineEach ds).1.Indexed
  := by
  apply defineEach_induct (P := Indexed) _ h
  intro r d id s hr hdefine
  apply hr.define hdefine

/-- The code body types have no part in hierarchies. -/
theorem Indexed.resolvable_codeBodyTypes {r : Registry} (h : r.Indexed)
    (types : Option CodeBodyTypes) (id : ClassId) :
  { r with codeBodyTypes := types }.Resolvable id ↔ r.Resolvable id
  := by
  have htyped : { r with codeBodyTypes := types }.Indexed := ⟨h.found, h.entry, h.loader⟩
  have hextends := r.extends_self
  have hgrown : r.Extends { r with codeBodyTypes := types } :=
    ⟨hextends.loader, hextends.found, hextends.kept⟩
  have hgrown' : Extends { r with codeBodyTypes := types } r :=
    ⟨hextends.loader, hextends.found, hextends.kept⟩
  constructor
  · apply hgrown'.resolvable htyped h
  · apply hgrown.resolvable h htyped

/-- A template is defined as far as its definitions are met; then its code body types are
set and the hierarchy is resolved. -/
theorem defineTemplate_cases (r : Registry) (l : Language) :
  (∃ filled e, r.defineEach ((l.templateOf r.loader).map ClassTemplate.definition)
      = (filled, .error e) ∧ (r.defineTemplate l).1 = filled) ∨
    ∃ filled, r.defineEach ((l.templateOf r.loader).map ClassTemplate.definition)
        = (filled, .ok ()) ∧
      (r.defineTemplate l).1 = { filled with codeBodyTypes := l.codeBodyTypes }.resolveHierarchy.1
  := by
  rw [defineTemplate]
  rcases hdefined : r.defineEach ((l.templateOf r.loader).map ClassTemplate.definition) with
    ⟨filled, answer⟩
  cases answer with
  | error e => left; use filled, e
  | ok done => right; use filled

/-- A template that is taken back leaves everything but the classes as it was. -/
theorem Indexed.rollback_defineTemplate {r : Registry} (h : r.Indexed) (l : Language) :
  ∃ classes, (r.defineTemplate l).1.rollback r.checkpoint = { r with classes }
  := by
  have hdefined := h.rollback_defineEach ((l.templateOf r.loader).map ClassTemplate.definition)
  rcases r.defineTemplate_cases l with ⟨filled, e, hfilled, hstarted⟩ | ⟨filled, hfilled, hstarted⟩
  · use r.classes
    rw [hstarted]
    rw [hfilled] at hdefined
    apply hdefined
  · obtain ⟨classes, hclasses⟩ : ∃ classes, (r.defineTemplate l).1
        = { filled with classes, codeBodyTypes := l.codeBodyTypes } := by
      rw [hstarted, resolveHierarchy, resolveEach_eq]
      exact ⟨_, rfl⟩
    use classes.take r.checkpoint.classes
    rw [hfilled] at hdefined
    calc (r.defineTemplate l).1.rollback r.checkpoint
      _ = { filled.rollback r.checkpoint with classes := classes.take r.checkpoint.classes } := by
          rw [hclasses]
          rfl
      _ = { r with classes := classes.take r.checkpoint.classes } := by rw [hdefined]

/-- Of the classes that were there before, defining a template marks those that the
hierarchy pass comes past. -/
theorem Indexed.class?_defineTemplate {r : Registry} (h : r.Indexed) (l : Language)
    {id : ClassId} (hid : id.index < r.size) :
  (r.Passed l id → (r.defineTemplate l).1.class? id = (r.class? id).map Class.resolved) ∧
  (¬ r.Passed l id → (r.defineTemplate l).1.class? id = r.class? id)
  := by
  have hback := h.rollback_defineEach ((l.templateOf r.loader).map ClassTemplate.definition)
  have hdefined := h.defineEach ((l.templateOf r.loader).map ClassTemplate.definition)
  have hkept : ∀ {filled answer},
      r.defineEach ((l.templateOf r.loader).map ClassTemplate.definition) = (filled, answer) →
      filled.class? id = r.class? id := by
    intro filled answer hfilled
    rw [hfilled] at hback
    conv_rhs => rw [← hback, class?_rollback]
    apply (if_pos hid).symm
  rcases r.defineTemplate_cases l with ⟨filled, e, hfilled, hstarted⟩ | ⟨filled, hfilled, hstarted⟩
  · rw [hstarted, hkept hfilled]
    constructor
    · rintro ⟨filled', hfilled', -⟩
      rw [hfilled] at hfilled'
      cases hfilled'
    · intro _
      rfl
  · rw [hfilled] at hdefined
    have htyped : Indexed { filled with codeBodyTypes := l.codeBodyTypes } :=
      ⟨hdefined.found, hdefined.entry, hdefined.loader⟩
    have hpassed : r.Passed l id ↔
        PassedFrom { filled with codeBodyTypes := l.codeBodyTypes } 0 id := by
      simp only [Passed, hfilled, Prod.mk.injEq, and_true, exists_eq_left', PassedFrom,
        hdefined.resolvable_codeBodyTypes]
    rw [hstarted, hpassed, ← hkept hfilled, resolveHierarchy, classIds, List.range_eq_range']
    apply htyped.class?_resolveEach (Nat.zero_add _)

/-- Of the classes of a template that is taken back none are left, and those that were
there before are marked if the hierarchy pass came past them. -/
theorem Indexed.class?_takenBack {r : Registry} (h : r.Indexed) (l : Language)
    (id : ClassId) :
  (r.Passed l id → ((r.defineTemplate l).1.rollback r.checkpoint).class? id
    = (r.class? id).map Class.resolved) ∧
  (¬ r.Passed l id → ((r.defineTemplate l).1.rollback r.checkpoint).class? id = r.class? id)
  := by
  rw [class?_rollback]
  by_cases hid : id.index < r.checkpoint.classes
  · rw [if_pos hid]
    apply h.class?_defineTemplate l hid
  · have hnone : r.class? id = none := Array.getElem?_eq_none (Nat.le_of_not_lt hid)
    rw [if_neg hid, hnone]
    exact ⟨fun _ => rfl, fun _ => rfl⟩

/-- A template that is taken back leaves the classes and names before it. -/
theorem Indexed.extends_takenBack {r : Registry} (h : r.Indexed) (l : Language) :
  r.Extends ((r.defineTemplate l).1.rollback r.checkpoint)
  := by
  obtain ⟨classes, hback⟩ := h.rollback_defineTemplate l
  constructor
  · rw [hback]
  · intro n id hn
    rw [hback]
    apply hn
  · intro id c hc
    obtain ⟨hmarked, hkept⟩ := h.class?_takenBack l id
    rw [hc] at hmarked hkept
    by_cases hpassed : r.Passed l id
    · use c.resolved, hmarked hpassed
      rfl
    · use c, hkept hpassed
      rfl

/-- What a registry was before a template was taken back extends what is left. -/
theorem Indexed.takenBack_extends {r : Registry} (h : r.Indexed) (l : Language) :
  ((r.defineTemplate l).1.rollback r.checkpoint).Extends r
  := by
  obtain ⟨classes, hback⟩ := h.rollback_defineTemplate l
  constructor
  · rw [hback]
  · intro n id hn
    rw [hback] at hn
    apply hn
  · intro id d hd
    obtain ⟨hmarked, hkept⟩ := h.class?_takenBack l id
    by_cases hpassed : r.Passed l id
    · rw [hmarked hpassed] at hd
      obtain ⟨c, hc, rfl⟩ := Option.map_eq_some_iff.mp hd
      use c, hc
      rfl
    · rw [hkept hpassed] at hd
      use d, hd
      rfl

/-- A template that is taken back makes no class resolvable, and keeps none from being. -/
theorem Indexed.resolvable_takenBack {r : Registry} (h : r.Indexed) (l : Language)
    (id : ClassId) :
  ((r.defineTemplate l).1.rollback r.checkpoint).Resolvable id ↔ r.Resolvable id
  := by
  have hback : ((r.defineTemplate l).1.rollback r.checkpoint).Indexed :=
    (h.defineTemplate l).rollback r.checkpoint
  constructor
  · apply (h.takenBack_extends l).resolvable hback h
  · apply (h.extends_takenBack l).resolvable h hback

/-- Whatever a request changes, the registry after it extends the one before. -/
theorem Indexed.extends_change {names : Interner} {r s : Registry} (h : r.Indexed)
    (hchange : Change names r s) :
  r.Extends s
  := by
  cases hchange with
  | advance hadvance => apply hadvance.extends
  | bootstrap l =>
      rcases r.bootstrap_cases names l with hdone | ⟨e, -, htaken⟩
      · rw [hdone]
        apply extends_defineTemplate
      · rw [htaken]
        apply h.extends_takenBack

/-- What is left of a bootstrap that is taken back extends the registry before it, also if
the bootstrap took itself back already. -/
theorem Indexed.extends_bootstrap_rollback {r : Registry} (h : r.Indexed) (names : Interner)
    (l : Language) :
  r.Extends ((r.bootstrap names l).1.rollback r.checkpoint)
  := by
  rcases r.bootstrap_cases names l with hdone | ⟨e, -, htaken⟩
  · rw [hdone]
    apply h.extends_takenBack
  · rw [htaken, rollback_rollback]
    apply h.extends_takenBack

/-- A bootstrap succeeds exactly if the template can be defined, whatever names there are. -/
theorem bootstrap_eq_ok_iff {r s : Registry} {names : Interner} {l : Language} :
  r.bootstrap names l = (s, .ok ()) ↔ r.defineTemplate l = (s, .ok ())
  := by
  rw [bootstrap]
  rcases r.defineTemplate l with ⟨started, answer⟩
  cases answer with
  | ok done => rfl
  | error e => simp

/-- A template that is taken back leaves nothing in a registry without classes. -/
theorem takenBack_empty (loader : Name) (synthetic : Bool) (l : Language) :
  ((empty loader synthetic).defineTemplate l).1.rollback (empty loader synthetic).checkpoint
    = empty loader synthetic
  := by
  obtain ⟨classes, hback⟩ := (indexed_empty loader synthetic).rollback_defineTemplate l
  have hclasses : classes = #[] := by
    have hnone : (((empty loader synthetic).defineTemplate l).1.rollback
        (empty loader synthetic).checkpoint).classes = #[] := Array.extract_zero
    rw [hback] at hnone
    apply hnone
  rw [hback, hclasses]
  rfl

/-- Marking a class as resolved changes it if it was only declared. -/
theorem resolved_eq_self_iff {c : Class} :
  c.resolved = c ↔ c.state ≠ .declared
  := by
  obtain ⟨ty, kind, superclass, interfaces, flags, span, state⟩ := c
  cases state with
  | declared => simp [Class.resolved, ClassState.resolve]
  | hierarchyResolved => simp [Class.resolved, ClassState.resolve]
  | bodyBound => simp [Class.resolved, ClassState.resolve]

/-- A bootstrap that fails, with an error that can be told, leaves everything but classes
as it was; and it leaves the classes as they were except that those which the hierarchy
pass came past are marked as resolved.  So the registry is what it was exactly when none of
these was only declared before. -/
theorem bootstrap_taken_back {r s : Registry} {names : Interner} (hr : r.Reachable names)
    {l : Language} {e : RegistryError} (hfailed : r.bootstrap names l = (s, .error e))
    (htold : e.canBeTold names) :
  (∃ classes, s = { r with classes }) ∧
  (∀ id, (r.Passed l id → s.class? id = (r.class? id).map Class.resolved) ∧
    (¬ r.Passed l id → s.class? id = r.class? id)) ∧
  (s = r ↔ ∀ id c, r.class? id = some c → r.Passed l id → c.state ≠ .declared)
  := by
  obtain rfl := bootstrap_eq_takenBack hfailed htold
  have hclasses := hr.indexed.class?_takenBack l
  obtain ⟨classes, hback⟩ := hr.indexed.rollback_defineTemplate l
  refine ⟨⟨classes, hback⟩, hclasses, ?_⟩
  constructor
  · intro hsame id c hc hpassed
    have hmarked := (hclasses id).1 hpassed
    rw [hsame, hc] at hmarked
    apply resolved_eq_self_iff.mp (Option.some.inj hmarked).symm
  · intro hundeclared
    have hsame : classes = r.classes := by
      apply Array.ext_getElem?
      intro i
      have hclass : ((r.defineTemplate l).1.rollback r.checkpoint).class? ⟨i⟩ = r.class? ⟨i⟩ := by
        by_cases hpassed : r.Passed l ⟨i⟩
        · rw [(hclasses ⟨i⟩).1 hpassed]
          cases hc : r.class? ⟨i⟩ with
          | none => rfl
          | some c =>
              have hkept := resolved_eq_self_iff.mpr (hundeclared ⟨i⟩ c hc hpassed)
              rw [Option.map_some, hkept]
        · apply (hclasses ⟨i⟩).2 hpassed
      rw [hback] at hclass
      apply hclass
    rw [hback, hsame]

/-- A language whose one class is below a class that no template defines. -/
def dangling : Language :=
  { (default : Language) with
    template := [{ ty := ⟨⟨0⟩, ⟨2⟩⟩, superclass := some ⟨⟨0⟩, ⟨13⟩⟩ }] }

/-- A registry with a class below the same undefined class. -/
def belowUndefined : Registry × Interner :=
  (Registry.empty ⟨0⟩ false).performAll
    [.defineClass "A" (some "M") .plain .dummy, .intern "B"] (Interner.initial .bySum)

theorem bootstrap_taken_back_belowUndefined :
  belowUndefined.1.Reachable belowUndefined.2 ∧
    belowUndefined.1.bootstrap belowUndefined.2 dangling
      = (belowUndefined.1, .error (.hierarchy ⟨1⟩ (.undefinedName ⟨13⟩)))
  := by
  have hr : belowUndefined.1.Reachable belowUndefined.2 := ⟨_, _, _, _, rfl⟩
  have htold : (RegistryError.hierarchy ⟨1⟩ (.undefinedName ⟨13⟩)).canBeTold belowUndefined.2 := by
    decide +kernel
  obtain ⟨s, hfailed⟩ : ∃ s, belowUndefined.1.bootstrap belowUndefined.2 dangling
      = (s, .error (.hierarchy ⟨1⟩ (.undefinedName ⟨13⟩))) := ⟨_, rfl⟩
  obtain ⟨-, -, hsame⟩ := bootstrap_taken_back hr hfailed htold
  use hr
  rw [hfailed, hsame.mpr]
  rintro id c hc ⟨filled, hfilled, -, hpassed⟩ -
  obtain ⟨superclass, hup⟩ := hpassed 0 (Nat.le_refl 0) (Nat.zero_le id.index)
  obtain rfl : filled = (belowUndefined.1.defineEach
      ((dangling.templateOf ⟨0⟩).map ClassTemplate.definition)).1 := by
    rw [show (⟨0⟩ : Name) = belowUndefined.1.loader from rfl, hfilled]
  cases hup

/-- A registry with a class that is only declared. -/
def onlyDeclared : Registry × Interner :=
  (Registry.empty ⟨0⟩ false).performAll
    [.defineClass "A" none .plain .dummy, .intern "B", .intern "M"] (Interner.initial .bySum)

/-- A bootstrap that fails need not leave a registry as it was. -/
theorem failed_bootstrap_leaves_mark :
  onlyDeclared.1.Reachable onlyDeclared.2 ∧
    ∃ s e, onlyDeclared.1.bootstrap onlyDeclared.2 dangling = (s, .error e) ∧
      e.canBeTold onlyDeclared.2 ∧
      (onlyDeclared.1.class? ⟨0⟩).map (·.state) = some .declared ∧
      (s.class? ⟨0⟩).map (·.state) = some .hierarchyResolved
  := by
  have htold : (RegistryError.hierarchy ⟨2⟩ (.undefinedName ⟨13⟩)).canBeTold onlyDeclared.2 := by
    decide +kernel
  exact ⟨⟨_, _, _, _, rfl⟩, _, _, rfl, htold, rfl, rfl⟩

end DialectIR.Registry
