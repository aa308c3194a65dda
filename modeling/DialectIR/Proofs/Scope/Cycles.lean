import DialectIR.Proofs.Scope.Delegation

/-!
# Ways up that do not end

A registry reports a superclass chain that is cyclic, but it takes a superclass of another
loader for the end of a chain.  So a cycle that leaves a loader and comes back is reported
by none of the registries on it, and the way up from a class on it does not end.

These are the only ways up that do not end: one that does not comes to a class again, as
there are finitely many, and a cycle that stays in a loader is reported.  It takes a request
to the registry of a loader to make a cycle, since a superclass must exist when a loader is
initialized.
-/

namespace DialectIR.Scope

/-- The way up from a class comes to a root or to an error. -/
def Ends (s : Scope) (h : LoaderHandle) (id : ClassId) : Prop :=
  ∃ k, ∀ above, s.ascend k h id ≠ .ok (some above)

/-- A class comes again on the way up from itself. -/
def AboveItself (s : Scope) (h : LoaderHandle) (id : ClassId) : Prop :=
  ∃ m, s.ascend (m + 1) h id = .ok (some (h, id))

/-- The superclass of a class names another loader, which is initialized, and is what a
look-up from there gives. -/
structure Crossing (s : Scope) (h : LoaderHandle) (id : ClassId)
    (found : LoaderHandle × ClassId) : Prop where
  up : s.resolveSuperclass h id = .ok (some found)
  given : ∃ l c superclass o, s.loader? h = some l ∧ l.registry.class? id = some c ∧
    c.superclass = some superclass ∧ superclass.loader ≠ l.registry.loader ∧
    s.handle? superclass.loader = some o ∧ s.isInitialized o ∧
    s.lookupName? o superclass.name = some found

/-- The way up from a class crosses to another loader after a number of steps. -/
def Crosses (s : Scope) (h : LoaderHandle) (id : ClassId) (k : Nat) : Prop :=
  ∃ o x found, s.ascend k h id = .ok (some (o, x)) ∧ s.Crossing o x found

/-- The positions of all classes. -/
def positions (s : Scope) : List (LoaderHandle × ClassId) :=
  s.handles.flatMap fun h =>
    ((s.loader? h).elim [] (·.registry.classIds)).map fun id => (h, id)

/-! ### Steps -/

/-- A way up of one more step has a class where the way up from the superclass has. -/
theorem ascend_succ_eq_some {s : Scope} {k : Nat} {h : LoaderHandle} {id : ClassId}
    {above : LoaderHandle × ClassId} :
  s.ascend (k + 1) h id = .ok (some above) ↔
    ∃ o x, s.resolveSuperclass h id = .ok (some (o, x)) ∧ s.ascend k o x = .ok (some above)
  := by
  constructor
  · intro hk
    rw [ascend] at hk
    cases hup : s.resolveSuperclass h id with
    | error e =>
        simp only [hup] at hk
        cases hk
    | ok answer =>
        cases answer with
        | none =>
            simp only [hup] at hk
            cases hk
        | some next =>
            simp only [hup] at hk
            use next.1, next.2, rfl
  · rintro ⟨o, x, hup, hk⟩
    rw [ascend_step hup]
    apply hk

/-- A way up goes on from a class on it. -/
theorem ascend_add {s : Scope} {k : Nat} {h o : LoaderHandle} {id x : ClassId}
    (hk : s.ascend k h id = .ok (some (o, x))) (j : Nat) :
  s.ascend (k + j) h id = s.ascend j o x
  := by
  induction k generalizing h id with
  | zero =>
      cases hk
      rw [Nat.zero_add]
  | succ k ih =>
      obtain ⟨o', y, hup, hk⟩ := ascend_succ_eq_some.mp hk
      rw [Nat.add_right_comm, ascend_step hup]
      apply ih hk

/-- A way up has a class at every step before one at which it has a class. -/
theorem exists_ascend_of_le {s : Scope} {i j : Nat} {h : LoaderHandle} {id : ClassId}
    (hij : i ≤ j) {above : LoaderHandle × ClassId}
    (hj : s.ascend j h id = .ok (some above)) :
  ∃ x, s.ascend i h id = .ok (some x)
  := by
  induction i generalizing j h id with
  | zero => exact ⟨(h, id), rfl⟩
  | succ i ih =>
      obtain ⟨j, rfl⟩ := Nat.exists_eq_succ_of_ne_zero (Nat.ne_zero_of_lt hij)
      obtain ⟨o, y, hup, hj⟩ := ascend_succ_eq_some.mp hj
      rw [ascend_step hup]
      apply ih (Nat.le_of_succ_le_succ hij) hj

/-- Only classes have superclasses. -/
theorem class?_of_resolveSuperclass {s : Scope} {h : LoaderHandle} {id : ClassId}
    {answer : Option (LoaderHandle × ClassId)}
    (hup : s.resolveSuperclass h id = .ok answer) :
  ∃ l c, s.loader? h = some l ∧ l.registry.class? id = some c
  := by
  rw [resolveSuperclass] at hup
  cases hl : s.loader? h with
  | none =>
      simp only [hl] at hup
      cases hup
  | some l =>
      cases hc : l.registry.class? id with
      | none =>
          simp only [hl, Registry.superclassOf, hc] at hup
          cases hup
      | some c => use l, c, rfl

/-- A step up stays on the chain within the loader, which ends, or crosses to another
loader. -/
theorem Indexed.below_or_crossing {s : Scope} (hs : s.Indexed) {h : LoaderHandle}
    {l : Loader} (hl : s.loader? h = some l) {id : ClassId}
    {found : LoaderHandle × ClassId} (hup : s.resolveSuperclass h id = .ok (some found)) :
  (∃ parent, found = (h, parent) ∧ l.registry.parent? id = some parent ∧
    l.registry.ChainOutcome id none) ∨ s.Crossing h id found
  := by
  obtain ⟨l', c, hl', hc⟩ := class?_of_resolveSuperclass hup
  rw [hl] at hl'
  cases hl'
  cases resolves_of_resolveSuperclass hs hl hc hup with
  | @below parent hlocal =>
      left
      use parent
      refine ⟨rfl, ?_⟩
      apply (hs h l hl).chain_of_superclassOf hc hlocal
  | foreign hlocal hc' hsuper hforeign ho hready hfound =>
      right
      exact ⟨hup, l, _, _, _, hl, hc', hsuper, hforeign, ho, hready, hfound⟩

/-! ### Classes above themselves -/

/-- The way up from a class above itself does not end. -/
theorem AboveItself.exists_ascend {s : Scope} {h : LoaderHandle} {id : ClassId}
    (hself : s.AboveItself h id) (k : Nat) :
  ∃ above, s.ascend k h id = .ok (some above)
  := by
  obtain ⟨m, hm⟩ := hself
  have hturns : ∀ turns, s.ascend (turns * (m + 1)) h id = .ok (some (h, id)) := by
    intro turns
    induction turns with
    | zero =>
        rw [Nat.zero_mul]
        rfl
    | succ turns ih =>
        rw [Nat.succ_mul, ascend_add ih]
        apply hm
  apply exists_ascend_of_le (Nat.le_mul_of_pos_right k (Nat.succ_pos m)) (hturns k)

theorem not_ends_iff {s : Scope} {h : LoaderHandle} {id : ClassId} :
  ¬ s.Ends h id ↔ ∀ k, ∃ above, s.ascend k h id = .ok (some above)
  := by
  simp only [Ends, not_exists, not_forall, not_not]

/-- A way up that comes to a class above itself does not end. -/
theorem AboveItself.not_ends {s : Scope} {h o : LoaderHandle} {id x : ClassId}
    (hself : s.AboveItself o x) {k : Nat} (hk : s.ascend k h id = .ok (some (o, x))) :
  ¬ s.Ends h id
  := by
  rw [not_ends_iff]
  intro j
  obtain ⟨above, habove⟩ := hself.exists_ascend j
  rw [← ascend_add hk] at habove
  apply exists_ascend_of_le (Nat.le_add_left j k) habove

theorem mem_positions {s : Scope} {h : LoaderHandle} {l : Loader}
    (hl : s.loader? h = some l) {id : ClassId} {c : Class}
    (hc : l.registry.class? id = some c) :
  (h, id) ∈ s.positions
  := by
  obtain ⟨hlt, -⟩ := Array.getElem?_eq_some_iff.mp hl
  apply List.mem_flatMap.mpr
  use h, List.mem_map.mpr ⟨h.index, List.mem_range.mpr hlt, rfl⟩
  apply List.mem_map.mpr
  use id
  rw [hl]
  use List.mem_map.mpr ⟨id.index, List.mem_range.mpr (Registry.lt_size_of_class? hc), rfl⟩

/-- A class that comes twice on a way up is above itself. -/
theorem aboveItself_of_repeat {s : Scope} {i j : Nat} {h o : LoaderHandle} {id x : ClassId}
    (hij : i < j) (hi : s.ascend i h id = .ok (some (o, x)))
    (hj : s.ascend j h id = .ok (some (o, x))) :
  s.AboveItself o x
  := by
  obtain ⟨m, rfl⟩ := Nat.exists_eq_add_of_lt hij
  rw [Nat.add_assoc, ascend_add hi] at hj
  use m, hj

/-- A way up that does not end comes to a class above itself: of more classes on it than
there are, two are the same. -/
theorem exists_aboveItself {s : Scope} {h : LoaderHandle} {id : ClassId}
    (hendless : ¬ s.Ends h id) :
  ∃ k o x, s.ascend k h id = .ok (some (o, x)) ∧ s.AboveItself o x
  := by
  obtain ⟨place, hplace⟩ := Classical.axiom_of_choice (not_ends_iff.mp hendless)
  -- As the way up goes on from each place, there is a class at each.
  have hmem : ∀ i, place i ∈ s.positions := by
    intro i
    have hnext := hplace (i + 1)
    rw [ascend_add (hplace i)] at hnext
    obtain ⟨o, x, hup, -⟩ := ascend_succ_eq_some.mp hnext
    obtain ⟨l, c, hl, hc⟩ := class?_of_resolveSuperclass hup
    apply mem_positions hl hc
  have hfew : s.positions.toFinset.card < (Finset.range (s.positions.length + 1)).card := by
    rw [Finset.card_range]
    apply Nat.lt_succ_of_le s.positions.toFinset_card_le
  obtain ⟨i, -, j, -, hij, hsame⟩ := Finset.exists_ne_map_eq_of_card_lt_of_maps_to hfew
    (fun i _ => List.mem_toFinset.mpr (hmem i))
  have hi := hplace i
  have hj := hplace j
  rw [← hsame] at hj
  use i, (place i).1, (place i).2, hi
  rcases Nat.lt_or_gt_of_ne hij with hlt | hgt
  · apply aboveItself_of_repeat hlt hi hj
  · apply aboveItself_of_repeat hgt hj hi

/-- A way up ends exactly when no class on it is above itself. -/
theorem ends_iff {s : Scope} {h : LoaderHandle} {id : ClassId} :
  s.Ends h id ↔
    ∀ k o x, s.ascend k h id = .ok (some (o, x)) → ¬ s.AboveItself o x
  := by
  constructor
  · intro hends k o x hk hself
    apply hself.not_ends hk hends
  · intro hnone
    by_contra hendless
    obtain ⟨k, o, x, hk, hself⟩ := exists_aboveItself hendless
    apply hnone k o x hk hself

/-! ### Cycles -/

/-- A way up that does not cross follows the chain within the loader. -/
theorem Indexed.chain_of_not_crosses {s : Scope} (hs : s.Indexed) {h o : LoaderHandle}
    {l : Loader} (hl : s.loader? h = some l) {k : Nat} {id x : ClassId}
    (hk : s.ascend k h id = .ok (some (o, x))) (hnot : ∀ j < k, ¬ s.Crosses h id j) :
  l.registry.ancestor? k id = some x
  := by
  induction k generalizing id with
  | zero =>
      cases hk
      rfl
  | succ k ih =>
      obtain ⟨o', y, hup, hk⟩ := ascend_succ_eq_some.mp hk
      rcases hs.below_or_crossing hl hup with ⟨parent, hfound, hparent, -⟩ | hcrossing
      · cases hfound
        rw [Registry.ancestor?, hparent]
        apply ih hk
        rintro j hj ⟨o, x, found, hj', hcrossing⟩
        apply hnot (j + 1) (Nat.succ_lt_succ hj)
        use o, x, found
        rw [ascend_step hup]
        use hj'
      · cases hnot 0 (Nat.succ_pos k) ⟨h, id, (o', y), rfl, hcrossing⟩

/-- A cycle crosses to another loader, as the registry reports one that does not. -/
theorem Indexed.cycle_crosses {s : Scope} (hs : s.Indexed) {h : LoaderHandle} {id : ClassId}
    {m : Nat} (hcycle : s.ascend (m + 1) h id = .ok (some (h, id))) :
  ∃ j ≤ m, s.Crosses h id j
  := by
  by_contra hnone
  have hnot : ∀ j < m + 1, ¬ s.Crosses h id j := by
    intro j hj hcrosses
    apply hnone
    use j, Nat.le_of_lt_succ hj
  obtain ⟨o, x, hup, -⟩ := ascend_succ_eq_some.mp hcycle
  obtain ⟨l, -, hl, -⟩ := class?_of_resolveSuperclass hup
  rcases hs.below_or_crossing hl hup with ⟨parent, -, -, hends⟩ | hcrossing
  · have hreturn := hs.chain_of_not_crosses hl hcycle hnot
    have hendless := Registry.ChainOutcome.endless (Registry.endless_of_return hreturn)
    cases hends.unique hendless
  · apply hnot 0 (Nat.succ_pos m)
    use h, id, (o, x), rfl

/-- Without requests to registries, a way up that crosses comes to a root. -/
theorem AllSettled.ascend_of_crossing {past : List Scope} {s : Scope}
    (h : AllSettled past s) {o : LoaderHandle} {x : ClassId}
    {found : LoaderHandle × ClassId} (hcrossing : s.Crossing o x found) :
  ∃ k, s.ascend k o x = .ok none
  := by
  obtain ⟨hs, order, hordered, hsettled⟩ := h
  obtain ⟨-, -, superclass, via, -, -, -, -, -, hready, hfound⟩ := hcrossing.given
  obtain ⟨hmem, l, c, hl, hc⟩ :=
    hordered.stacked.lookupName?_found hs ((hordered.initialized via).mp hready) hfound
  obtain ⟨k, hk⟩ := hsettled.rooted hs hordered.stacked
    (fun o => (hordered.initialized o).mpr) found.1 hmem l found.2 c hl hc
  use k + 1
  rw [ascend_step hcrossing.up]
  apply hk

/-- Without requests to registries, every way up ends. -/
theorem AllSettled.ends {past : List Scope} {s : Scope} (h : AllSettled past s)
    (o : LoaderHandle) (x : ClassId) :
  s.Ends o x
  := by
  rw [ends_iff]
  -- A cycle would have to cross, but from where it crosses the way up comes to a root.
  rintro k o x - ⟨m, hcycle⟩
  obtain ⟨j, -, o', y, found, hj, hcrossing⟩ := h.1.cycle_crosses hcycle
  obtain ⟨n, hn⟩ := h.ascend_of_crossing hcrossing
  obtain ⟨above, habove⟩ := AboveItself.exists_ascend ⟨m, hcycle⟩ (j + n)
  rw [ascend_add hj, hn] at habove
  cases habove

/-- However loaders are added and initialized and classes are defined, a way up ends exactly
when no class on it is above itself, and a class is above itself only if the way up from it
crosses to another loader and comes back.  Without requests to registries every way up
ends. -/
theorem ends_unless_cycle_crosses (names : Interner) (requests : List Request) {s : Scope}
    (hs : (performAll {} requests names).1 = s) :
  (∀ h id, s.Ends h id ↔
    ∀ k o x, s.ascend k h id = .ok (some (o, x)) → ¬ s.AboveItself o x) ∧
  (∀ h id m, s.ascend (m + 1) h id = .ok (some (h, id)) → ∃ j ≤ m, s.Crosses h id j) ∧
  ((∀ request ∈ requests, ¬ request.IsEdit) → ∀ h id, s.Ends h id)
  := by
  refine ⟨fun h id => ends_iff, ?_, ?_⟩
  · intro h id m hcycle
    have hindexed := (indexed_named_run names requests).1
    rw [hs] at hindexed
    apply hindexed.cycle_crosses hcycle
  · intro hedit
    have hrun := performAll_induct (fun _ _ _ _ => AllSettled.change) allSettled_nil names hedit
    rw [hs] at hrun
    apply hrun.ends

/-- Requests for two loaders, each with a class whose superclass is the one of the other. -/
def entangling : List Request :=
  [.addLanguage { name := "a", language := default },
    .addLanguage { name := "b", language := default },
    .initializeAll,
    .edit ⟨0⟩ (.define { name := ⟨6⟩, kind := .plain, superclass := some ⟨⟨2⟩, ⟨7⟩⟩ }),
    .edit ⟨1⟩ (.define { name := ⟨7⟩, kind := .plain, superclass := some ⟨⟨1⟩, ⟨6⟩⟩ })]

/-- The scope that these requests lead to. -/
def entangled : Scope := (performAll {} entangling (Interner.initial .bySum)).1

theorem ends_unless_cycle_crosses_entangled :
  ∃ j ≤ 1, entangled.Crosses ⟨0⟩ ⟨0⟩ j
  := by
  have hs : (performAll {} entangling (Interner.initial .bySum)).1 = entangled := rfl
  have hcycle : entangled.ascend 2 ⟨0⟩ ⟨0⟩ = .ok (some (⟨0⟩, ⟨0⟩)) := by decide +kernel
  obtain ⟨-, hcrosses, -⟩ := ends_unless_cycle_crosses _ _ hs
  apply hcrosses _ _ 1 hcycle

/-- A class may be above itself, so that the way up from it does not end. -/
theorem class_above_itself :
  entangled.resolveSuperclass ⟨0⟩ ⟨0⟩ = .ok (some (⟨1⟩, ⟨0⟩)) ∧
    entangled.resolveSuperclass ⟨1⟩ ⟨0⟩ = .ok (some (⟨0⟩, ⟨0⟩)) ∧
    ¬ entangled.Ends ⟨0⟩ ⟨0⟩
  := by
  have hup : entangled.resolveSuperclass ⟨0⟩ ⟨0⟩ = .ok (some (⟨1⟩, ⟨0⟩)) := by decide +kernel
  have hback : entangled.resolveSuperclass ⟨1⟩ ⟨0⟩ = .ok (some (⟨0⟩, ⟨0⟩)) := by
    decide +kernel
  refine ⟨hup, hback, ?_⟩
  apply AboveItself.not_ends (o := ⟨0⟩) (x := ⟨0⟩) (k := 0) _ rfl
  use 1
  rw [ascend_step hup, ascend_step hback]
  rfl

end DialectIR.Scope
