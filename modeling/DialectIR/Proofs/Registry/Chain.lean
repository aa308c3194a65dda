import DialectIR.Proofs.Registry.Consistency
import Mathlib.Data.Finset.Card

/-!
# Superclass chains within a loader

The chain above a class goes from each class to the one that its superclass names, as
long as that is a class of the same loader.  It ends at a class without a superclass in
the loader, breaks off at a name that is not defined, or goes on for ever.

The walk of `superclassOf` takes only as many steps as there are classes.  A chain of more
steps meets a class twice, and from there on repeats itself, so that the walk gives up on
no chain that ends, and on every chain that does not.
-/

namespace DialectIR.Registry

/-! ### Chains -/

/-- A class without a superclass, or with one of another loader. -/
def IsTop (r : Registry) (c : Class) : Prop :=
  ∀ superclass, c.superclass = some superclass → superclass.loader ≠ r.loader

/-- The class that the superclass of a class names in this loader. -/
def parent? (r : Registry) (id : ClassId) : Option ClassId := do
  let c ← r.class? id
  let superclass ← c.superclass
  if superclass.loader = r.loader then r.classId? superclass.name else none

/-- The class that is a number of steps up the chain. -/
def ancestor? (r : Registry) : Nat → ClassId → Option ClassId
  | 0, id => some id
  | k + 1, id => (r.parent? id).bind (r.ancestor? k)

/-- What the chain above a class comes to: an end, a name that is not defined, or no end,
and the fault to report for it. -/
inductive ChainOutcome (r : Registry) (id : ClassId) : Option HierarchyFault → Prop where
  | ends {k : Nat} {top : ClassId} {d : Class} (hk : r.ancestor? k id = some top)
    (hd : r.class? top = some d) (htop : r.IsTop d) : ChainOutcome r id none
  | breaksOff {k : Nat} {last : ClassId} {d : Class} {n : Name}
    (hk : r.ancestor? k id = some last) (hd : r.class? last = some d)
    (hsuper : d.superclass = some ⟨r.loader, n⟩) (hn : r.classId? n = none) :
    ChainOutcome r id (some (.undefinedName n))
  | endless (h : ∀ k, (r.ancestor? k id).isSome) : ChainOutcome r id (some .cycle)

/-- Every interface of this loader is defined. -/
def InterfacesDefined (r : Registry) (c : Class) : Prop :=
  ∀ i ∈ c.interfaces, i.loader = r.loader → (r.classId? i.name).isSome

/-- The first interface of this loader that is not defined. -/
def FirstUndefinedInterface (r : Registry) (c : Class) (n : Name) : Prop :=
  ∃ before after, c.interfaces = before ++ ⟨r.loader, n⟩ :: after ∧ r.classId? n = none ∧
    ∀ i ∈ before, i.loader = r.loader → (r.classId? i.name).isSome

/-- The answer to a question for the superclass of a class. -/
inductive SuperclassAnswer (r : Registry) (id : ClassId) (c : Class) :
    Except RegistryError (Option ClassId) → Prop where
  | undefinedInterface {n : Name} (h : r.FirstUndefinedInterface c n) :
    SuperclassAnswer r id c (.error (.hierarchy c.name (.undefinedName n)))
  | top (hi : r.InterfacesDefined c) (h : r.IsTop c) : SuperclassAnswer r id c (.ok none)
  | below (hi : r.InterfacesDefined c) {parent : ClassId} (hp : r.parent? id = some parent)
    (h : r.ChainOutcome id none) : SuperclassAnswer r id c (.ok (some parent))
  | fault (hi : r.InterfacesDefined c) {f : HierarchyFault}
    (h : r.ChainOutcome id (some f)) : SuperclassAnswer r id c (.error (.hierarchy c.name f))

/-! ### Steps up the chain -/

/-- A step up a class of the chain: the class is its top, or names a superclass that is
defined, or one that is not. -/
theorem localSuperclass_cases (r : Registry) (c : Class) :
  (r.IsTop c ∧ r.localSuperclass c = .ok none) ∨
    (∃ n parent, c.superclass = some ⟨r.loader, n⟩ ∧ r.classId? n = some parent ∧
      r.localSuperclass c = .ok (some parent)) ∨
    ∃ n, c.superclass = some ⟨r.loader, n⟩ ∧ r.classId? n = none ∧
      r.localSuperclass c = .error (.undefinedName n)
  := by
  rw [localSuperclass]
  cases hsuper : c.superclass with
  | none =>
      left
      constructor
      · intro superclass h
        rw [hsuper] at h
        cases h
      · rfl
  | some superclass =>
      obtain ⟨loader, n⟩ := superclass
      by_cases hlocal : loader = r.loader
      · subst hlocal
        right
        cases hn : r.classId? n with
        | none => right; use n; simp [hn]
        | some parent => left; use n, parent; simp [hn]
      · left
        constructor
        · intro superclass h
          rw [hsuper] at h
          cases h
          apply hlocal
        · simp [hlocal]

theorem parent?_of_superclass {r : Registry} {id : ClassId} {c : Class} {n : Name}
    (hc : r.class? id = some c) (hsuper : c.superclass = some ⟨r.loader, n⟩) :
  r.parent? id = r.classId? n
  := by
  simp [parent?, hc, hsuper]

theorem parent?_of_isTop {r : Registry} {id : ClassId} {c : Class}
    (hc : r.class? id = some c) (htop : r.IsTop c) :
  r.parent? id = none
  := by
  rw [parent?, hc]
  cases hsuper : c.superclass with
  | none => simp [hsuper]
  | some superclass => simp [hsuper, htop superclass hsuper]

/-- A class has a superclass on its chain if it names one of this loader that is
defined. -/
theorem parent?_eq_some_iff {r : Registry} {id parent : ClassId} :
  r.parent? id = some parent ↔ ∃ c n, r.class? id = some c ∧
    c.superclass = some ⟨r.loader, n⟩ ∧ r.classId? n = some parent
  := by
  constructor
  · intro hp
    simp only [parent?, Option.bind_eq_bind, Option.bind_eq_some_iff] at hp
    obtain ⟨c, hc, ⟨loader, n⟩, hsuper, hlocal⟩ := hp
    split at hlocal
    · rename_i hloader
      subst hloader
      use c, n, hc, hsuper
    · cases hlocal
  · rintro ⟨c, n, hc, hsuper, hn⟩
    rw [parent?_of_superclass hc hsuper, hn]

/-- The superclass of a class is a class. -/
theorem Indexed.class?_parent {r : Registry} (h : r.Indexed) {id parent : ClassId}
    (hp : r.parent? id = some parent) :
  ∃ c, r.class? parent = some c
  := by
  obtain ⟨-, n, -, -, hn⟩ := parent?_eq_some_iff.mp hp
  obtain ⟨c, hc, -⟩ := h.classId?_eq_some_iff.mp hn
  use c

theorem ancestor?_add (r : Registry) (i j : Nat) (id : ClassId) :
  r.ancestor? (i + j) id = (r.ancestor? i id).bind (r.ancestor? j)
  := by
  induction i generalizing id with
  | zero =>
      rw [Nat.zero_add]
      rfl
  | succ i ih =>
      rw [Nat.add_right_comm, ancestor?, ancestor?]
      cases r.parent? id with
      | none => rfl
      | some parent => apply ih

/-- A chain has a class at every step before one at which it has a class. -/
theorem isSome_ancestor?_of_le {r : Registry} {i j : Nat} {id : ClassId} (hij : i ≤ j)
    (h : (r.ancestor? j id).isSome) :
  (r.ancestor? i id).isSome
  := by
  obtain ⟨m, rfl⟩ := Nat.exists_eq_add_of_le hij
  rw [ancestor?_add] at h
  cases hi : r.ancestor? i id with
  | none => simp [hi] at h
  | some d => rfl

/-- The classes on a chain are classes. -/
theorem Indexed.class?_ancestor {r : Registry} (h : r.Indexed) {k : Nat}
    {id d : ClassId} {c : Class} (hc : r.class? id = some c)
    (hd : r.ancestor? k id = some d) :
  ∃ c', r.class? d = some c'
  := by
  induction k generalizing id c with
  | zero =>
      cases hd
      use c
  | succ k ih =>
      obtain ⟨parent, hp, hd⟩ := Option.bind_eq_some_iff.mp hd
      obtain ⟨c', hc'⟩ := h.class?_parent hp
      apply ih hc' hd

/-! ### Long chains -/

/-- A chain that comes back to where it starts does not end. -/
theorem endless_of_return {r : Registry} {m : Nat} {d : ClassId}
    (h : r.ancestor? (m + 1) d = some d) (k : Nat) :
  (r.ancestor? k d).isSome
  := by
  have hturns : ∀ turns, r.ancestor? (turns * (m + 1)) d = some d := by
    intro turns
    induction turns with
    | zero =>
        rw [Nat.zero_mul]
        rfl
    | succ turns ih =>
        rw [Nat.succ_mul, ancestor?_add, ih]
        apply h
  apply isSome_ancestor?_of_le (Nat.le_mul_of_pos_right k (Nat.succ_pos m))
  rw [hturns k]
  rfl

/-- A chain on which a class occurs twice does not end. -/
theorem endless_of_repeat {r : Registry} {i j : Nat} {id d : ClassId} (hij : i < j)
    (hi : r.ancestor? i id = some d) (hj : r.ancestor? j id = some d) (k : Nat) :
  (r.ancestor? k id).isSome
  := by
  obtain ⟨m, rfl⟩ := Nat.exists_eq_add_of_lt hij
  rw [Nat.add_assoc, ancestor?_add, hi] at hj
  apply isSome_ancestor?_of_le (Nat.le_add_left k i)
  rw [ancestor?_add, hi]
  apply endless_of_return hj

/-- A chain of as many steps as there are classes does not end: of the classes on it, one
more than there are, two are the same. -/
theorem Indexed.endless_of_size {r : Registry} (h : r.Indexed) {id : ClassId} {c : Class}
    (hc : r.class? id = some c) (hlong : (r.ancestor? r.size id).isSome) (k : Nat) :
  (r.ancestor? k id).isSome
  := by
  have hstep : ∀ i ≤ r.size, ∃ d, r.ancestor? i id = some d :=
    fun i hi => Option.isSome_iff_exists.mp (isSome_ancestor?_of_le hi hlong)
  let place : Nat → Nat := fun i => ((r.ancestor? i id).map ClassId.index).getD 0
  have hplace : ∀ i ∈ Finset.range (r.size + 1), place i ∈ Finset.range r.size := by
    intro i hi
    obtain ⟨d, hd⟩ := hstep i (Nat.lt_succ_iff.mp (Finset.mem_range.mp hi))
    obtain ⟨c', hc'⟩ := h.class?_ancestor hc hd
    simpa [place, hd] using lt_size_of_class? hc'
  obtain ⟨i, hi, j, hj, hij, hsame⟩ := Finset.exists_ne_map_eq_of_card_lt_of_maps_to
    (by simp) hplace
  obtain ⟨d, hd⟩ := hstep i (Nat.lt_succ_iff.mp (Finset.mem_range.mp hi))
  obtain ⟨e, he⟩ := hstep j (Nat.lt_succ_iff.mp (Finset.mem_range.mp hj))
  obtain rfl : d = e := by
    cases d
    cases e
    simpa [place, hd, he] using hsame
  rcases Nat.lt_or_gt_of_ne hij with hlt | hgt
  · apply endless_of_repeat hlt hd he
  · apply endless_of_repeat hgt he hd

/-! ### Outcomes -/

/-- The class at which a chain ends or breaks off is the last on it. -/
theorem ancestor?_of_parent? {r : Registry} {k : Nat} {id last : ClassId}
    (hk : r.ancestor? k id = some last) (hlast : r.parent? last = none) (m : Nat) :
  r.ancestor? (k + (m + 1)) id = none
  := by
  rw [ancestor?_add, hk, Option.bind_some, ancestor?, hlast]
  rfl

/-- Two classes of a chain that have no superclass on it are the same. -/
theorem last_unique {r : Registry} {i j : Nat} {id d e : ClassId}
    (hi : r.ancestor? i id = some d) (hd : r.parent? d = none)
    (hj : r.ancestor? j id = some e) (he : r.parent? e = none) :
  d = e
  := by
  rcases Nat.lt_trichotomy i j with hlt | rfl | hgt
  · obtain ⟨m, rfl⟩ := Nat.exists_eq_add_of_lt hlt
    rw [Nat.add_assoc, ancestor?_of_parent? hi hd] at hj
    cases hj
  · rw [hi] at hj
    apply Option.some.inj hj
  · obtain ⟨m, rfl⟩ := Nat.exists_eq_add_of_lt hgt
    rw [Nat.add_assoc, ancestor?_of_parent? hj he] at hi
    cases hi

/-- A chain with an outcome other than to go on for ever has a last class. -/
theorem ChainOutcome.last {r : Registry} {id : ClassId} {outcome : Option HierarchyFault}
    (h : r.ChainOutcome id outcome) (hcycle : outcome ≠ some .cycle) :
  ∃ k last d, r.ancestor? k id = some last ∧ r.class? last = some d ∧
    r.parent? last = none ∧
    (r.IsTop d ∧ outcome = none ∨ ∃ n, d.superclass = some ⟨r.loader, n⟩ ∧
      outcome = some (.undefinedName n))
  := by
  cases h with
  | @ends k top d hk hd htop =>
      use k, top, d, hk, hd, parent?_of_isTop hd htop
      left
      use htop
  | @breaksOff k last d n hk hd hsuper hn =>
      use k, last, d, hk, hd
      rw [parent?_of_superclass hd hsuper]
      use hn
      right
      use n
  | endless h => cases hcycle rfl

/-- An endless chain has no last class. -/
theorem ChainOutcome.not_last {r : Registry} {id last : ClassId} {k : Nat}
    (h : r.ChainOutcome id (some .cycle)) (hk : r.ancestor? k id = some last) :
  r.parent? last ≠ none
  := by
  intro hlast
  cases h with
  | endless h =>
      have hnext := h (k + 1)
      rw [ancestor?_of_parent? hk hlast 0] at hnext
      cases hnext

/-- A chain has one outcome. -/
theorem ChainOutcome.unique {r : Registry} {id : ClassId} {a b : Option HierarchyFault}
    (ha : r.ChainOutcome id a) (hb : r.ChainOutcome id b) :
  a = b
  := by
  by_cases hca : a = some .cycle
  · subst hca
    by_contra hne
    obtain ⟨k, last, d, hk, -, hlast, -⟩ := hb.last (Ne.symm hne)
    apply ha.not_last hk hlast
  · obtain ⟨i, last, d, hi, hd, hlast, houtcome⟩ := ha.last hca
    by_cases hcb : b = some .cycle
    · subst hcb
      cases hb.not_last hi hlast
    · obtain ⟨j, last', d', hj, hd', hlast', houtcome'⟩ := hb.last hcb
      obtain rfl := last_unique hi hlast hj hlast'
      rw [hd] at hd'
      cases hd'
      rcases houtcome with ⟨htop, rfl⟩ | ⟨n, hn, rfl⟩
      · rcases houtcome' with ⟨-, rfl⟩ | ⟨n', hn', rfl⟩
        · rfl
        · cases htop _ hn' rfl
      · rcases houtcome' with ⟨htop', rfl⟩ | ⟨n', hn', rfl⟩
        · cases htop' _ hn rfl
        · rw [hn] at hn'
          cases hn'
          rfl

/-- The chain above a class comes to what the chain above its superclass does. -/
theorem ChainOutcome.of_parent {r : Registry} {id parent : ClassId}
    {outcome : Option HierarchyFault} (hp : r.parent? id = some parent)
    (h : r.ChainOutcome parent outcome) :
  r.ChainOutcome id outcome
  := by
  have hstep : ∀ k, r.ancestor? (k + 1) id = r.ancestor? k parent := by
    intro k
    rw [ancestor?, hp]
    rfl
  cases h with
  | ends hk hd htop => apply ChainOutcome.ends ((hstep _).trans hk) hd htop
  | breaksOff hk hd hsuper hn =>
      apply ChainOutcome.breaksOff ((hstep _).trans hk) hd hsuper hn
  | endless h =>
      apply ChainOutcome.endless
      intro k
      cases k with
      | zero => rfl
      | succ k =>
          rw [hstep]
          apply h

/-! ### The bounded walk -/

/-- The walk finds what the chain comes to, unless it reports a cycle after it used up
its steps or came back to the start. -/
theorem Indexed.chainFault?_cases {r : Registry} (h : r.Indexed) (start : ClassId)
    (fuel : Nat) {current : ClassId} {c : Class} (hc : r.class? current = some c) :
  r.ChainOutcome current (r.chainFault? start fuel current) ∨
    r.chainFault? start fuel current = some .cycle ∧
      ((r.ancestor? fuel current).isSome ∨ ∃ k, r.ancestor? k current = some start)
  := by
  induction fuel generalizing current c with
  | zero =>
      right
      use rfl
      left
      rfl
  | succ fuel ih =>
      rw [chainFault?]
      by_cases hstart : current = start
      · right
        rw [if_pos hstart]
        use rfl
        right
        use 0
        rw [← hstart]
        rfl
      · rw [if_neg hstart, hc]
        rcases r.localSuperclass_cases c with
          ⟨htop, hl⟩ | ⟨n, parent, hsuper, hn, hl⟩ | ⟨n, hsuper, hn, hl⟩
        · left
          simp only [Option.map_some, hl]
          apply ChainOutcome.ends (k := 0) rfl hc htop
        · simp only [Option.map_some, hl]
          have hp : r.parent? current = some parent := by
            rw [parent?_of_superclass hc hsuper, hn]
          obtain ⟨c', hc'⟩ := h.class?_parent hp
          rcases ih hc' with houtcome | ⟨hcycle, hlong | ⟨k, hk⟩⟩
          · left
            apply houtcome.of_parent hp
          · right
            use hcycle
            left
            rw [ancestor?, hp]
            apply hlong
          · right
            use hcycle
            right
            use k + 1
            rw [ancestor?, hp]
            apply hk
        · left
          simp only [Option.map_some, hl]
          apply ChainOutcome.breaksOff (k := 0) rfl hc hsuper hn

/-- The walk from the superclass of a class finds what the chain above the class comes
to. -/
theorem Indexed.chainFault?_outcome {r : Registry} (h : r.Indexed) {id parent : ClassId}
    (hp : r.parent? id = some parent) :
  r.ChainOutcome id (r.chainFault? id r.size parent)
  := by
  obtain ⟨c, hc⟩ := h.class?_parent hp
  rcases h.chainFault?_cases id r.size hc with houtcome | ⟨hcycle, hlong | ⟨k, hk⟩⟩
  · apply houtcome.of_parent hp
  · rw [hcycle]
    apply ChainOutcome.of_parent hp
    apply ChainOutcome.endless
    apply h.endless_of_size hc hlong
  · rw [hcycle]
    apply ChainOutcome.endless
    apply endless_of_return (m := k)
    rw [ancestor?, hp]
    apply hk

/-! ### Interfaces -/

theorem missingInterface?_eq_none {r : Registry} {c : Class} :
  r.missingInterface? c = none ↔ r.InterfacesDefined c
  := by
  simp only [missingInterface?, Option.map_eq_none_iff, List.find?_eq_none,
    InterfacesDefined]
  constructor
  · intro h i hi hlocal
    have hdefined := h i hi
    simpa [hlocal, Option.isSome_iff_ne_none] using hdefined
  · intro h i hi
    by_cases hlocal : i.loader = r.loader
    · have hdefined := h i hi hlocal
      simpa [hlocal, Option.isSome_iff_ne_none] using hdefined
    · simp [hlocal]

theorem missingInterface?_eq_some {r : Registry} {c : Class} {n : Name} :
  r.missingInterface? c = some n ↔ r.FirstUndefinedInterface c n
  := by
  simp only [missingInterface?, Option.map_eq_some_iff, List.find?_eq_some_iff_append,
    FirstUndefinedInterface]
  constructor
  · rintro ⟨i, ⟨hmissing, before, after, hsplit, hbefore⟩, rfl⟩
    obtain ⟨loader, n⟩ := i
    simp only [Bool.and_eq_true, decide_eq_true_eq, Option.isNone_iff_eq_none] at hmissing
    obtain ⟨rfl, hn⟩ := hmissing
    use before, after, hsplit, hn
    intro i hi hlocal
    simpa [hlocal, Option.isSome_iff_ne_none] using hbefore i hi
  · rintro ⟨before, after, hsplit, hn, hbefore⟩
    use ⟨r.loader, n⟩
    refine ⟨⟨?_, before, after, hsplit, ?_⟩, rfl⟩
    · simp [hn]
    · intro i hi
      by_cases hlocal : i.loader = r.loader
      · simpa [hlocal, Option.isSome_iff_ne_none] using hbefore i hi hlocal
      · simp [hlocal]

/-- If every interface is defined, none is the first that is not. -/
theorem InterfacesDefined.not_firstUndefined {r : Registry} {c : Class} {n : Name}
    (h : r.InterfacesDefined c) :
  ¬ r.FirstUndefinedInterface c n
  := by
  intro hfirst
  rw [← missingInterface?_eq_some, missingInterface?_eq_none.mpr h] at hfirst
  cases hfirst

/-! ### The answers -/

/-- The superclass that a registry gives for a class is an answer. -/
theorem Indexed.superclassOf_answer {r : Registry} (h : r.Indexed) {id : ClassId}
    {c : Class} (hc : r.class? id = some c) :
  r.SuperclassAnswer id c (r.superclassOf id)
  := by
  rw [superclassOf, hc]
  cases hi : r.missingInterface? c with
  | some n =>
      simp only [hi]
      apply SuperclassAnswer.undefinedInterface (missingInterface?_eq_some.mp hi)
  | none =>
      have hdefined := missingInterface?_eq_none.mp hi
      rcases r.localSuperclass_cases c with
        ⟨htop, hl⟩ | ⟨n, parent, hsuper, hn, hl⟩ | ⟨n, hsuper, hn, hl⟩
      · simp only [hi, hl]
        apply SuperclassAnswer.top hdefined htop
      · have hp : r.parent? id = some parent := by
          rw [parent?_of_superclass hc hsuper, hn]
        have houtcome := h.chainFault?_outcome hp
        cases hfault : r.chainFault? id r.size parent with
        | some f =>
            simp only [hi, hl, hfault]
            rw [hfault] at houtcome
            apply SuperclassAnswer.fault hdefined houtcome
        | none =>
            simp only [hi, hl, hfault]
            rw [hfault] at houtcome
            apply SuperclassAnswer.below hdefined hp houtcome
      · simp only [hi, hl]
        apply SuperclassAnswer.fault hdefined
        apply ChainOutcome.breaksOff (k := 0) rfl hc hsuper hn

/-- A class is a top of its registry if its superclass is none there. -/
theorem Indexed.isTop_of_superclassOf {r : Registry} (h : r.Indexed) {id : ClassId}
    {c : Class} (hc : r.class? id = some c) (hup : r.superclassOf id = .ok none) :
  r.IsTop c
  := by
  have hanswer := h.superclassOf_answer hc
  rw [hup] at hanswer
  cases hanswer with
  | top hi htop => apply htop

/-- The superclass that is found for a class is the next on the chain, and the chain
ends. -/
theorem Indexed.chain_of_superclassOf {r : Registry} (h : r.Indexed) {id parent : ClassId}
    {c : Class} (hc : r.class? id = some c) (hup : r.superclassOf id = .ok (some parent)) :
  r.parent? id = some parent ∧ r.ChainOutcome id none
  := by
  have hanswer := h.superclassOf_answer hc
  rw [hup] at hanswer
  cases hanswer with
  | below hi hp houtcome => use hp

/-- The answer for a class whose chain comes to an outcome, if its interfaces are
defined. -/
def answerOf (r : Registry) (id : ClassId) (c : Class) :
    Option HierarchyFault → Except RegistryError (Option ClassId)
  | none => .ok (r.parent? id)
  | some fault => .error (.hierarchy c.name fault)

/-- An answer reports an interface, or is the one for what the chain comes to. -/
theorem SuperclassAnswer.interface_or_outcome {r : Registry} {id : ClassId} {c : Class}
    (hc : r.class? id = some c) {answer : Except RegistryError (Option ClassId)}
    (h : r.SuperclassAnswer id c answer) :
  (∃ n, r.FirstUndefinedInterface c n ∧
    answer = .error (.hierarchy c.name (.undefinedName n))) ∨
  r.InterfacesDefined c ∧ ∃ outcome, r.ChainOutcome id outcome ∧
    answer = r.answerOf id c outcome
  := by
  cases h with
  | @undefinedInterface n hn =>
      left
      use n
  | top hi htop =>
      right
      use hi, none, ChainOutcome.ends (k := 0) rfl hc htop
      rw [answerOf, parent?_of_isTop hc htop]
  | below hi hp houtcome =>
      right
      use hi, none, houtcome
      rw [answerOf, hp]
  | @fault hi f houtcome =>
      right
      use hi, some f, houtcome
      rfl

/-- There is one answer for each class. -/
theorem SuperclassAnswer.unique {r : Registry} {id : ClassId} {c : Class}
    (hc : r.class? id = some c) {a b : Except RegistryError (Option ClassId)}
    (ha : r.SuperclassAnswer id c a) (hb : r.SuperclassAnswer id c b) :
  a = b
  := by
  obtain ⟨n, hn, rfl⟩ | ⟨hi, outcome, houtcome, rfl⟩ := ha.interface_or_outcome hc
  · obtain ⟨m, hm, rfl⟩ | ⟨hi, -⟩ := hb.interface_or_outcome hc
    · rw [← missingInterface?_eq_some] at hn hm
      rw [hn] at hm
      rw [Option.some.inj hm]
    · cases hi.not_firstUndefined hn
  · obtain ⟨m, hm, -⟩ | ⟨-, outcome', houtcome', rfl⟩ := hb.interface_or_outcome hc
    · cases hi.not_firstUndefined hm
    · rw [houtcome.unique houtcome']

/-- In every registry that comes about, the superclass of a class is decided by its
interfaces and by what the chain above it comes to. -/
theorem superclassOf_eq_iff {r : Registry} {names : Interner} (hr : r.Reachable names)
    {id : ClassId} {c : Class} (hc : r.class? id = some c)
    (answer : Except RegistryError (Option ClassId)) :
  r.superclassOf id = answer ↔ r.SuperclassAnswer id c answer
  := by
  have hanswer := hr.indexed.superclassOf_answer hc
  constructor
  · rintro rfl
    apply hanswer
  · intro h
    apply hanswer.unique hc h

/-- A registry of three classes, of which the first is below two that are each the
superclass of the other. -/
def belowCycle : Registry × Interner :=
  (Registry.empty ⟨16⟩ false).performAll
    [.define { name := ⟨32⟩, kind := .plain, superclass := some ⟨⟨16⟩, ⟨48⟩⟩ },
      .define { name := ⟨48⟩, kind := .plain, superclass := some ⟨⟨16⟩, ⟨64⟩⟩ },
      .define { name := ⟨64⟩, kind := .plain, superclass := some ⟨⟨16⟩, ⟨48⟩⟩ }]
    (Interner.initial .bySum)

theorem superclassOf_belowCycle :
  belowCycle.1.superclassOf ⟨0⟩ = .error (.hierarchy ⟨32⟩ .cycle)
  := by
  have h : belowCycle.1.Reachable belowCycle.2 := ⟨_, _, _, _, rfl⟩
  have hc : belowCycle.1.class? ⟨0⟩ = some
      { ty := ⟨⟨16⟩, ⟨32⟩⟩, kind := .plain, superclass := some ⟨⟨16⟩, ⟨48⟩⟩, interfaces := []
        flags := {}, span := .dummy, state := .declared } := rfl
  apply (superclassOf_eq_iff h hc _).mpr
  apply SuperclassAnswer.fault
  · intro i hi
    cases hi
  · apply ChainOutcome.endless
    apply endless_of_repeat (i := 1) (j := 3) (d := ⟨1⟩) (by decide) rfl rfl

end DialectIR.Registry
