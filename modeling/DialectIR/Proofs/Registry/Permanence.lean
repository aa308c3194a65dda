import DialectIR.Proofs.Registry.Rollback

/-!
# What stays in a registry

Positions of classes and methods are handed out once and used ever after, so what they lead
to must stay.  Of a class only its kind and its state change: it is marked as resolved, and
a method is bound to it if it is a code body that has none.  A bootstrap that is taken back
removes what it defined and nothing else, as it never binds a method.
-/

namespace DialectIR

/-- The place of a state in the lifecycle of a class. -/
def ClassState.rank : ClassState → Nat
  | .declared => 0
  | .hierarchyResolved => 1
  | .bodyBound => 2

theorem ClassState.rank_le_rank_resolve (state : ClassState) :
  state.rank ≤ state.resolve.rank
  := by
  cases state <;> decide

theorem ClassState.rank_le_rank_bodyBound (state : ClassState) :
  state.rank ≤ ClassState.bodyBound.rank
  := by
  cases state <;> decide

/-- What may become of a class: a method is bound to it, if it is a code body that has none,
and its state moves on. -/
structure Class.Matures (c d : Class) : Prop where
  alike : c.Alike d
  kind : d.kind = c.kind ∨ c.kind = .codeBody none ∧ ∃ m, d.kind = .codeBody (some m)
  state : c.state.rank ≤ d.state.rank

namespace Class

theorem matures_self (c : Class) :
  c.Matures c
  := ⟨rfl, .inl rfl, Nat.le_refl _⟩

theorem Matures.trans {c d e : Class} (h : c.Matures d) (h' : d.Matures e) :
  c.Matures e
  := by
  constructor
  · rw [Alike, h'.alike, h.alike]
  · rcases h.kind with hsame | ⟨hunbound, m, hbound⟩
    · rw [← hsame]
      apply h'.kind
    · rcases h'.kind with hsame | ⟨hunbound', -⟩
      · right
        use hunbound, m
        rw [hsame, hbound]
      · rw [hbound] at hunbound'
        cases hunbound'
  · apply Nat.le_trans h.state h'.state

theorem matures_resolved (c : Class) :
  c.Matures c.resolved
  := ⟨rfl, .inl rfl, c.state.rank_le_rank_resolve⟩

theorem matures_bind {c : Class} (hunbound : c.kind = .codeBody none) (m : MethodId) :
  c.Matures (c.bind m)
  := ⟨rfl, .inr ⟨hunbound, m, rfl⟩, c.state.rank_le_rank_bodyBound⟩

end Class

namespace Registry

/-- What there is in a registry is in another as well: names lead to the same positions,
classes have matured, and methods are the same. -/
structure Retains (r s : Registry) : Prop where
  found {n : Name} {id : ClassId} (hn : r.classId? n = some id) : s.classId? n = some id
  matured {id : ClassId} {c : Class} (hc : r.class? id = some c) :
    ∃ d, s.class? id = some d ∧ c.Matures d
  method {id : MethodId} {m : Method} (hm : r.method? id = some m) : s.method? id = some m

theorem retains_self (r : Registry) :
  r.Retains r
  := by
  constructor
  · intro n id hn
    apply hn
  · intro id c hc
    exact ⟨c, hc, c.matures_self⟩
  · intro id m hm
    apply hm

theorem Retains.trans {r s t : Registry} (h : r.Retains s) (h' : s.Retains t) :
  r.Retains t
  := by
  constructor
  · intro n id hn
    apply h'.found (h.found hn)
  · intro id c hc
    obtain ⟨d, hd, hcd⟩ := h.matured hc
    obtain ⟨e, he, hde⟩ := h'.matured hd
    exact ⟨e, he, hcd.trans hde⟩
  · intro id m hm
    apply h'.method (h.method hm)

theorem Retains.size_le {r s : Registry} (h : r.Retains s) :
  r.size ≤ s.size
  := by
  apply Nat.le_of_not_lt
  intro hlt
  have hlast : r.class? ⟨s.size⟩ = some r.classes[s.size] := Array.getElem?_eq_getElem hlt
  obtain ⟨d, hd, -⟩ := h.matured hlast
  apply Nat.lt_irrefl _ (lt_size_of_class? hd)

theorem Retains.methods_size_le {r s : Registry} (h : r.Retains s) :
  r.methods.size ≤ s.methods.size
  := by
  apply Nat.le_of_not_lt
  intro hlt
  have hlast : r.method? ⟨s.methods.size⟩ = some r.methods[s.methods.size] :=
    Array.getElem?_eq_getElem hlt
  obtain ⟨hlt', -⟩ := Array.getElem?_eq_some_iff.mp (h.method hlast)
  apply Nat.lt_irrefl _ hlt'

/-! ### What requests do to a class -/

/-- A template marks the classes that were there before as resolved, or leaves them. -/
theorem Indexed.class?_of_defineTemplate {r : Registry} (h : r.Indexed) (l : Language)
    {id : ClassId} {c : Class} (hc : r.class? id = some c) :
  (r.defineTemplate l).1.class? id = some c ∨
    (r.defineTemplate l).1.class? id = some c.resolved
  := by
  obtain ⟨hmarked, hkept⟩ := h.class?_defineTemplate l (lt_size_of_class? hc)
  rw [hc] at hmarked hkept
  by_cases hpassed : r.Passed l id
  · right
    apply hmarked hpassed
  · left
    apply hkept hpassed

/-- A request does one of three things to a class: it leaves it, marks it as resolved, or
binds a method to a code body that has none. -/
theorem Indexed.class?_change {names : Interner} {r s : Registry} (h : r.Indexed)
    (hchange : Change names r s) {id : ClassId} {c : Class} (hc : r.class? id = some c) :
  s.class? id = some c ∨ s.class? id = some c.resolved ∨
    c.kind = .codeBody none ∧ ∃ m, s.class? id = some (c.bind m)
  := by
  cases hchange with
  | advance hadvance =>
      cases hadvance with
      | keep => exact .inl hc
      | define hdefine => exact .inl ((class?_define hdefine).mpr (.inl hc))
      | bind hc' hkind hup hname body =>
          rw [class?_bound r hc']
          split
          · rename_i hsame
            rw [hsame, hc'] at hc
            cases hc
            exact .inr (.inr ⟨hkind, _, rfl⟩)
          · exact .inl hc
      | resolve hresolve =>
          obtain ⟨-, rfl⟩ := resolveSuperclass_eq_ok.mp hresolve
          obtain ⟨d, hd, rfl | rfl⟩ := class?_modifyClass_of_class? hc _ Class.resolved
          · exact .inl hd
          · exact .inr (.inl hd)
      | resolveAll =>
          obtain ⟨hmarked, hkept⟩ := h.class?_resolveEach (Nat.zero_add r.size) id
          rw [hc, ← List.range_eq_range'] at hmarked hkept
          by_cases hpassed : r.PassedFrom 0 id
          · exact .inr (.inl (hmarked hpassed))
          · exact .inl (hkept hpassed)
  | bootstrap l =>
      have hclass : (r.bootstrap names l).1.class? id = (r.defineTemplate l).1.class? id := by
        rcases r.bootstrap_cases names l with hdone | ⟨e, -, htaken⟩
        · rw [hdone]
        · rw [htaken, class?_rollback]
          apply if_pos (lt_size_of_class? hc)
      rw [hclass]
      rcases h.class?_of_defineTemplate l hc with hkept | hmarked
      · exact .inl hkept
      · exact .inr (.inl hmarked)

/-- A request leaves the methods that there are. -/
theorem method?_change {names : Interner} {r s : Registry} (hchange : Change names r s)
    {id : MethodId} {m : Method} (hm : r.method? id = some m) :
  s.method? id = some m
  := by
  cases hchange with
  | advance hadvance =>
      cases hadvance with
      | keep => apply hm
      | define hdefine =>
          obtain ⟨-, -, rfl⟩ := define_eq_ok.mp hdefine
          apply hm
      | bind hc hkind hup hname body =>
          rw [method?_bound]
          split
          · rename_i hnew
            rw [hnew, method?] at hm
            simp at hm
          · apply hm
      | resolve hresolve =>
          obtain ⟨-, rfl⟩ := resolveSuperclass_eq_ok.mp hresolve
          apply hm
      | resolveAll =>
          rw [resolveHierarchy, resolveEach_eq]
          apply hm
  | bootstrap l =>
      have hmethods : (r.bootstrap names l).1.methods = r.methods := by
        rcases r.bootstrap_cases names l with hdone | ⟨e, -, htaken⟩
        · rw [hdone, methods_defineTemplate]
        · simp [htaken, rollback, checkpoint, methods_defineTemplate]
      rw [method?, hmethods]
      apply hm

/-- A registry retains what it has when something is requested. -/
theorem Indexed.retains_change {names : Interner} {r s : Registry} (h : r.Indexed)
    (hchange : Change names r s) :
  r.Retains s
  := by
  constructor
  · intro n id hn
    apply (h.extends_change hchange).found hn
  · intro id c hc
    rcases h.class?_change hchange hc with hkept | hmarked | ⟨hunbound, m, hbound⟩
    · exact ⟨c, hkept, c.matures_self⟩
    · exact ⟨c.resolved, hmarked, c.matures_resolved⟩
    · exact ⟨c.bind m, hbound, Class.matures_bind hunbound m⟩
  · intro id m hm
    apply method?_change hchange hm

theorem Indexed.retains_performAll {r : Registry} (h : r.Indexed) (names : Interner)
    (requests : List Request) :
  r.Retains (r.performAll requests names).1
  := by
  have hstep : ∀ names s t, s.Indexed → r.Retains s → Change names s t → r.Retains t :=
    fun names s t hs hretains hchange => hretains.trans (hs.retains_change hchange)
  apply (h.performAll_induct hstep r.retains_self names requests).2

/-- Whatever is requested of a registry that comes about, and whether it is met or refused:
names lead to the positions that they led to.  At each position stays a class that differs
in its kind and its state at most.  The kind changes only when a method is bound to a code
body that has none, and the state never moves back.  Methods stay what they are, and there
are never fewer classes or methods than before. -/
theorem registry_retained {r : Registry} {names : Interner} (hr : r.Reachable names)
    (requests : List Request) {s : Registry} (hs : (r.performAll requests names).1 = s) :
  (∀ n id, r.classId? n = some id → s.classId? n = some id) ∧
  (∀ id c, r.class? id = some c → ∃ d, s.class? id = some d ∧
    d = { c with kind := d.kind, state := d.state } ∧
    (d.kind = c.kind ∨ c.kind = .codeBody none ∧ ∃ m, d.kind = .codeBody (some m)) ∧
    c.state.rank ≤ d.state.rank) ∧
  (∀ id m, r.method? id = some m → s.method? id = some m) ∧
  r.size ≤ s.size ∧ r.methods.size ≤ s.methods.size
  := by
  have hretains := hr.indexed.retains_performAll names requests
  rw [hs] at hretains
  refine ⟨fun n id => hretains.found, ?_, fun id m => hretains.method, hretains.size_le,
    hretains.methods_size_le⟩
  intro id c hc
  obtain ⟨d, hd, hmatured⟩ := hretains.matured hc
  use d, hd
  exact ⟨hmatured.alike, hmatured.kind, hmatured.state⟩

/-- A registry with a code body that has a method, one that has none, and a class that is
only declared. -/
def partlyBound : Registry × Interner :=
  (Registry.empty ⟨0⟩ false).performAll
    [.defineClass "A" none .plain .dummy,
      .intern "B",
      .intern "M",
      .defineCodeBody "f" "A" .dummy,
      .bindCodeBody "f" { cfg := {} },
      .defineCodeBody "g" "A" .dummy]
    (Interner.initial .bySum)

/-- A bootstrap that fails, and requests to bind a method to both code bodies. -/
def retrying : List Request :=
  [.bootstrap dangling, .bindCodeBody "f" { cfg := {} }, .bindCodeBody "g" { cfg := {} }]

theorem registry_retained_partlyBound :
  partlyBound.1.Reachable partlyBound.2 ∧
    (∃ c, partlyBound.1.class? ⟨1⟩ = some c ∧ c.kind = .codeBody (some ⟨0⟩)) ∧
    (∃ d, (partlyBound.1.performAll retrying partlyBound.2).1.class? ⟨1⟩ = some d ∧
      d.kind = .codeBody (some ⟨0⟩)) ∧
    ∃ m, partlyBound.1.method? ⟨0⟩ = some m ∧
      (partlyBound.1.performAll retrying partlyBound.2).1.method? ⟨0⟩ = some m
  := by
  have hr : partlyBound.1.Reachable partlyBound.2 := ⟨_, _, _, _, rfl⟩
  obtain ⟨c, hc, hkind⟩ : ∃ c, partlyBound.1.class? ⟨1⟩ = some c ∧
      c.kind = .codeBody (some ⟨0⟩) := ⟨_, rfl, rfl⟩
  obtain ⟨m, hm⟩ : ∃ m, partlyBound.1.method? ⟨0⟩ = some m := ⟨_, rfl⟩
  obtain ⟨-, hclasses, hmethods, -⟩ := registry_retained hr retrying rfl
  obtain ⟨d, hd, -, hkind', -⟩ := hclasses ⟨1⟩ c hc
  refine ⟨hr, ⟨c, hc, hkind⟩, ⟨d, hd, ?_⟩, m, hm, hmethods ⟨0⟩ m hm⟩
  rcases hkind' with hsame | ⟨hunbound, -⟩
  · rw [hsame, hkind]
  · rw [hkind] at hunbound
    cases hunbound

end Registry

end DialectIR
