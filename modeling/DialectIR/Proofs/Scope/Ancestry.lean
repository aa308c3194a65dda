import DialectIR.Proofs.Registry.Chain
import DialectIR.Proofs.Scope.Order

/-!
# Superclasses across loaders

A loader is only initialized if the superclass of each of its classes can be resolved: it
is one of the loader itself, or one that a loader further down the stack of initialized
loaders gives.  Neither new loaders nor later initializations change what these loaders
give.  So the superclasses of an initialized loader stay resolved, and as the chains within
each loader end, every way up through the loaders ends at a root.
-/

namespace DialectIR.Scope

/-- The class a number of steps above a class, in whatever loader it lies, and none if a
root comes before. -/
def ascend (s : Scope) :
    Nat → LoaderHandle → ClassId → Except ScopeError (Option (LoaderHandle × ClassId))
  | 0, h, id => .ok (some (h, id))
  | k + 1, h, id =>
    match s.resolveSuperclass h id with
    | .error e => .error e
    | .ok none => .ok none
    | .ok (some (o, superclass)) => s.ascend k o superclass

/-- What the superclass of a class in a registry comes to, if only the loaders that are
`ready` may be asked for classes. -/
inductive Resolves (s : Scope) (ready : LoaderHandle → Prop) (h : LoaderHandle)
    (r : Registry) (id : ClassId) : Option (LoaderHandle × ClassId) → Prop where
  | below {superclass : ClassId} (hup : r.superclassOf id = .ok (some superclass)) :
    Resolves s ready h r id (some (h, superclass))
  | root {c : Class} (hup : r.superclassOf id = .ok none) (hc : r.class? id = some c)
    (hsuper : c.superclass = none) : Resolves s ready h r id none
  | foreign {c : Class} {superclass : TypeRef} {o : LoaderHandle}
    {found : LoaderHandle × ClassId} (hup : r.superclassOf id = .ok none)
    (hc : r.class? id = some c) (hsuper : c.superclass = some superclass)
    (hforeign : superclass.loader ≠ r.loader) (ho : s.handle? superclass.loader = some o)
    (hready : ready o) (hfound : s.lookupName? o superclass.name = some found) :
    Resolves s ready h r id (some found)

/-- Every way up from a class of a loader ends at a root. -/
def Rooted (s : Scope) (h : LoaderHandle) : Prop :=
  ∀ l id c, s.loader? h = some l → l.registry.class? id = some c →
    ∃ k, s.ascend k h id = .ok none

/-- The registries of a scope are consistent. -/
def Indexed (s : Scope) : Prop :=
  ∀ h l, s.loader? h = some l → l.registry.Indexed

/-- The superclasses of all classes in a list of loaders can be resolved with the help of
loaders that come later in the list only. -/
inductive Settled (s : Scope) : List LoaderHandle → Prop where
  | nil : Settled s []
  | cons {h : LoaderHandle} {below : List LoaderHandle}
    (hresolves : ∀ l id c, s.loader? h = some l → l.registry.class? id = some c →
      ∃ answer, s.Resolves (· ∈ below) h l.registry id answer)
    (hbelow : Settled s below) : Settled s (h :: below)

/-- With this past, the initialized loaders of a scope are settled in the order in which
they were initialized. -/
def AllSettled (past : List Scope) (s : Scope) : Prop :=
  s.Indexed ∧ ∃ order, Ordered past s order ∧ s.Settled order

/-! ### Resolving -/

/-- What is answered for the superclass of a class, it comes to. -/
theorem resolves_of_resolveSuperclass {s : Scope} (hs : s.Indexed) {h : LoaderHandle}
    {l : Loader} (hl : s.loader? h = some l) {id : ClassId} {c : Class}
    (hc : l.registry.class? id = some c) {answer : Option (LoaderHandle × ClassId)}
    (hanswer : s.resolveSuperclass h id = .ok answer) :
  s.Resolves (s.isInitialized ·) h l.registry id answer
  := by
  simp only [resolveSuperclass, hl] at hanswer
  cases hup : l.registry.superclassOf id with
  | error e =>
      simp only [hup] at hanswer
      cases hanswer
  | ok local? =>
      cases local? with
      | some superclass =>
          simp only [hup] at hanswer
          cases hanswer
          apply Resolves.below hup
      | none =>
          simp only [hup, hc] at hanswer
          cases hsuper : c.superclass with
          | none =>
              simp only [hsuper] at hanswer
              cases hanswer
              apply Resolves.root hup hc hsuper
          | some superclass =>
              have hforeign := (hs h l hl).isTop_of_superclassOf hc hup superclass hsuper
              simp only [hsuper, if_neg hforeign] at hanswer
              split at hanswer
              · cases hanswer
              · rename_i hpending
                cases hlookup : s.lookupType? superclass with
                | none =>
                    simp only [hlookup] at hanswer
                    cases hanswer
                | some found =>
                    simp only [hlookup] at hanswer
                    cases hanswer
                    obtain ⟨o, ho, hfound⟩ := Option.bind_eq_some_iff.mp hlookup
                    apply Resolves.foreign hup hc hsuper hforeign ho _ hfound
                    simpa [isPending, ho] using hpending

/-- What the superclass of a class comes to is answered, if all that are ready are
initialized. -/
theorem Resolves.resolveSuperclass {s : Scope} {ready : LoaderHandle → Prop}
    {h : LoaderHandle} {l : Loader} (hl : s.loader? h = some l) {id : ClassId}
    {answer : Option (LoaderHandle × ClassId)}
    (hanswer : s.Resolves ready h l.registry id answer)
    (hready : ∀ o, ready o → s.isInitialized o) :
  s.resolveSuperclass h id = .ok answer
  := by
  cases hanswer with
  | below hup => simp only [Scope.resolveSuperclass, hl, hup]
  | root hup hc hsuper => simp only [Scope.resolveSuperclass, hl, hup, hc, hsuper]
  | @foreign c superclass o found hup hc hsuper hforeign ho ho' hfound =>
      have hpending : ¬ s.isPending superclass.loader := by
        simp [isPending, ho, hready o ho']
      simp only [Scope.resolveSuperclass, hl, hup, hc, hsuper, if_neg hforeign,
        if_neg hpending, lookupType?, ho, Option.bind_eq_bind, Option.bind_some, hfound]

/-- What the superclass of a class comes to stays the same in a scope in which those that
are ready give the same classes. -/
theorem Resolves.transfer {s t : Scope} {ready ready' : LoaderHandle → Prop}
    {h : LoaderHandle} {r : Registry} {id : ClassId}
    {answer : Option (LoaderHandle × ClassId)} (hanswer : s.Resolves ready h r id answer)
    (hhandle : ∀ n o, s.handle? n = some o → t.handle? n = some o)
    (hready : ∀ o, ready o → ready' o ∧ ∀ n, t.lookupName? o n = s.lookupName? o n) :
  t.Resolves ready' h r id answer
  := by
  cases hanswer with
  | below hup => apply Resolves.below hup
  | root hup hc hsuper => apply Resolves.root hup hc hsuper
  | foreign hup hc hsuper hforeign ho hready' hfound =>
      obtain ⟨hready', hlookup⟩ := hready _ hready'
      apply Resolves.foreign hup hc hsuper hforeign (hhandle _ _ ho) hready'
      rw [hlookup]
      apply hfound

/-! ### Looking up from a stack -/

theorem classIn?_eq_some_iff {s : Scope} {n : Name} {h o : LoaderHandle} {id : ClassId} :
  s.classIn? n h = some (o, id) ↔
    o = h ∧ ∃ l, s.loader? h = some l ∧ l.registry.classId? n = some id
  := by
  simp only [classIn?, Option.bind_eq_bind, Option.bind_eq_some_iff, Option.pure_def,
    Option.some.injEq, Prod.mk.injEq]
  constructor
  · rintro ⟨l, hl, id', hid, rfl, rfl⟩
    use rfl, l, hl
  · rintro ⟨rfl, l, hl, hid⟩
    use l, hl, id, hid

/-- A class that is found from a loader of a stack is one of a loader of the stack. -/
theorem Stacked.lookupName?_found {s : Scope} {order : List LoaderHandle}
    (h : s.Stacked order) (hs : s.Indexed) {o : LoaderHandle} (ho : o ∈ order) {n : Name}
    {x : LoaderHandle} {id : ClassId} (hfound : s.lookupName? o n = some (x, id)) :
  x ∈ order ∧ ∃ l c, s.loader? x = some l ∧ l.registry.class? id = some c
  := by
  obtain ⟨chain, hsubset, hchain⟩ := h.delegationChain ho
  rw [lookupName?, hchain s s.extends_self] at hfound
  obtain ⟨y, hy, hclass⟩ := List.exists_of_findSome?_eq_some hfound
  obtain ⟨rfl, l, hl, hid⟩ := classIn?_eq_some_iff.mp hclass
  obtain ⟨c, hc, -⟩ := (hs x l hl).classId?_eq_some_iff.mp hid
  use hsubset (List.mem_reverse.mp hy), l, c, hl

/-- What is found from the loaders of a stack stays the same as long as they do. -/
theorem Stacked.lookupName?_eq {s t : Scope} {order : List LoaderHandle}
    (h : s.Stacked order) (hextends : s.Extends t)
    (hkept : ∀ o ∈ order, t.loader? o = s.loader? o) {o : LoaderHandle} (ho : o ∈ order)
    (n : Name) :
  t.lookupName? o n = s.lookupName? o n
  := by
  obtain ⟨chain, hsubset, hchain⟩ := h.delegationChain ho
  rw [lookupName?, lookupName?, hchain t hextends, hchain s s.extends_self,
    ← List.head?_filterMap, ← List.head?_filterMap]
  congr 1
  apply List.filterMap_congr
  intro x hx
  rw [classIn?, classIn?, hkept x (hsubset (List.mem_reverse.mp hx))]

/-- Loaders stay settled as long as they stay as they are. -/
theorem Settled.extends {s t : Scope} {order : List LoaderHandle} (h : s.Settled order)
    (hstacked : s.Stacked order) (hextends : s.Extends t)
    (hkept : ∀ o ∈ order, t.loader? o = s.loader? o) :
  t.Settled order
  := by
  induction h with
  | nil => apply Settled.nil
  | @cons h below hresolves hbelow ih =>
      have hkept' : ∀ o ∈ below, t.loader? o = s.loader? o := fun o ho =>
        hkept o (List.mem_cons_of_mem h ho)
      cases hstacked with
      | cons hdeclared hnew hbase hstacked =>
          apply Settled.cons _ (ih hstacked hkept')
          intro l id c hl hc
          rw [hkept h List.mem_cons_self] at hl
          obtain ⟨answer, hanswer⟩ := hresolves l id c hl hc
          use answer
          apply hanswer.transfer (fun _ _ => hextends.handle)
          intro o ho
          use ho
          apply hstacked.lookupName?_eq hextends hkept' ho

/-- The loaders that help to resolve the superclass of a class of a settled loader: they
come later in the list. -/
theorem Settled.exists_resolves {s : Scope} {R : LoaderHandle → LoaderHandle → Prop}
    {order : List LoaderHandle} (h : s.Settled order) (hstacked : s.Stacked order)
    (hbefore : order.Pairwise R) {o : LoaderHandle} (ho : o ∈ order) {l : Loader}
    (hl : s.loader? o = some l) {id : ClassId} {c : Class}
    (hc : l.registry.class? id = some c) :
  ∃ below answer, below ⊆ order ∧ s.Stacked below ∧ (∀ x ∈ below, R o x) ∧
    s.Resolves (· ∈ below) o l.registry id answer
  := by
  induction h with
  | nil => cases ho
  | @cons h below hresolves hbelow ih =>
      obtain ⟨hfirst, hrest⟩ := List.pairwise_cons.mp hbefore
      cases hstacked with
      | cons hdeclared hnew hbase hstacked =>
          rcases List.mem_cons.mp ho with rfl | ho
          · obtain ⟨answer, hanswer⟩ := hresolves l id c hl hc
            use below, answer, List.subset_cons_self o below, hstacked, hfirst
          · obtain ⟨earlier, answer, hsubset, hanswer⟩ := ih hstacked hrest ho
            use earlier, answer, List.subset_cons_of_subset h hsubset

/-! ### Ways up -/

theorem ascend_root {s : Scope} {h : LoaderHandle} {id : ClassId}
    (hroot : s.resolveSuperclass h id = .ok none) :
  s.ascend 1 h id = .ok none
  := by
  rw [ascend, hroot]

theorem ascend_step {s : Scope} {h o : LoaderHandle} {id superclass : ClassId}
    (hup : s.resolveSuperclass h id = .ok (some (o, superclass))) (k : Nat) :
  s.ascend (k + 1) h id = s.ascend k o superclass
  := by
  rw [ascend, hup]

/-- The way up from a class ends at a root, if those from the loaders that help to resolve
its superclass do, or it goes on within the loader. -/
theorem Resolves.rooted_or_below {s : Scope} (hs : s.Indexed) {below : List LoaderHandle}
    (hstacked : s.Stacked below) (hinitialized : ∀ x ∈ below, s.isInitialized x)
    (hrooted : ∀ x ∈ below, s.Rooted x) {h : LoaderHandle} {l : Loader}
    (hl : s.loader? h = some l) {id : ClassId} {answer : Option (LoaderHandle × ClassId)}
    (hanswer : s.Resolves (· ∈ below) h l.registry id answer) :
  (∃ k, s.ascend k h id = .ok none) ∨
    ∃ superclass, l.registry.superclassOf id = .ok (some superclass) ∧
      s.resolveSuperclass h id = .ok (some (h, superclass))
  := by
  have hup := hanswer.resolveSuperclass hl hinitialized
  cases hanswer with
  | @below superclass hlocal =>
      right
      use superclass
  | root hlocal hc hsuper =>
      left
      use 1
      apply ascend_root hup
  | @foreign c superclass o found hlocal hc hsuper hforeign ho ho' hfound =>
      left
      obtain ⟨x, id'⟩ := found
      obtain ⟨hx, l', c', hl', hc'⟩ := hstacked.lookupName?_found hs ho' hfound
      obtain ⟨k, hk⟩ := hrooted x hx l' id' c' hl' hc'
      use k + 1
      rw [ascend_step hup]
      apply hk

/-- The chain of a class within a loader comes to its top, so that the way up ends if it
does wherever it leaves the chain. -/
theorem ascend_of_chain {s : Scope} {h : LoaderHandle} {r : Registry} (hr : r.Indexed)
    (hstep : ∀ id c, r.class? id = some c → (∃ k, s.ascend k h id = .ok none) ∨
      ∃ superclass, r.superclassOf id = .ok (some superclass) ∧
        s.resolveSuperclass h id = .ok (some (h, superclass)))
    {n : Nat} {id top : ClassId} {c d : Class} (hc : r.class? id = some c)
    (hn : r.ancestor? n id = some top) (hd : r.class? top = some d) (htop : r.IsTop d) :
  ∃ k, s.ascend k h id = .ok none
  := by
  induction n generalizing id c with
  | zero =>
      obtain rfl : id = top := Option.some.inj hn
      rcases hstep id c hc with hend | ⟨superclass, hlocal, -⟩
      · apply hend
      · obtain ⟨hparent, -⟩ := hr.chain_of_superclassOf hc hlocal
        rw [Registry.parent?_of_isTop hd htop] at hparent
        cases hparent
  | succ n ih =>
      rcases hstep id c hc with hend | ⟨superclass, hlocal, hup⟩
      · apply hend
      · obtain ⟨hparent, -⟩ := hr.chain_of_superclassOf hc hlocal
        obtain ⟨c', hc'⟩ := hr.class?_parent hparent
        rw [Registry.ancestor?, hparent] at hn
        obtain ⟨k, hk⟩ := ih hc' hn
        use k + 1
        rw [ascend_step hup]
        apply hk

/-- A loader is rooted if the loaders are that help to resolve its superclasses. -/
theorem rooted_of_resolves {s : Scope} (hs : s.Indexed) {below : List LoaderHandle}
    (hstacked : s.Stacked below) (hinitialized : ∀ x ∈ below, s.isInitialized x)
    (hrooted : ∀ x ∈ below, s.Rooted x) {h : LoaderHandle}
    (hresolves : ∀ l id c, s.loader? h = some l → l.registry.class? id = some c →
      ∃ answer, s.Resolves (· ∈ below) h l.registry id answer) :
  s.Rooted h
  := by
  intro l id c hl hc
  have hstep : ∀ id c, l.registry.class? id = some c → (∃ k, s.ascend k h id = .ok none) ∨
      ∃ superclass, l.registry.superclassOf id = .ok (some superclass) ∧
        s.resolveSuperclass h id = .ok (some (h, superclass)) := by
    intro id c hc
    obtain ⟨answer, hanswer⟩ := hresolves l id c hl hc
    apply hanswer.rooted_or_below hs hstacked hinitialized hrooted hl
  rcases hstep id c hc with hend | ⟨superclass, hlocal, -⟩
  · apply hend
  · obtain ⟨-, houtcome⟩ := (hs h l hl).chain_of_superclassOf hc hlocal
    cases houtcome with
    | ends hn hd htop => apply ascend_of_chain (hs h l hl) hstep hc hn hd htop

/-- Settled loaders that are initialized are rooted. -/
theorem Settled.rooted {s : Scope} (hs : s.Indexed) {order : List LoaderHandle}
    (h : s.Settled order) (hstacked : s.Stacked order)
    (hinitialized : ∀ x ∈ order, s.isInitialized x) :
  ∀ x ∈ order, s.Rooted x
  := by
  induction h with
  | nil =>
      intro x hx
      cases hx
  | @cons h below hresolves hbelow ih =>
      cases hstacked with
      | cons hdeclared hnew hbase hstacked =>
          have hinitialized' : ∀ x ∈ below, s.isInitialized x := fun x hx =>
            hinitialized x (List.mem_cons_of_mem h hx)
          have hrooted := ih hstacked hinitialized'
          intro x hx
          rcases List.mem_cons.mp hx with rfl | hx
          · apply rooted_of_resolves hs hstacked hinitialized' hrooted hresolves
          · apply hrooted x hx

/-! ### Along a run -/

theorem Indexed.replace {s : Scope} (hs : s.Indexed) {h : LoaderHandle} {old l : Loader}
    (hold : s.loader? h = some old) (hl : l.registry.Indexed) :
  (s.replace h l).Indexed
  := by
  intro o l' hl'
  rw [loader?_replace hold] at hl'
  split at hl'
  · cases hl'
    apply hl
  · apply hs o l' hl'

theorem Indexed.setRegistry {s : Scope} (hs : s.Indexed) {h : LoaderHandle} {l : Loader}
    (hl : s.loader? h = some l) {r : Registry} (hr : r.Indexed) :
  (s.setRegistry h r).Indexed
  := by
  rw [setRegistry_eq_replace hl]
  apply hs.replace hl hr

theorem Indexed.push {s : Scope} (hs : s.Indexed) {l : Loader} (hnew : l.IsNew) :
  (s.push l).Indexed
  := by
  intro h l' hl'
  rw [loader?_push] at hl'
  split at hl'
  · cases hl'
    obtain ⟨synthetic, hempty⟩ := hnew.registry
    rw [hempty]
    apply Registry.indexed_empty
  · apply hs h l' hl'

theorem Indexed.change {editable : Prop} {names : Interner} {s t : Scope} (hs : s.Indexed)
    (h : Change editable names s t) :
  t.Indexed
  := by
  cases h with
  | keep => apply hs
  | add hnew hname => apply hs.push hnew
  | attempt hattempt =>
      cases hattempt with
      | keep => apply hs
      | failed hl hnew hr =>
          have hstarted := (hs _ _ hl).bootstrap names
          apply hs.setRegistry hl
          rcases hr with rfl | rfl
          · apply hstarted
          · apply (hstarted _).rollback
      | @done l hl hnew hbase started hstarted hresolved =>
          have hr := (hs _ _ hl).bootstrap names l.language
          rw [hstarted] at hr
          rw [markInitialized_setRegistry hl]
          apply hs.replace hl hr
  | edit heditable hl hr => apply hs.setRegistry hl ((hs _ _ hl).change hr)

/-- No class is unresolved exactly if the superclass of each is answered. -/
theorem unresolved?_eq_none_iff {s : Scope} {h : LoaderHandle} {r : Registry} :
  s.unresolved? h r.classIds = none ↔
    ∀ id c, r.class? id = some c → ∃ answer, s.resolveSuperclass h id = .ok answer
  := by
  rw [unresolved?, List.findSome?_eq_none_iff]
  constructor
  · intro hnone id c hc
    have hid : id ∈ r.classIds := by
      apply List.mem_map.mpr
      use id.index, List.mem_range.mpr (Registry.lt_size_of_class? hc)
    have hanswer := hnone id hid
    cases hup : s.resolveSuperclass h id with
    | error e =>
        rw [hup] at hanswer
        cases hanswer
    | ok answer => use answer
  · intro hall id hid
    obtain ⟨i, hi, rfl⟩ := List.mem_map.mp hid
    obtain ⟨answer, hanswer⟩ := hall ⟨i⟩ _ (Array.getElem?_eq_getElem (List.mem_range.mp hi))
    rw [hanswer]

/-- What is found from the loaders of a stack does not depend on the registry of a loader
beyond the stack. -/
theorem Stacked.lookupName?_replace {s : Scope} {order : List LoaderHandle}
    (h : s.Stacked order) {x : LoaderHandle} {l : Loader} (hl : s.loader? x = some l)
    (hx : x ∉ order) {new : Loader} (hbase : new.base = l.base) {o : LoaderHandle}
    (ho : o ∈ order) (n : Name) :
  (s.replace x new).lookupName? o n = s.lookupName? o n
  := by
  apply h.lookupName?_eq (extends_replace hl hbase) _ ho
  intro y hy
  rw [loader?_replace hl, if_neg]
  rintro rfl
  apply hx hy

/-- The classes of a registry that a loader is given are all resolved exactly if the
superclass of each comes to what the loaders that are initialized already give. -/
theorem Ordered.unresolved?_setRegistry {past : List Scope} {s : Scope}
    {order : List LoaderHandle} (hordered : Ordered past s order) (hs : s.Indexed)
    {h : LoaderHandle} {l : Loader} (hl : s.loader? h = some l) (hnew : h ∉ order)
    {r : Registry} (hr : r.Indexed) :
  (s.setRegistry h r).unresolved? h r.classIds = none ↔
    ∀ id c, r.class? id = some c → ∃ answer, s.Resolves (· ∈ order) h r id answer
  := by
  have hfilled := hs.setRegistry hl hr
  rw [setRegistry_eq_replace hl] at hfilled ⊢
  have hloader := loader?_replace hl { l with registry := r } h
  rw [if_pos rfl] at hloader
  have hready : ∀ o, (s.replace h { l with registry := r }).isInitialized o ↔ o ∈ order := by
    intro o
    rw [← hordered.initialized, isInitialized_replace hl]
    split
    · rename_i hsame
      rw [hsame, isInitialized_eq hl]
    · rfl
  have hlookup : ∀ o ∈ order, ∀ n,
      (s.replace h { l with registry := r }).lookupName? o n = s.lookupName? o n := by
    intro o ho
    apply hordered.stacked.lookupName?_replace hl hnew _ ho
    rfl
  rw [unresolved?_eq_none_iff]
  constructor
  · intro hall id c hc
    obtain ⟨answer, hanswer⟩ := hall id c hc
    use answer
    apply (resolves_of_resolveSuperclass hfilled hloader hc hanswer).transfer
    · intro n o hn
      apply hn
    · intro o ho
      use (hready o).mp ho
      intro n
      rw [hlookup o ((hready o).mp ho)]
  · intro hall id c hc
    obtain ⟨answer, hanswer⟩ := hall id c hc
    use answer
    apply (hanswer.transfer _ _).resolveSuperclass hloader
    · exact fun o => (hready o).mpr
    · intro n o hn
      apply hn
    · intro o ho
      use ho, hlookup o ho

/-- A loader that becomes initialized is settled on top of those that are. -/
theorem Settled.done {past : List Scope} {s : Scope} {order : List LoaderHandle}
    (hsettled : s.Settled order) (hordered : Ordered past s order) (hs : s.Indexed)
    {h : LoaderHandle} {l : Loader} (hl : s.loader? h = some l) (hnew : h ∉ order)
    {started : Registry} (hstarted : started.Indexed)
    (hresolved : (s.setRegistry h started).unresolved? h started.classIds = none) :
  (s.replace h { l with registry := started, initialized := true }).Settled (h :: order)
  := by
  apply Settled.cons
  · intro l' id c hl' hc
    rw [loader?_replace hl, if_pos rfl] at hl'
    cases hl'
    obtain ⟨answer, hanswer⟩ :=
      (hordered.unresolved?_setRegistry hs hl hnew hstarted).mp hresolved id c hc
    use answer
    apply hanswer.transfer
    · intro n o hn
      apply hn
    · intro o ho
      use ho
      intro n
      apply hordered.stacked.lookupName?_replace hl hnew _ ho
      rfl
  · apply hsettled.extends hordered.stacked
    · exact extends_replace hl rfl
    · intro o ho
      rw [loader?_replace hl, if_neg]
      rintro rfl
      apply hnew ho

theorem allSettled_nil :
  AllSettled [] {}
  := by
  constructor
  · intro h l hl
    simp [loader?] at hl
  · use [], ordered_nil []
    apply Settled.nil

/-- Without requests to registries, each change keeps all initialized loaders settled. -/
theorem AllSettled.change {past : List Scope} {names : Interner} {s t : Scope}
    (h : AllSettled past s) (hchange : Change False names s t) :
  AllSettled (past ++ [s]) t
  := by
  obtain ⟨hs, order, hordered, hsettled⟩ := h
  use hs.change hchange
  cases hchange.step with
  | quiet hextends hinitialized hkept =>
      use order, hordered.quiet hextends hinitialized
      apply hsettled.extends hordered.stacked hextends
      intro o ho
      apply hkept not_false o ((hordered.initialized o).mpr ho)
  | @done h l hl hnew hbase started hstarted hresolved =>
      have hr := (hs h l hl).bootstrap names l.language
      rw [hstarted] at hr
      use h :: order, hordered.done hl hnew hbase started
      apply hsettled.done hordered hs hl (hordered.not_mem hl hnew) hr hresolved

/-- However loaders are added and initialized, and whichever of the requests fail: the
superclass of every class of an initialized loader can be resolved, it belongs to the same
loader or to one that was initialized before it, and the way up from the class ends at a
root. -/
theorem initialized_rooted (names : Interner) {requests : List Request}
    (hedit : ∀ request ∈ requests, ¬ request.IsEdit) {s : Scope}
    (hs : (performAll {} requests names).1 = s) {h : LoaderHandle} {l : Loader}
    (hl : s.loader? h = some l) (hinitialized : s.isInitialized h) {id : ClassId}
    (hid : id.index < l.registry.size) :
  (∃ answer, s.resolveSuperclass h id = .ok answer ∧
    ∀ o superclass, answer = some (o, superclass) →
      o = h ∨ InitializedBefore (history {} names requests) o h) ∧
  ∃ k, s.ascend k h id = .ok none
  := by
  have hrun := performAll_induct (fun _ _ _ _ => AllSettled.change) allSettled_nil names hedit
  rw [hs, List.nil_append] at hrun
  obtain ⟨hindexed, order, hordered, hsettled⟩ := hrun
  have hh := (hordered.initialized h).mp hinitialized
  have hready := fun o => (hordered.initialized o).mpr
  have hc : l.registry.class? id = some l.registry.classes[id.index] :=
    Array.getElem?_eq_getElem hid
  constructor
  · obtain ⟨below, answer, hsubset, hstacked, hbefore, hanswer⟩ :=
      hsettled.exists_resolves hordered.stacked hordered.before hh hl hc
    use answer, hanswer.resolveSuperclass hl (fun o ho => hready o (hsubset ho))
    rintro o superclass rfl
    cases hanswer with
    | below hup =>
        left
        rfl
    | foreign hup hc hsuper hforeign ho hready hfound =>
        right
        apply hbefore
        apply (hstacked.lookupName?_found hindexed hready hfound).1
  · apply hsettled.rooted hindexed hordered.stacked hready h hh l id _ hl hc

/-- Requests for two loaders, of which the second is layered over the first and has a class
below the one of the first.  The second cannot be initialized before the first. -/
def layering : List Request :=
  [.addLanguage
      { name := "a"
        language := { (default : Language) with template := [{ ty := ⟨⟨1⟩, ⟨64⟩⟩ }] } },
    .addLanguage
      { name := "b"
        language := { (default : Language) with
          template := [{ ty := ⟨⟨2⟩, ⟨80⟩⟩, superclass := some ⟨⟨1⟩, ⟨64⟩⟩ }] }
        base := some "a" },
    .initializeLoader ⟨1⟩,
    .initializeAll]

/-- The scope that these requests lead to. -/
def layered : Scope := (performAll {} layering (Interner.initial .bySum)).1

theorem initialized_rooted_layered :
  layered.resolveSuperclass ⟨1⟩ ⟨0⟩ = .ok (some (⟨0⟩, ⟨0⟩)) ∧
    InitializedBefore (history {} (Interner.initial .bySum) layering) ⟨0⟩ ⟨1⟩ ∧
    ∃ k, layered.ascend k ⟨1⟩ ⟨0⟩ = .ok none
  := by
  have hedit : ∀ request ∈ layering, ¬ request.IsEdit := by simp [layering, Request.IsEdit]
  have hup : layered.resolveSuperclass ⟨1⟩ ⟨0⟩ = .ok (some (⟨0⟩, ⟨0⟩)) := by decide +kernel
  obtain ⟨l, hl, hid⟩ :
      ∃ l, layered.loader? ⟨1⟩ = some l ∧ (⟨0⟩ : ClassId).index < l.registry.size :=
    ⟨_, rfl, by decide⟩
  have hs : (performAll {} layering (Interner.initial .bySum)).1 = layered := rfl
  have hinitialized : layered.isInitialized ⟨1⟩ := by decide
  obtain ⟨⟨answer, hanswer, hbefore⟩, hends⟩ :=
    initialized_rooted _ hedit hs hl hinitialized hid
  rw [hup] at hanswer
  cases hanswer
  refine ⟨hup, ?_, hends⟩
  rcases hbefore _ _ rfl with hsame | hbefore
  · cases hsame
  · apply hbefore

end DialectIR.Scope
