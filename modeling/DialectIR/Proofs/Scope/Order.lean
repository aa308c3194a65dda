import DialectIR.Proofs.Scope.Request

/-!
# The order of initialization

Loaders are initialized one after the other, and never cease to be initialized.  So the
initialized loaders of a scope form a stack, the latest on top, in which the base of each
loader lies below it.  The chain of bases of an initialized loader therefore stays within
the stack, and it does not change when loaders are added or initialized later.
-/

namespace DialectIR.Scope

/-- The base that a loader declares, whether it is part of the scope or not. -/
def declared? (s : Scope) (h : LoaderHandle) : Option (Option Name) :=
  (s.loader? h).map (·.base)

/-- The loaders and names of a scope are those of another as well. -/
structure Extends (s t : Scope) : Prop where
  handle {n : Name} {h : LoaderHandle} (hn : s.handle? n = some h) : t.handle? n = some h
  declared {h : LoaderHandle} {base : Option Name} (hbase : s.declared? h = some base) :
    t.declared? h = some base

/-- A list of loaders in which the base of each is one that comes later in the list. -/
inductive Stacked (s : Scope) : List LoaderHandle → Prop where
  | nil : Stacked s []
  | cons {h : LoaderHandle} {base : Option Name} {below : List LoaderHandle}
    (hdeclared : s.declared? h = some base) (hnew : h ∉ below)
    (hbase : ∀ b, base = some b → ∃ o ∈ below, s.handle? b = some o)
    (hbelow : Stacked s below) : Stacked s (h :: below)

/-- A list of loaders in which the base of each is the next, and the last has none. -/
inductive BaseChain (s : Scope) : List LoaderHandle → Prop where
  | last {h : LoaderHandle} (hdeclared : s.declared? h = some none) : BaseChain s [h]
  | cons {h : LoaderHandle} {b : Name} {o : LoaderHandle} {rest : List LoaderHandle}
    (hdeclared : s.declared? h = some (some b)) (hhandle : s.handle? b = some o)
    (hrest : BaseChain s (o :: rest)) : BaseChain s (h :: o :: rest)

/-- The initialized loaders of a scope with this past, the latest first. -/
structure Ordered (past : List Scope) (s : Scope) (order : List LoaderHandle) : Prop where
  initialized (h : LoaderHandle) : s.isInitialized h ↔ h ∈ order
  stacked : s.Stacked order
  before : order.Pairwise fun h o => InitializedBefore past o h

theorem extends_self (s : Scope) :
  s.Extends s
  := ⟨fun hn => hn, fun hbase => hbase⟩

theorem Extends.trans {s t u : Scope} (h : s.Extends t) (h' : t.Extends u) :
  s.Extends u
  := ⟨fun hn => h'.handle (h.handle hn), fun hbase => h'.declared (h.declared hbase)⟩

theorem mem_handles_iff {s : Scope} {h : LoaderHandle} :
  h ∈ s.handles ↔ ∃ l, s.loader? h = some l
  := by
  rw [handles, List.mem_map]
  constructor
  · rintro ⟨i, hi, rfl⟩
    exact ⟨_, Array.getElem?_eq_getElem (List.mem_range.mp hi)⟩
  · rintro ⟨l, hl⟩
    obtain ⟨hlt, -⟩ := Array.getElem?_eq_some_iff.mp hl
    use h.index, List.mem_range.mpr hlt

/-- Of distinct loaders there are at most as many as in the scope. -/
theorem length_le_size {s : Scope} {met : List LoaderHandle} (hnodup : met.Nodup)
    (hmet : ∀ o ∈ met, ∃ l, s.loader? o = some l) :
  met.length ≤ s.size
  := by
  have hsubset : met ⊆ s.handles := by
    intro o ho
    apply mem_handles_iff.mpr (hmet o ho)
  have hlength := hnodup.length_le_of_subset hsubset
  simpa [handles] using hlength

/-! ### Changes of single loaders -/

/-- The scope with another loader at a position. -/
def replace (s : Scope) (h : LoaderHandle) (l : Loader) : Scope :=
  s.modifyLoader h fun _ => l

/-- Changing a loader is putting the changed one into its place. -/
theorem modifyLoader_eq_replace {s : Scope} {h : LoaderHandle} {l : Loader}
    (hl : s.loader? h = some l) (f : Loader → Loader) :
  s.modifyLoader h f = s.replace h (f l)
  := by
  unfold replace modifyLoader
  congr 1
  apply Array.ext_getElem?
  intro i
  simp only [Array.getElem?_modify]
  split
  · rename_i hi
    subst hi
    rw [loader?] at hl
    rw [hl]
    rfl
  · rfl

theorem setRegistry_eq_replace {s : Scope} {h : LoaderHandle} {l : Loader}
    (hl : s.loader? h = some l) (r : Registry) :
  s.setRegistry h r = s.replace h { l with registry := r }
  := modifyLoader_eq_replace hl fun l => { l with registry := r }

theorem markInitialized_setRegistry {s : Scope} {h : LoaderHandle} {l : Loader}
    (hl : s.loader? h = some l) (r : Registry) :
  (s.setRegistry h r).markInitialized h
    = s.replace h { l with registry := r, initialized := true }
  := by
  have hmark : (s.setRegistry h r).markInitialized h
      = s.modifyLoader h fun l => { l with registry := r, initialized := true } :=
    s.modifyLoader_modifyLoader h (fun l => { l with registry := r })
      (fun l => { l with initialized := true })
  rw [hmark, modifyLoader_eq_replace hl]

theorem loader?_replace {s : Scope} {h : LoaderHandle} {old : Loader}
    (hold : s.loader? h = some old) (l : Loader) (o : LoaderHandle) :
  (s.replace h l).loader? o = if o = h then some l else s.loader? o
  := by
  obtain ⟨i⟩ := h
  obtain ⟨j⟩ := o
  rw [loader?] at hold
  simp only [loader?, replace, modifyLoader, Array.getElem?_modify, LoaderHandle.mk.injEq]
  by_cases hij : i = j
  · subst hij
    simp [hold]
  · simp [hij, Ne.symm hij]

theorem isInitialized_replace {s : Scope} {h : LoaderHandle} {old : Loader}
    (hold : s.loader? h = some old) (l : Loader) (o : LoaderHandle) :
  (s.replace h l).isInitialized o = if o = h then l.initialized else s.isInitialized o
  := by
  rw [isInitialized, loader?_replace hold]
  split
  · rfl
  · rfl

/-- A scope in which a loader is replaced by one of the same base extends the scope. -/
theorem extends_replace {s : Scope} {h : LoaderHandle} {old l : Loader}
    (hold : s.loader? h = some old) (hbase : l.base = old.base) :
  s.Extends (s.replace h l)
  := by
  constructor
  · intro n o hn
    apply hn
  · intro o base ho
    rw [declared?, loader?_replace hold]
    split
    · rename_i hsame
      rw [declared?, hsame, hold] at ho
      rw [← ho, Option.map_some, hbase]
      rfl
    · apply ho

theorem loader?_push (s : Scope) (l : Loader) (h : LoaderHandle) :
  (s.push l).loader? h = if h = ⟨s.size⟩ then some l else s.loader? h
  := by
  obtain ⟨i⟩ := h
  simp only [loader?, push, size, Array.getElem?_push, LoaderHandle.mk.injEq]

theorem loader?_size (s : Scope) :
  s.loader? ⟨s.size⟩ = none
  := by
  simp [loader?, size]

/-- A scope extends to one with a further loader of a new name. -/
theorem extends_push {s : Scope} {l : Loader} (hname : s.handle? l.name = none) :
  s.Extends (s.push l)
  := by
  constructor
  · intro n h hn
    have hne : n ≠ l.name := by
      rintro rfl
      rw [hname] at hn
      cases hn
    simp only [handle?, push, List.lookup_cons, beq_false_of_ne hne]
    apply hn
  · intro h base hbase
    rw [declared?, loader?_push]
    split
    · rename_i hsame
      rw [declared?, hsame, loader?_size] at hbase
      cases hbase
    · apply hbase

/-- What a step makes of a scope: either no loader becomes initialized, and the initialized
ones stay as they are unless registries are edited, or one loader does. -/
inductive Step (editable : Prop) (names : Interner) (s : Scope) : Scope → Prop where
  | quiet {t : Scope} (hextends : s.Extends t)
    (hinitialized : ∀ h, t.isInitialized h = s.isInitialized h)
    (hkept : ¬ editable → ∀ h, s.isInitialized h → t.loader? h = s.loader? h) :
    Step editable names s t
  | done {h : LoaderHandle} {l : Loader} (hl : s.loader? h = some l)
    (hnew : l.initialized = false) (hbase : s.baseError? l = none) {started : Registry}
    (hstarted : l.registry.bootstrap names l.language = (started, .ok ()))
    (hresolved : (s.setRegistry h started).unresolved? h started.classIds = none) :
    Step editable names s (s.replace h { l with registry := started, initialized := true })

/-- Giving a loader another registry initializes nothing. -/
theorem step_setRegistry {editable : Prop} (names : Interner) {s : Scope} {h : LoaderHandle}
    {l : Loader} (hl : s.loader? h = some l) (hnew : ¬ editable → l.initialized = false)
    (r : Registry) :
  Step editable names s (s.setRegistry h r)
  := by
  rw [setRegistry_eq_replace hl]
  apply Step.quiet
  · exact extends_replace hl rfl
  · intro o
    rw [isInitialized_replace hl]
    split
    · rename_i hsame
      rw [hsame, isInitialized_eq hl]
    · rfl
  · intro heditable o ho
    rw [loader?_replace hl, if_neg]
    rintro rfl
    rw [isInitialized_eq hl, hnew heditable] at ho
    cases ho

theorem step_push {editable : Prop} (names : Interner) {s : Scope} {l : Loader}
    (hnew : l.IsNew) (hname : s.handle? l.name = none) :
  Step editable names s (s.push l)
  := by
  have hfresh : s.isInitialized ⟨s.size⟩ = false := by
    rw [isInitialized, loader?_size]
    rfl
  apply Step.quiet (extends_push hname)
  · intro h
    rw [isInitialized, loader?_push]
    split
    · rename_i hsame
      rw [hsame, hfresh, Option.map_some, hnew.initialized]
      rfl
    · rfl
  · intro _ h hh
    rw [loader?_push, if_neg]
    rintro rfl
    rw [hfresh] at hh
    cases hh

/-- Every change is such a step. -/
theorem Change.step {editable : Prop} {names : Interner} {s t : Scope}
    (h : Change editable names s t) :
  Step editable names s t
  := by
  have hkeep : Step editable names s s :=
    Step.quiet s.extends_self (fun _ => rfl) (fun _ _ _ => rfl)
  cases h with
  | keep => apply hkeep
  | add hnew hname => apply step_push names hnew hname
  | attempt hattempt =>
      cases hattempt with
      | keep => apply hkeep
      | failed hl hnew hr => apply step_setRegistry names hl (fun _ => hnew)
      | done hl hnew hbase hstarted hresolved =>
          rw [markInitialized_setRegistry hl]
          apply Step.done hl hnew hbase hstarted hresolved
  | edit heditable hl hr =>
      apply step_setRegistry names hl
      intro hnot
      cases hnot heditable

/-- A loader that is initialized stays so. -/
theorem Step.isInitialized {editable : Prop} {names : Interner} {s t : Scope}
    (hstep : Step editable names s t) {h : LoaderHandle} (hh : s.isInitialized h) :
  t.isInitialized h
  := by
  cases hstep with
  | quiet hextends hinitialized hkept =>
      rw [hinitialized]
      apply hh
  | done hl hnew hbase hstarted hresolved =>
      rw [isInitialized_replace hl]
      split
      · rfl
      · apply hh

/-! ### Chains of bases -/

theorem declared?_eq_some {s : Scope} {h : LoaderHandle} {base : Option Name} :
  s.declared? h = some base ↔ ∃ l, s.loader? h = some l ∧ l.base = base
  := Option.map_eq_some_iff

/-- The base of a loader that declares none. -/
theorem base?_of_declared_none {s : Scope} {h : LoaderHandle}
    (hdeclared : s.declared? h = some none) :
  s.base? h = none
  := by
  obtain ⟨l, hl, hbase⟩ := declared?_eq_some.mp hdeclared
  simp [base?, hl, hbase]

theorem base?_of_declared_some {s : Scope} {h : LoaderHandle} {b : Name}
    (hdeclared : s.declared? h = some (some b)) :
  s.base? h = s.handle? b
  := by
  obtain ⟨l, hl, hbase⟩ := declared?_eq_some.mp hdeclared
  simp [base?, hl, hbase]

theorem Stacked.extends {s t : Scope} {order : List LoaderHandle} (h : s.Stacked order)
    (hextends : s.Extends t) :
  t.Stacked order
  := by
  induction h with
  | nil => apply Stacked.nil
  | cons hdeclared hnew hbase hbelow ih =>
      apply Stacked.cons (hextends.declared hdeclared) hnew _ ih
      intro b hb
      obtain ⟨o, ho, hhandle⟩ := hbase b hb
      use o, ho, hextends.handle hhandle

theorem Stacked.nodup {s : Scope} {order : List LoaderHandle} (h : s.Stacked order) :
  order.Nodup
  := by
  induction h with
  | nil => apply List.nodup_nil
  | cons hdeclared hnew hbase hbelow ih => apply List.nodup_cons.mpr ⟨hnew, ih⟩

theorem Stacked.loader {s : Scope} {order : List LoaderHandle} (h : s.Stacked order)
    {o : LoaderHandle} (ho : o ∈ order) :
  ∃ l, s.loader? o = some l
  := by
  induction h with
  | nil => cases ho
  | cons hdeclared hnew hbase hbelow ih =>
      rcases List.mem_cons.mp ho with rfl | hrest
      · obtain ⟨l, hl, -⟩ := declared?_eq_some.mp hdeclared
        use l
      · apply ih hrest

/-- A stack has at most as many loaders as the scope. -/
theorem Stacked.length_le {s : Scope} {order : List LoaderHandle} (h : s.Stacked order) :
  order.length ≤ s.size
  := by
  apply length_le_size h.nodup
  intro o ho
  apply h.loader ho

/-- The chains of bases of a stack are made of loaders of the stack, in its order. -/
theorem Stacked.exists_baseChain {s : Scope} {order : List LoaderHandle}
    (h : s.Stacked order) {o : LoaderHandle} (ho : o ∈ order) :
  ∃ bases, s.BaseChain (o :: bases) ∧ (o :: bases).Sublist order
  := by
  induction h generalizing o with
  | nil => cases ho
  | @cons h base below hdeclared hnew hbase hbelow ih =>
      rcases List.mem_cons.mp ho with rfl | hrest
      · cases base with
        | none =>
            use [], BaseChain.last hdeclared
            apply (List.nil_sublist below).cons_cons
        | some b =>
            obtain ⟨x, hx, hhandle⟩ := hbase b rfl
            obtain ⟨bases, hchain, hsublist⟩ := ih hx
            use x :: bases, BaseChain.cons hdeclared hhandle hchain
            apply hsublist.cons_cons
      · obtain ⟨bases, hchain, hsublist⟩ := ih hrest
        use bases, hchain
        apply hsublist.cons

theorem BaseChain.extends {s t : Scope} {chain : List LoaderHandle} (h : s.BaseChain chain)
    (hextends : s.Extends t) :
  t.BaseChain chain
  := by
  induction h with
  | last hdeclared => apply BaseChain.last (hextends.declared hdeclared)
  | cons hdeclared hhandle hrest ih =>
      apply BaseChain.cons (hextends.declared hdeclared) (hextends.handle hhandle) ih

/-- The walk along the bases finds the whole chain, if it has the fuel for it and no
loader of the chain was met before. -/
theorem BaseChain.chainFrom_eq {s : Scope} {o : LoaderHandle} {bases : List LoaderHandle}
    (h : s.BaseChain (o :: bases)) (hnodup : (o :: bases).Nodup)
    {seen : List LoaderHandle} (hseen : ∀ x ∈ o :: bases, x ∉ seen) {fuel : Nat}
    (hfuel : (o :: bases).length ≤ fuel) :
  s.chainFrom fuel seen o = o :: bases
  := by
  induction fuel generalizing o bases seen with
  | zero => cases hfuel
  | succ fuel ih =>
      rw [chainFrom, if_neg (hseen o List.mem_cons_self)]
      cases h with
      | last hdeclared => rw [base?_of_declared_none hdeclared]
      | @cons _ b x rest hdeclared hhandle hrest =>
          obtain ⟨hnew, hnodup⟩ := List.nodup_cons.mp hnodup
          rw [base?_of_declared_some hdeclared, hhandle]
          apply congrArg (o :: ·) (ih hrest hnodup _ (Nat.le_of_succ_le_succ hfuel))
          intro y hy hyseen
          rcases List.mem_cons.mp hyseen with rfl | hyseen
          · apply hnew hy
          · apply hseen y (List.mem_cons_of_mem o hy) hyseen

/-- A chain of bases that is part of a stack is the whole walk from its first loader. -/
theorem Stacked.delegationChain_eq {s : Scope} {order : List LoaderHandle}
    (h : s.Stacked order) {o : LoaderHandle} {bases : List LoaderHandle}
    (hchain : s.BaseChain (o :: bases)) (hsublist : (o :: bases).Sublist order) :
  s.delegationChain o = o :: bases
  := by
  apply hchain.chainFrom_eq (h.nodup.sublist hsublist)
  · intro x hx hseen
    cases hseen
  · apply Nat.le_trans hsublist.length_le h.length_le

/-- The chain of a loader of a stack is made of loaders of the stack, and is the same in
every scope that extends this one. -/
theorem Stacked.delegationChain {s : Scope} {order : List LoaderHandle}
    (h : s.Stacked order) {o : LoaderHandle} (ho : o ∈ order) :
  ∃ chain, chain ⊆ order ∧ ∀ t, s.Extends t → t.delegationChain o = chain
  := by
  obtain ⟨bases, hchain, hsublist⟩ := h.exists_baseChain ho
  use o :: bases, hsublist.subset
  intro t hextends
  apply (h.extends hextends).delegationChain_eq (hchain.extends hextends) hsublist

/-! ### The order along a run -/

theorem ordered_nil (past : List Scope) :
  Ordered past {} []
  := by
  constructor
  · intro h
    simp [isInitialized, loader?]
  · apply Stacked.nil
  · apply List.Pairwise.nil

theorem Ordered.not_mem {past : List Scope} {s : Scope} {order : List LoaderHandle}
    (h : Ordered past s order) {o : LoaderHandle} {l : Loader} (hl : s.loader? o = some l)
    (hnew : l.initialized = false) :
  o ∉ order
  := by
  intro ho
  have hinitialized := (h.initialized o).mpr ho
  rw [isInitialized_eq hl, hnew] at hinitialized
  cases hinitialized

/-- A step in which no loader becomes initialized keeps the order. -/
theorem Ordered.quiet {past : List Scope} {s t : Scope} {order : List LoaderHandle}
    (h : Ordered past s order) (hextends : s.Extends t)
    (hinitialized : ∀ h, t.isInitialized h = s.isInitialized h) :
  Ordered (past ++ [s]) t order
  := by
  constructor
  · intro o
    rw [hinitialized]
    apply h.initialized
  · apply h.stacked.extends hextends
  · apply h.before.imp
    intro x y hxy
    apply hxy.append

/-- The base of a loader that it does not keep from being initialized is initialized. -/
theorem exists_handle_of_baseError? {s : Scope} {l : Loader} (h : s.baseError? l = none)
    {b : Name} (hb : l.base = some b) :
  ∃ o, s.handle? b = some o ∧ s.isInitialized o
  := by
  rw [baseError?, hb] at h
  cases hhandle : s.handle? b with
  | none =>
      simp only [hhandle] at h
      cases h
  | some o =>
      simp only [hhandle] at h
      split at h
      · rename_i hinitialized
        use o
      · cases h

/-- A loader that becomes initialized comes on top of the stack. -/
theorem Ordered.done {past : List Scope} {s : Scope} {order : List LoaderHandle}
    (h : Ordered past s order) {o : LoaderHandle} {l : Loader} (hl : s.loader? o = some l)
    (hnew : l.initialized = false) (hbase : s.baseError? l = none) (r : Registry) :
  Ordered (past ++ [s]) (s.replace o { l with registry := r, initialized := true })
    (o :: order)
  := by
  have hextends : s.Extends (s.replace o { l with registry := r, initialized := true }) :=
    extends_replace hl rfl
  constructor
  · intro x
    rw [isInitialized_replace hl, List.mem_cons]
    split
    · rename_i hsame
      simp [hsame]
    · rename_i hother
      rw [h.initialized]
      simp [hother]
  · apply Stacked.cons
    · apply hextends.declared (declared?_eq_some.mpr ⟨l, hl, rfl⟩)
    · apply h.not_mem hl hnew
    · intro b hb
      obtain ⟨x, hhandle, hx⟩ := exists_handle_of_baseError? hbase hb
      use x, (h.initialized x).mp hx
      apply hhandle
    · apply h.stacked.extends hextends
  · apply List.Pairwise.cons
    · intro x hx
      use s, List.mem_append_right past List.mem_cons_self, (h.initialized x).mpr hx
      rw [isInitialized_eq hl, hnew]
      exact Bool.false_ne_true
    · apply h.before.imp
      intro x y hxy
      apply hxy.append

end DialectIR.Scope
