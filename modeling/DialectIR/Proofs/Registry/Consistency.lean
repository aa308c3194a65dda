import DialectIR.Proofs.Registry.Request

/-!
# Consistent registries

The tables of a registry describe one another.  The index leads from each name to the
class of that name and to no other place; every class belongs to the loader of the
registry; and the methods are those of the bound code bodies, one for each.

Every registry that comes about by requests is consistent, whether they are met or
refused, and also after a bootstrap was taken back.
-/

namespace DialectIR.Registry

/-- The index of a registry leads to its classes, which belong to its loader. -/
structure Indexed (r : Registry) : Prop where
  found {id : ClassId} {c : Class} (hc : r.class? id = some c) : r.classId? c.name = some id
  entry {n : Name} {id : ClassId} (h : (n, id) ∈ r.index) :
    ∃ c, r.class? id = some c ∧ c.name = n
  loader {id : ClassId} {c : Class} (hc : r.class? id = some c) : c.loader = r.loader

/-- The methods of a registry are those of its bound code bodies; `selector` is the name
of their selector. -/
structure Bound (selector : Name) (r : Registry) : Prop where
  method {id : ClassId} {c : Class} {m : MethodId} (hc : r.class? id = some c)
    (hm : c.body? = some m) : ∃ method, r.method? m = some method ∧ method.owner = id
  owner {m : MethodId} {method : Method} (hm : r.method? m = some method) :
    ∃ c, r.class? method.owner = some c ∧ c.body? = some m ∧
      method.reference = ⟨c.ty, selector⟩
  state {id : ClassId} {c : Class} (hc : r.class? id = some c) :
    c.state = .bodyBound ↔ c.body?.isSome

/-! ### Looking up -/

theorem mem_index_of_classId? {r : Registry} {n : Name} {id : ClassId}
    (h : r.classId? n = some id) :
  (n, id) ∈ r.index
  := by
  obtain ⟨before, after, hsplit, -⟩ := List.lookup_eq_some_iff.mp h
  rw [hsplit]
  simp

/-- A name leads to a position exactly when the class there has that name. -/
theorem Indexed.classId?_eq_some_iff {r : Registry} (h : r.Indexed) {n : Name}
    {id : ClassId} :
  r.classId? n = some id ↔ ∃ c, r.class? id = some c ∧ c.name = n
  := by
  constructor
  · intro hid
    apply h.entry (mem_index_of_classId? hid)
  · rintro ⟨c, hc, rfl⟩
    apply h.found hc

theorem lt_size_of_class? {r : Registry} {id : ClassId} {c : Class}
    (h : r.class? id = some c) :
  id.index < r.size
  := by
  obtain ⟨hlt, -⟩ := Array.getElem?_eq_some_iff.mp h
  apply hlt

/-! ### Changes of single classes -/

theorem class?_modifyClass (r : Registry) (id : ClassId) (f : Class → Class)
    (other : ClassId) :
  (r.modifyClass id f).class? other
    = if other = id then (r.class? other).map f else r.class? other
  := by
  obtain ⟨i⟩ := id
  obtain ⟨j⟩ := other
  simp only [class?, modifyClass, Array.getElem?_modify, ClassId.mk.injEq, eq_comm]

/-- The classes of a registry with one class changed come from those before. -/
theorem class?_of_modifyClass {r : Registry} {id : ClassId} {f : Class → Class}
    {other : ClassId} {c : Class} (hc : (r.modifyClass id f).class? other = some c) :
  ∃ c', r.class? other = some c' ∧ (c = c' ∨ c = f c')
  := by
  rw [class?_modifyClass] at hc
  split at hc
  · obtain ⟨c', hc', rfl⟩ := Option.map_eq_some_iff.mp hc
    use c', hc'
    right
    rfl
  · use c, hc
    left
    rfl

theorem class?_modifyClass_of_class? {r : Registry} {other : ClassId} {c : Class}
    (hc : r.class? other = some c) (id : ClassId) (f : Class → Class) :
  ∃ c', (r.modifyClass id f).class? other = some c' ∧ (c' = c ∨ c' = f c)
  := by
  rw [class?_modifyClass, hc]
  split
  · use f c, rfl
    right
    rfl
  · use c, rfl
    left
    rfl

theorem Indexed.modifyClass {r : Registry} (h : r.Indexed) (id : ClassId)
    {f : Class → Class} (hf : ∀ c, (f c).ty = c.ty) :
  (r.modifyClass id f).Indexed
  := by
  have hty : ∀ {c c'}, c = c' ∨ c = f c' → c.ty = c'.ty := by
    rintro c c' (rfl | rfl)
    · rfl
    · apply hf
  constructor
  · intro other c hc
    obtain ⟨c', hc', hcc'⟩ := class?_of_modifyClass hc
    rw [Class.name, hty hcc']
    apply h.found hc'
  · intro n other hentry
    obtain ⟨c, hc, hname⟩ := h.entry hentry
    obtain ⟨c', hc', hcc'⟩ := class?_modifyClass_of_class? hc id f
    use c', hc'
    rw [Class.name, hty hcc']
    apply hname
  · intro other c hc
    obtain ⟨c', hc', hcc'⟩ := class?_of_modifyClass hc
    rw [Class.loader, hty hcc']
    apply h.loader hc'

theorem Indexed.resolved {r : Registry} (h : r.Indexed) (id : ClassId) :
  (r.modifyClass id Class.resolved).Indexed
  := h.modifyClass id (fun _ => rfl)

theorem state_resolved (c : Class) :
  c.resolved.state = .bodyBound ↔ c.state = .bodyBound
  := by
  unfold Class.resolved ClassState.resolve
  cases c.state with
  | declared => simp
  | hierarchyResolved => simp
  | bodyBound => simp

theorem Bound.resolved {selector : Name} {r : Registry} (h : r.Bound selector)
    (id : ClassId) :
  (r.modifyClass id Class.resolved).Bound selector
  := by
  constructor
  · intro other c m hc hm
    obtain ⟨c', hc', rfl | rfl⟩ := class?_of_modifyClass hc
    · apply h.method hc' hm
    · apply h.method hc' hm
  · intro m method hm
    obtain ⟨c, hc, hbody, hreference⟩ := h.owner hm
    obtain ⟨c', hc', rfl | rfl⟩ := class?_modifyClass_of_class? hc id Class.resolved
    · use c', hc', hbody, hreference
    · use c.resolved, hc', hbody, hreference
  · intro other c hc
    obtain ⟨c', hc', rfl | rfl⟩ := class?_of_modifyClass hc
    · apply h.state hc'
    · rw [state_resolved]
      apply h.state hc'

/-! ### New registries and definitions -/

theorem indexed_empty (loader : Name) (synthetic : Bool) :
  (empty loader synthetic).Indexed
  := by
  constructor
  · intro id c hc
    simp [empty, class?] at hc
  · intro n id h
    simp [empty] at h
  · intro id c hc
    simp [empty, class?] at hc

theorem bound_empty (selector loader : Name) (synthetic : Bool) :
  (empty loader synthetic).Bound selector
  := by
  constructor
  · intro id c m hc
    simp [empty, class?] at hc
  · intro m method hm
    simp [empty, method?] at hm
  · intro id c hc
    simp [empty, class?] at hc

/-- The classes after a definition are those before it and the defined one. -/
theorem class?_define {r s : Registry} {d : ClassDef} {new : ClassId}
    (h : r.define d = (s, .ok new)) {id : ClassId} {c : Class} :
  s.class? id = some c ↔ r.class? id = some c ∨ id = new ∧ c = r.classOf d
  := by
  obtain ⟨-, rfl, rfl⟩ := define_eq_ok.mp h
  obtain ⟨i⟩ := id
  simp only [class?, size, Array.getElem?_push, ClassId.mk.injEq]
  split
  · rename_i hi
    subst hi
    simp [eq_comm]
  · rename_i hi
    simp [hi]

theorem Indexed.define {r s : Registry} (h : r.Indexed) {d : ClassDef} {new : ClassId}
    (hdefine : r.define d = (s, .ok new)) :
  s.Indexed
  := by
  have hclass := @class?_define _ _ _ _ hdefine
  obtain ⟨hfresh, rfl, rfl⟩ := define_eq_ok.mp hdefine
  constructor
  · intro id c hc
    rcases hclass.mp hc with hold | ⟨rfl, rfl⟩
    · have hne : c.name ≠ d.name := by
        intro hname
        rw [← hname, h.found hold] at hfresh
        cases hfresh
      simp only [classId?, List.lookup_cons, beq_false_of_ne hne]
      apply h.found hold
    · simp [classId?, classOf, Class.name]
  · intro n id hentry
    rcases List.mem_cons.mp hentry with hnew | hold
    · obtain ⟨rfl, rfl⟩ := Prod.mk.inj hnew
      use r.classOf d, hclass.mpr (.inr ⟨rfl, rfl⟩)
      rfl
    · obtain ⟨c, hc, hname⟩ := h.entry hold
      use c, hclass.mpr (.inl hc), hname
  · intro id c hc
    rcases hclass.mp hc with hold | ⟨-, rfl⟩
    · apply h.loader hold
    · rfl

/-- A class starts unbound, whatever its definition claims. -/
theorem body?_classOf (r : Registry) (d : ClassDef) :
  (r.classOf d).body? = none
  := by
  unfold classOf Class.body? ClassKind.unbound
  cases d.kind with
  | plain => rfl
  | dynamicProperty => rfl
  | codeBody body => rfl

theorem Bound.define {selector : Name} {r s : Registry} (h : r.Bound selector)
    {d : ClassDef} {new : ClassId} (hdefine : r.define d = (s, .ok new)) :
  s.Bound selector
  := by
  have hclass := @class?_define _ _ _ _ hdefine
  obtain ⟨-, rfl, rfl⟩ := define_eq_ok.mp hdefine
  constructor
  · intro id c m hc hm
    rcases hclass.mp hc with hold | ⟨-, rfl⟩
    · apply h.method hold hm
    · rw [body?_classOf] at hm
      cases hm
  · intro m method hm
    obtain ⟨c, hc, hbody, hreference⟩ := h.owner hm
    use c, hclass.mpr (.inl hc), hbody, hreference
  · intro id c hc
    rcases hclass.mp hc with hold | ⟨-, rfl⟩
    · apply h.state hold
    · rw [body?_classOf]
      simp [classOf]

/-! ### Binding -/

theorem Indexed.bound {r : Registry} (h : r.Indexed) (id : ClassId) (c : Class)
    (selector : Name) (body : CodeBody) :
  (r.bound id c selector body).Indexed
  := by
  have hbound := (h.resolved id).modifyClass id (f := (·.bind ⟨r.methods.size⟩)) (fun _ => rfl)
  constructor
  · intro other c hc
    apply hbound.found hc
  · intro n other hentry
    apply hbound.entry hentry
  · intro other c hc
    apply hbound.loader hc

/-- The class at a position after a method was bound. -/
theorem class?_bound (r : Registry) {id : ClassId} {c : Class} (hc : r.class? id = some c)
    (selector : Name) (body : CodeBody) (other : ClassId) :
  (r.bound id c selector body).class? other
    = if other = id then some (c.resolved.bind ⟨r.methods.size⟩) else r.class? other
  := by
  have hclass : (r.bound id c selector body).class? other
      = ((r.modifyClass id Class.resolved).modifyClass id
          (·.bind ⟨r.methods.size⟩)).class? other
    := rfl
  rw [hclass, class?_modifyClass, class?_modifyClass]
  split
  · rename_i hsame
    rw [hsame, hc]
    rfl
  · rfl

theorem method?_bound (r : Registry) (id : ClassId) (c : Class) (selector : Name)
    (body : CodeBody) (m : MethodId) :
  (r.bound id c selector body).method? m
    = if m = ⟨r.methods.size⟩ then some ⟨id, ⟨c.ty, selector⟩, body⟩ else r.method? m
  := by
  obtain ⟨i⟩ := m
  simp only [bound, method?, Array.getElem?_push, MethodId.mk.injEq]

/-- The new method belongs to the class that was unbound, and no other method does. -/
theorem Bound.bound {selector : Name} {r : Registry} (h : r.Bound selector) {id : ClassId}
    {c : Class} (hc : r.class? id = some c) (hkind : c.kind = .codeBody none)
    (body : CodeBody) :
  (r.bound id c selector body).Bound selector
  := by
  have hunbound : c.body? = none := by simp [Class.body?, hkind]
  have hnew : r.method? ⟨r.methods.size⟩ = none := by simp [method?]
  constructor
  · intro other c' m hc' hm
    rw [class?_bound r hc] at hc'
    rw [method?_bound]
    split at hc'
    · rename_i hsame
      subst hsame
      cases hc'
      cases hm
      simp
    · obtain ⟨method, hmethod, howner⟩ := h.method hc' hm
      have hne : m ≠ ⟨r.methods.size⟩ := by
        rintro rfl
        rw [hnew] at hmethod
        cases hmethod
      use method
      rw [if_neg hne]
      use hmethod, howner
  · intro m method hm
    rw [method?_bound] at hm
    split at hm
    · rename_i hm'
      subst hm'
      cases hm
      use c.resolved.bind ⟨r.methods.size⟩
      rw [class?_bound r hc, if_pos rfl]
      use rfl, rfl
      rfl
    · obtain ⟨c', hc', hbody, hreference⟩ := h.owner hm
      have hne : method.owner ≠ id := by
        intro howner
        rw [howner, hc] at hc'
        cases hc'
        rw [hunbound] at hbody
        cases hbody
      use c'
      rw [class?_bound r hc, if_neg hne]
      use hc', hbody, hreference
  · intro other c' hc'
    rw [class?_bound r hc] at hc'
    split at hc'
    · cases hc'
      simp [Class.bind, Class.body?]
    · apply h.state hc'

/-! ### Rollback -/

theorem class?_rollback (r : Registry) (point : Checkpoint) (id : ClassId) :
  (r.rollback point).class? id = if id.index < point.classes then r.class? id else none
  := by
  simp only [rollback, class?, Array.take_eq_extract, Array.getElem?_extract, Nat.sub_zero,
    Nat.zero_add, Nat.lt_min]
  by_cases hsize : id.index < r.classes.size
  · simp [hsize]
  · simp [hsize]

/-- The classes that are left after a rollback were there before it. -/
theorem class?_of_rollback {r : Registry} {point : Checkpoint} {id : ClassId} {c : Class}
    (hc : (r.rollback point).class? id = some c) :
  id.index < point.classes ∧ r.class? id = some c
  := by
  rw [class?_rollback] at hc
  split at hc
  · rename_i hlt
    use hlt
  · cases hc

theorem mem_index_rollback {r : Registry} {point : Checkpoint} {n : Name} {id : ClassId} :
  (n, id) ∈ (r.rollback point).index ↔ (n, id) ∈ r.index ∧ id.index < point.classes
  := by
  simp [rollback]

theorem Indexed.rollback {r : Registry} (h : r.Indexed) (point : Checkpoint) :
  (r.rollback point).Indexed
  := by
  have hentry : ∀ {n id}, (n, id) ∈ (r.rollback point).index →
      ∃ c, (r.rollback point).class? id = some c ∧ r.class? id = some c ∧ c.name = n := by
    intro n id hmem
    obtain ⟨hold, hlt⟩ := mem_index_rollback.mp hmem
    obtain ⟨c, hc, hname⟩ := h.entry hold
    use c
    rw [class?_rollback, if_pos hlt]
    use hc, hc
  constructor
  · intro id c hc
    obtain ⟨hlt, hold⟩ := class?_of_rollback hc
    have hkept := mem_index_rollback.mpr ⟨mem_index_of_classId? (h.found hold), hlt⟩
    cases hfound : (r.rollback point).classId? c.name with
    | none =>
        have hmissing := List.lookup_eq_none_iff.mp hfound _ hkept
        simp at hmissing
    | some other =>
        -- The entry found may be another one than that of the class, but both lead to
        -- classes of one name, which lie at one position.
        obtain ⟨c', -, hc', hname⟩ := hentry (mem_index_of_classId? hfound)
        have hother := h.found hc'
        rw [hname, h.found hold] at hother
        rw [Option.some.inj hother]
  · intro n id hmem
    obtain ⟨c, hc, -, hname⟩ := hentry hmem
    use c, hc, hname
  · intro id c hc
    apply h.loader (class?_of_rollback hc).2

/-- Taking back classes that own no method keeps the methods with their classes. -/
theorem Bound.rollback {selector : Name} {r : Registry} (h : r.Bound selector)
    {point : Checkpoint} (hmethods : point.methods = r.methods.size)
    (howners : ∀ m method, r.method? m = some method → method.owner.index < point.classes) :
  (r.rollback point).Bound selector
  := by
  have hmethod : ∀ m, (r.rollback point).method? m = r.method? m := by
    intro m
    simp [method?, Registry.rollback, hmethods]
  constructor
  · intro id c m hc hm
    rw [hmethod]
    apply h.method (class?_of_rollback hc).2 hm
  · intro m method hm
    rw [hmethod] at hm
    rw [class?_rollback, if_pos (howners m method hm)]
    apply h.owner hm
  · intro id c hc
    apply h.state (class?_of_rollback hc).2

/-! ### Requests -/

theorem Indexed.resolveSuperclass {r s : Registry} (h : r.Indexed) {id : ClassId}
    {superclass : Option ClassId} (hresolve : r.resolveSuperclass id = (s, .ok superclass)) :
  s.Indexed
  := by
  obtain ⟨-, rfl⟩ := resolveSuperclass_eq_ok.mp hresolve
  apply h.resolved

theorem Bound.resolveSuperclass {selector : Name} {r s : Registry} (h : r.Bound selector)
    {id : ClassId} {superclass : Option ClassId}
    (hresolve : r.resolveSuperclass id = (s, .ok superclass)) :
  s.Bound selector
  := by
  obtain ⟨-, rfl⟩ := resolveSuperclass_eq_ok.mp hresolve
  apply h.resolved

theorem Indexed.resolveEach {r : Registry} (h : r.Indexed) (ids : List ClassId) :
  (r.resolveEach ids).1.Indexed
  := by
  apply resolveEach_induct (P := Indexed) _ h
  intro r id superclass s hr hresolve
  apply hr.resolveSuperclass hresolve

theorem Bound.resolveEach {selector : Name} {r : Registry} (h : r.Bound selector)
    (ids : List ClassId) :
  (r.resolveEach ids).1.Bound selector
  := by
  apply resolveEach_induct (P := Bound selector) _ h
  intro r id superclass s hr hresolve
  apply hr.resolveSuperclass hresolve

theorem Indexed.defineTemplate {r : Registry} (h : r.Indexed) (l : Language) :
  (r.defineTemplate l).1.Indexed
  := by
  apply defineTemplate_induct (P := Indexed) _ _ _ h
  · intro r d id s hr hdefine
    apply hr.define hdefine
  · intro r id superclass s hr hresolve
    apply hr.resolveSuperclass hresolve
  · intro r types hr
    exact ⟨hr.found, hr.entry, hr.loader⟩

theorem Bound.defineTemplate {selector : Name} {r : Registry} (h : r.Bound selector)
    (l : Language) :
  (r.defineTemplate l).1.Bound selector
  := by
  apply defineTemplate_induct (P := Bound selector) _ _ _ h
  · intro r d id s hr hdefine
    apply hr.define hdefine
  · intro r id superclass s hr hresolve
    apply hr.resolveSuperclass hresolve
  · intro r types hr
    exact ⟨hr.method, hr.owner, hr.state⟩

/-- Defining a template adds no methods. -/
theorem methods_defineTemplate (r : Registry) (l : Language) :
  (r.defineTemplate l).1.methods = r.methods
  := by
  apply defineTemplate_induct (P := fun s => s.methods = r.methods) _ _ _ rfl
  · intro s d id t hs hdefine
    obtain ⟨-, -, rfl⟩ := define_eq_ok.mp hdefine
    apply hs
  · intro s id superclass t hs hresolve
    obtain ⟨-, rfl⟩ := resolveSuperclass_eq_ok.mp hresolve
    apply hs
  · intro s types hs
    apply hs

theorem Indexed.bootstrap {r : Registry} (h : r.Indexed) (names : Interner)
    (l : Language) :
  (r.bootstrap names l).1.Indexed
  := by
  rcases r.bootstrap_cases names l with hdone | ⟨e, -, htaken⟩
  · rw [hdone]
    apply h.defineTemplate
  · rw [htaken]
    apply (h.defineTemplate l).rollback

theorem Bound.bootstrap {selector : Name} {r : Registry} (h : r.Bound selector)
    (names : Interner) (l : Language) :
  (r.bootstrap names l).1.Bound selector
  := by
  rcases r.bootstrap_cases names l with hdone | ⟨e, -, htaken⟩
  · rw [hdone]
    apply h.defineTemplate
  · rw [htaken]
    apply (h.defineTemplate l).rollback
    · rw [methods_defineTemplate]
      rfl
    · intro m method hm
      rw [method?, methods_defineTemplate] at hm
      obtain ⟨c, hc, -⟩ := h.owner hm
      apply lt_size_of_class? hc

theorem Indexed.change {names : Interner} {r s : Registry} (h : r.Indexed)
    (hchange : Change names r s) :
  s.Indexed
  := by
  cases hchange with
  | bootstrap l => apply h.bootstrap
  | advance hadvance =>
      cases hadvance with
      | keep => apply h
      | define hdefine => apply h.define hdefine
      | bind hc hkind hup hname body => apply h.bound
      | resolve hresolve => apply h.resolveSuperclass hresolve
      | resolveAll => apply h.resolveEach

theorem Bound.change {selector : Name} {names : Interner} {r s : Registry}
    (h : r.Bound selector) (hselector : names.get? codeBodySelector = some selector)
    (hchange : Change names r s) :
  s.Bound selector
  := by
  cases hchange with
  | bootstrap l => apply h.bootstrap
  | advance hadvance =>
      cases hadvance with
      | keep => apply h
      | define hdefine => apply h.define hdefine
      | bind hc hkind hup hname body =>
          rw [Interner.tryIntern_of_get? hselector] at hname
          cases hname
          apply h.bound hc hkind
      | resolve hresolve => apply h.resolveSuperclass hresolve
      | resolveAll => apply h.resolveEach

theorem Indexed.perform {r : Registry} (h : r.Indexed) (names : Interner)
    (request : Request) :
  (r.perform request names).1.Indexed
  := h.change (change_perform r names request)

/-- What every change of a consistent registry keeps holds of it after all requests, and it
is consistent then. -/
theorem Indexed.performAll_induct {r : Registry} (h : r.Indexed) {P : Registry → Prop}
    (hstep : ∀ names s t, s.Indexed → P s → Change names s t → P t) (hfirst : P r)
    (names : Interner) (requests : List Request) :
  (r.performAll requests names).1.Indexed ∧ P (r.performAll requests names).1
  := by
  apply Registry.performAll_induct (P := fun s _ => s.Indexed ∧ P s) _ ⟨h, hfirst⟩
  rintro s names request ⟨hs, hP⟩
  use hs.perform names request
  apply hstep names s _ hs hP (s.change_perform names request)

/-- Every registry that comes about is consistent. -/
theorem Reachable.indexed {r : Registry} {names : Interner} (h : r.Reachable names) :
  r.Indexed
  := by
  obtain ⟨placement, loader, synthetic, requests, hrun⟩ := h
  have hall := (indexed_empty loader synthetic).performAll_induct (P := fun _ => True)
    (fun _ _ _ _ _ _ => trivial) trivial (Interner.initial placement) requests
  rw [hrun] at hall
  apply hall.1

/-- The selector of the methods of a registry that comes about is that of code bodies. -/
theorem Reachable.bound {r : Registry} {names : Interner} (h : r.Reachable names) :
  ∃ selector, names.get? codeBodySelector = some selector ∧ r.Bound selector
  := by
  obtain ⟨placement, loader, synthetic, requests, hrun⟩ := h
  obtain ⟨selector, hselector⟩ := (Interner.reached_initial placement).selector
  have hall := performAll_induct
    (P := fun r names => names.get? codeBodySelector = some selector ∧ r.Bound selector)
    (fun r names request ⟨hnames, hr⟩ => by
      obtain ⟨texts, htexts⟩ := r.interned_perform names request
      constructor
      · rw [htexts]
        apply Interner.get?_internAll hnames
      · apply hr.change hnames (change_perform r names request))
    ⟨hselector, bound_empty selector loader synthetic⟩ requests
  rw [hrun] at hall
  use selector

/-- In every registry that comes about, a name leads to a position exactly when the class
there has that name, names are distinct, and every class belongs to the loader of the
registry.  A class has a method exactly when that method exists and belongs to the class,
which is the case exactly in the last state.  Methods refer to the type of their class
with the selector of code bodies. -/
theorem tables_agree {r : Registry} {names : Interner} (h : r.Reachable names) :
  (∀ n id, r.classId? n = some id ↔ ∃ c, r.class? id = some c ∧ c.name = n) ∧
  (∀ id other c d, r.class? id = some c → r.class? other = some d → c.name = d.name →
    id = other) ∧
  (∀ id c, r.class? id = some c →
    c.loader = r.loader ∧
    (∀ m, c.body? = some m ↔ ∃ method, r.method? m = some method ∧ method.owner = id) ∧
    (c.state = .bodyBound ↔ c.body?.isSome)) ∧
  (∀ m method, r.method? m = some method →
    ∃ c, r.class? method.owner = some c ∧ method.reference.declaring = c.ty ∧
      names.lookup? method.reference.selector = some "do")
  := by
  have hindexed := h.indexed
  obtain ⟨selector, hselector, hbound⟩ := h.bound
  refine ⟨fun n id => hindexed.classId?_eq_some_iff, ?_, ?_, ?_⟩
  · intro id other c d hc hd hname
    have hid := hindexed.found hc
    rw [hname, hindexed.found hd] at hid
    cases hid
    rfl
  · intro id c hc
    refine ⟨hindexed.loader hc, ?_, hbound.state hc⟩
    intro m
    constructor
    · intro hm
      apply hbound.method hc hm
    · rintro ⟨method, hm, rfl⟩
      obtain ⟨c', hc', hbody, -⟩ := hbound.owner hm
      rw [hc] at hc'
      cases hc'
      apply hbody
  · intro m method hm
    obtain ⟨c, hc, -, hreference⟩ := hbound.owner hm
    use c, hc
    rw [hreference]
    use rfl
    apply h.reached.sound.lookup?_of_get? hselector

/-- A registry in which a code body was defined that claims a method, a bootstrap failed
after its first class, and a method was bound to the code body. -/
def boundAfterFailure : Registry × Interner :=
  (Registry.empty ⟨0⟩ false).performAll
    [.defineClass "f" none (.codeBody (some ⟨7⟩)) .dummy,
      .intern "g",
      .bootstrap { (default : Language) with
        template := [{ ty := ⟨⟨0⟩, ⟨7⟩⟩ }, { ty := ⟨⟨0⟩, ⟨6⟩⟩ }] },
      .bindCodeBody "f" { cfg := {} }]
    (Interner.initial .bySum)

theorem tables_agree_boundAfterFailure :
  boundAfterFailure.1.Reachable boundAfterFailure.2 ∧ boundAfterFailure.1.size = 1 ∧
    boundAfterFailure.1.classId? ⟨7⟩ = none ∧
    ∃ c, boundAfterFailure.1.class? ⟨0⟩ = some c ∧ c.body? = some ⟨0⟩ ∧
      c.state = .bodyBound
  := by
  have h : boundAfterFailure.1.Reachable boundAfterFailure.2 := ⟨_, _, _, _, rfl⟩
  obtain ⟨-, -, hclasses, -⟩ := tables_agree h
  obtain ⟨-, hbody, hstate⟩ := hclasses ⟨0⟩ _ rfl
  refine ⟨h, by decide, by decide, _, rfl, ?_, ?_⟩
  · apply (hbody ⟨0⟩).mpr
    exact ⟨_, rfl, rfl⟩
  · apply hstate.mpr
    decide

end DialectIR.Registry
