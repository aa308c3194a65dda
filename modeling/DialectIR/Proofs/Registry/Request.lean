import DialectIR.Proofs.Interner.Growth
import DialectIR.Registry.Binding
import DialectIR.Registry.Bootstrap

/-!
# Requests to a registry

The requests that may change a registry, and the registries that come about when a new
registry is given one request after the other.  A request that is refused counts as well;
it leaves the registry as the operation behind it does.  Between the requests other users
of the interner may add texts.

What a request makes of a registry is one of a few changes, whichever request it is; so
what each of these changes preserves holds of every registry that comes about.
-/

namespace DialectIR.Registry

/-- A request that may change a registry or its interner. -/
inductive Request where
  | defineClass (name : String) (superName : Option String) (kind : ClassKind) (span : Span)
  | define (d : ClassDef)
  | defineCodeBody (name parent : String) (span : Span)
  | defineFunctionType (name : String) (span : Span)
  | defineScriptType (name : String) (span : Span)
  | bindCodeBody (className : String) (body : CodeBody)
  | resolveSuperclass (id : ClassId)
  | resolveHierarchy
  | bootstrap (l : Language)
  /-- Another user of the interner adds a text. -/
  | intern (text : String)
  deriving DecidableEq, Repr

/-- The registry after a request. -/
def perform (r : Registry) : Request → InternM Registry
  | .defineClass name superName kind span =>
    return (← r.defineClass name superName kind span).1
  | .define d => return (r.define d).1
  | .defineCodeBody name parent span => return (← r.defineCodeBody name parent span).1
  | .defineFunctionType name span => return (← r.defineFunctionType name span).1
  | .defineScriptType name span => return (← r.defineScriptType name span).1
  | .bindCodeBody className body => return (← r.bindCodeBody className body).1
  | .resolveSuperclass id => return (r.resolveSuperclass id).1
  | .resolveHierarchy => return r.resolveHierarchy.1
  | .bootstrap l => return (r.bootstrap (← get) l).1
  | .intern text => do
    let _ ← InternM.intern text
    return r

/-- The registry after requests, in order. -/
def performAll (r : Registry) (requests : List Request) : InternM Registry :=
  requests.foldlM perform r

/-- The registries that requests make of a new one, with the interner at hand. -/
def Reachable (r : Registry) (names : Interner) : Prop :=
  ∃ placement loader synthetic requests,
    (Registry.empty loader synthetic).performAll requests (Interner.initial placement)
      = (r, names)

/-! ### Single operations -/

/-- The registry with one class changed. -/
def modifyClass (r : Registry) (id : ClassId) (f : Class → Class) : Registry :=
  { r with classes := r.classes.modify id.index f }

theorem define_eq_ok {r s : Registry} {d : ClassDef} {id : ClassId} :
  r.define d = (s, .ok id) ↔
    r.classId? d.name = none ∧ id = ⟨r.size⟩ ∧
      s = { r with
        classes := r.classes.push (r.classOf d)
        index := (d.name, ⟨r.size⟩) :: r.index }
  := by
  rw [define]
  cases r.classId? d.name with
  | some taken => simp
  | none =>
      simp only [Prod.mk.injEq, Except.ok.injEq, true_and]
      constructor
      · rintro ⟨hs, hid⟩
        use hid.symm, hs.symm
      · rintro ⟨hid, hs⟩
        use hs.symm, hid.symm

/-- A definition that is refused changes nothing: whether the name is taken is known before
anything is written. -/
theorem define_eq_error {r s : Registry} {d : ClassDef} {e : RegistryError} :
  r.define d = (s, .error e) ↔
    (r.classId? d.name).isSome ∧ s = r ∧ e = .duplicateType r.loader d.name
  := by
  rw [define]
  cases r.classId? d.name with
  | none => simp
  | some taken =>
      simp only [Prod.mk.injEq, Except.error.injEq, Option.isSome_some, true_and]
      constructor
      · rintro ⟨hs, he⟩
        use hs.symm, he.symm
      · rintro ⟨hs, he⟩
        use hs.symm, he.symm

theorem resolveSuperclass_eq_ok
    {r s : Registry} {id : ClassId} {superclass : Option ClassId} :
  r.resolveSuperclass id = (s, .ok superclass) ↔
    r.superclassOf id = .ok superclass ∧ s = r.modifyClass id Class.resolved
  := by
  rw [resolveSuperclass]
  cases r.superclassOf id with
  | error e => simp
  | ok found =>
      simp only [Except.ok.injEq, Prod.mk.injEq]
      constructor
      · rintro ⟨hs, hfound⟩
        use hfound, hs.symm
      · rintro ⟨hfound, hs⟩
        use hs.symm, hfound

/-- A class is marked once its superclass was found, so that a failure changes nothing. -/
theorem resolveSuperclass_eq_error {r s : Registry} {id : ClassId} {e : RegistryError} :
  r.resolveSuperclass id = (s, .error e) ↔ r.superclassOf id = .error e ∧ s = r
  := by
  rw [resolveSuperclass]
  cases r.superclassOf id with
  | ok found => simp
  | error fault =>
      simp only [Except.error.injEq, Prod.mk.injEq]
      constructor
      · rintro ⟨hs, hfault⟩
        use hfault, hs.symm
      · rintro ⟨hfault, hs⟩
        use hs.symm, hfault

/-- The registry in which a class is resolved and a method is bound to it. -/
def bound (r : Registry) (id : ClassId) (c : Class) (selector : Name) (body : CodeBody) :
    Registry :=
  { (r.modifyClass id Class.resolved).modifyClass id (·.bind ⟨r.methods.size⟩) with
    methods := r.methods.push ⟨id, ⟨c.ty, selector⟩, body⟩ }

/-- What binding a code body comes to: the registry and the answer, and the interner. -/
inductive Binding (r : Registry) (names : Interner) (className : String) (body : CodeBody) :
    (Registry × Except RegistryError MethodId) × Interner → Prop where
  | refused (e : RegistryError) : Binding r names className body ((r, .error e), names)
  /-- The class is marked as resolved when it turns out that there is no room for the selector. -/
  | noRoom {id : ClassId} {superclass : Option ClassId} (hup : r.superclassOf id = .ok superclass)
    {e : InternError} (he : (names.tryIntern codeBodySelector).1 = .error e) :
    Binding r names className body
      ((r.modifyClass id Class.resolved, .error (.noRoom e)),
        (names.tryIntern codeBodySelector).2)
  | bound {id : ClassId} {c : Class} {superclass : Option ClassId} {selector : Name}
    (hid : r.lookupClass? names className = some id) (hc : r.class? id = some c)
    (hkind : c.kind = .codeBody none) (hup : r.superclassOf id = .ok superclass)
    (hselector : (names.tryIntern codeBodySelector).1 = .ok selector) :
    Binding r names className body
      ((r.bound id c selector body, .ok ⟨r.methods.size⟩),
        (names.tryIntern codeBodySelector).2)

/-- A code body is bound to a class that is defined, unbound and has a hierarchy that can
be resolved, or the request is refused. -/
theorem binding
    (r : Registry) (names : Interner) (className : String) (body : CodeBody) :
  Binding r names className body (r.bindCodeBody className body names)
  := by
  rw [bindCodeBody, InternM.bind_apply, InternM.get_apply]
  cases hid : r.lookupClass? names className with
  | none => apply Binding.refused
  | some id =>
      cases hc : r.class? id with
      | none => simp only [hc]; apply Binding.refused
      | some c =>
          cases hkind : c.kind with
          | plain => simp only [hc, hkind]; apply Binding.refused
          | dynamicProperty => simp only [hc, hkind]; apply Binding.refused
          | codeBody body? =>
              cases body? with
              | some m => simp only [hc, hkind]; apply Binding.refused
              | none =>
                  cases hup : r.superclassOf id with
                  | error e =>
                      simp only [hc, hkind, resolveSuperclass_eq_error.mpr ⟨hup, rfl⟩]
                      apply Binding.refused
                  | ok superclass =>
                      simp only [hc, hkind, resolveSuperclass_eq_ok.mpr ⟨hup, rfl⟩,
                        InternM.bind_apply, InternM.intern_apply]
                      cases hselector : (names.tryIntern codeBodySelector).1 with
                      | error e => apply Binding.noRoom hup hselector
                      | ok selector => apply Binding.bound hid hc hkind hup hselector

/-! ### Repeated operations -/

theorem defineEach_induct
    {P : Registry → Prop} (hdefine : ∀ r d id s, P r → r.define d = (s, .ok id) → P s)
    {r : Registry} (hr : P r) (ds : List ClassDef) :
  P (r.defineEach ds).1
  := by
  induction ds generalizing r with
  | nil => apply hr
  | cons d rest ih =>
      rw [defineEach]
      rcases h : r.define d with ⟨s, answer⟩
      cases answer with
      | error e =>
          obtain ⟨-, rfl, -⟩ := define_eq_error.mp h
          apply hr
      | ok id => apply ih (hdefine _ _ _ _ hr h)

theorem resolveEach_induct
    {P : Registry → Prop}
    (hresolve : ∀ r id superclass s, P r → r.resolveSuperclass id = (s, .ok superclass) → P s)
    {r : Registry} (hr : P r) (ids : List ClassId) :
  P (r.resolveEach ids).1
  := by
  induction ids generalizing r with
  | nil => apply hr
  | cons id rest ih =>
      rw [resolveEach]
      rcases h : r.resolveSuperclass id with ⟨s, answer⟩
      cases answer with
      | error e =>
          obtain ⟨-, rfl⟩ := resolveSuperclass_eq_error.mp h
          apply hr
      | ok superclass => apply ih (hresolve _ _ _ _ hr h)

/-- What definitions, resolutions and the choice of code body types keep holds when a
template was defined, as far as that went. -/
theorem defineTemplate_induct
    {P : Registry → Prop} (hdefine : ∀ r d id s, P r → r.define d = (s, .ok id) → P s)
    (hresolve : ∀ r id superclass s, P r → r.resolveSuperclass id = (s, .ok superclass) → P s)
    (htypes : ∀ r types, P r → P { r with codeBodyTypes := types })
    {r : Registry} (hr : P r) (l : Language) :
  P (r.defineTemplate l).1
  := by
  have hdefined := defineEach_induct hdefine hr
    ((l.templateOf r.loader).map ClassTemplate.definition)
  rw [defineTemplate]
  split
  · rename_i defined e h
    rw [h] at hdefined
    apply hdefined
  · rename_i defined h
    rw [h] at hdefined
    apply resolveEach_induct hresolve (htypes _ _ hdefined)

/-- A bootstrap leaves what defining the template led to, or it fails with an error that can
be told and takes it back. -/
theorem bootstrap_cases (r : Registry) (names : Interner) (l : Language) :
  (r.bootstrap names l).1 = (r.defineTemplate l).1 ∨
    ∃ e, e.canBeTold names ∧
      r.bootstrap names l = ((r.defineTemplate l).1.rollback r.checkpoint, .error e)
  := by
  rw [bootstrap]
  rcases r.defineTemplate l with ⟨started, answer⟩
  cases answer with
  | ok done => left; rfl
  | error e =>
      by_cases htold : e.canBeTold names
      · right
        use e, htold
        simp [htold]
      · left
        simp [htold]

/-- A bootstrap that fails with an error that can be told is taken back. -/
theorem bootstrap_eq_takenBack {r s : Registry} {names : Interner} {l : Language}
    {e : RegistryError} (hfailed : r.bootstrap names l = (s, .error e))
    (htold : e.canBeTold names) :
  s = (r.defineTemplate l).1.rollback r.checkpoint
  := by
  rw [bootstrap] at hfailed
  rcases hstarted : r.defineTemplate l with ⟨started, answer⟩
  rw [hstarted] at hfailed
  cases answer with
  | ok done => cases hfailed
  | error e' =>
      simp only [Prod.mk.injEq, Except.error.injEq] at hfailed
      obtain ⟨rfl, rfl⟩ := hfailed
      rw [if_pos htold]

/-- Taking a registry back twice is taking it back once. -/
theorem rollback_rollback (r : Registry) (point : Checkpoint) :
  (r.rollback point).rollback point = r.rollback point
  := by
  simp [rollback]

/-- To take back a bootstrap that has taken itself back changes nothing. -/
theorem rollback_bootstrap {r s : Registry} {names : Interner} {l : Language}
    {e : RegistryError} (hfailed : r.bootstrap names l = (s, .error e))
    (htold : e.canBeTold names) :
  s.rollback r.checkpoint = s
  := by
  rw [bootstrap_eq_takenBack hfailed htold, rollback_rollback]

/-! ### What requests change -/

/-- `Advance names r s`: a request other than a bootstrap may make `s` of `r` when `names`
is the interner. -/
inductive Advance (names : Interner) (r : Registry) : Registry → Prop where
  | keep : Advance names r r
  | define {d : ClassDef} {id : ClassId} {s : Registry} (h : r.define d = (s, .ok id)) :
    Advance names r s
  | bind {id : ClassId} {c : Class} {superclass : Option ClassId} {selector : Name}
    (hc : r.class? id = some c) (hkind : c.kind = .codeBody none)
    (hup : r.superclassOf id = .ok superclass)
    (hselector : (names.tryIntern codeBodySelector).1 = .ok selector) (body : CodeBody) :
    Advance names r (r.bound id c selector body)
  | resolve {id : ClassId} {superclass : Option ClassId} {s : Registry}
    (h : r.resolveSuperclass id = (s, .ok superclass)) : Advance names r s
  | resolveAll : Advance names r r.resolveHierarchy.1

/-- `Change names r s`: a request may make `s` of `r` when `names` is the interner. -/
inductive Change (names : Interner) (r : Registry) : Registry → Prop where
  | advance {s : Registry} (h : Advance names r s) : Change names r s
  | bootstrap (l : Language) : Change names r (r.bootstrap names l).1

/-- A definition that is met appends its class, and one that is refused changes
nothing. -/
theorem advance_define (names : Interner) (r : Registry) (d : ClassDef) :
  Advance names r (r.define d).1
  := by
  rcases h : r.define d with ⟨s, answer⟩
  cases answer with
  | error e =>
      obtain ⟨-, rfl, -⟩ := define_eq_error.mp h
      apply Advance.keep
  | ok id => apply Advance.define h

/-- Resolving a superclass marks the class, or changes nothing. -/
theorem advance_resolveSuperclass (names : Interner) (r : Registry) (id : ClassId) :
  Advance names r (r.resolveSuperclass id).1
  := by
  rcases h : r.resolveSuperclass id with ⟨s, answer⟩
  cases answer with
  | error e =>
      obtain ⟨-, rfl⟩ := resolveSuperclass_eq_error.mp h
      apply Advance.keep
  | ok superclass => apply Advance.resolve h

theorem advance_defineClass
    (r : Registry) (names : Interner) (name : String) (superName : Option String)
    (kind : ClassKind) (span : Span) :
  Advance names r (r.defineClass name superName kind span names).1.1
  := by
  rw [defineClass, InternM.bind_apply, InternM.intern_apply]
  cases (names.tryIntern name).1 with
  | error e => apply Advance.keep
  | ok n =>
      cases superName with
      | none => apply advance_define
      | some superName =>
          simp only [InternM.bind_apply, InternM.intern_apply]
          cases ((names.tryIntern name).2.tryIntern superName).1 with
          | error e => apply Advance.keep
          | ok s => apply advance_define

theorem advance_defineBelow
    (r : Registry) (names : Interner) (parent : CodeBodyTypes → TypeRef) (name : String)
    (span : Span) :
  Advance names r (r.defineBelow parent name span names).1.1
  := by
  unfold defineBelow
  cases r.codeBodyTypes with
  | none => apply Advance.keep
  | some types =>
      simp only [InternM.bind_apply, InternM.intern_apply]
      cases (names.tryIntern name).1 with
      | error e => apply Advance.keep
      | ok n => apply advance_define

theorem advance_bindCodeBody
    (r : Registry) (names : Interner) (className : String) (body : CodeBody) :
  Advance names r (r.bindCodeBody className body names).1.1
  := by
  have hbinding := r.binding names className body
  generalize r.bindCodeBody className body names = outcome at hbinding ⊢
  cases hbinding with
  | refused e => apply Advance.keep
  | noRoom hup he => apply Advance.resolve (resolveSuperclass_eq_ok.mpr ⟨hup, rfl⟩)
  | bound hid hc hkind hup hselector => apply Advance.bind hc hkind hup hselector

/-- Every request is a bootstrap or makes an advance. -/
theorem bootstrap_or_advance (r : Registry) (names : Interner) (request : Request) :
  (∃ l, request = .bootstrap l) ∨ Advance names r (r.perform request names).1
  := by
  cases request with
  | bootstrap l => left; use l
  | defineClass name superName kind span => right; apply advance_defineClass
  | define d => right; apply advance_define
  | defineCodeBody name parent span =>
      right
      apply advance_defineClass r names name (some parent) (.codeBody none) span
  | defineFunctionType name span => right; apply advance_defineBelow
  | defineScriptType name span => right; apply advance_defineBelow
  | bindCodeBody className body => right; apply advance_bindCodeBody
  | resolveSuperclass id => right; apply advance_resolveSuperclass
  | resolveHierarchy => right; apply Advance.resolveAll
  | intern text => right; apply Advance.keep

/-- Every request makes one of the changes. -/
theorem change_perform (r : Registry) (names : Interner) (request : Request) :
  Change names r (r.perform request names).1
  := by
  rcases r.bootstrap_or_advance names request with ⟨l, rfl⟩ | hadvance
  · apply Change.bootstrap l
  · apply Change.advance hadvance

theorem interned_defineClass
    (r : Registry) (names : Interner) (name : String) (superName : Option String)
    (kind : ClassKind) (span : Span) :
  ∃ texts, (r.defineClass name superName kind span names).2 = names.internAll texts
  := by
  rw [defineClass, InternM.bind_apply, InternM.intern_apply]
  cases (names.tryIntern name).1 with
  | error e => use [name]; rfl
  | ok n =>
      cases superName with
      | none => use [name]; rfl
      | some superName =>
          use [name, superName]
          simp only [InternM.bind_apply, InternM.intern_apply]
          cases ((names.tryIntern name).2.tryIntern superName).1 with
          | error e => rfl
          | ok s => rfl

theorem interned_defineBelow
    (r : Registry) (names : Interner) (parent : CodeBodyTypes → TypeRef) (name : String)
    (span : Span) :
  ∃ texts, (r.defineBelow parent name span names).2 = names.internAll texts
  := by
  unfold defineBelow
  cases r.codeBodyTypes with
  | none => use []; rfl
  | some types =>
      use [name]
      simp only [InternM.bind_apply, InternM.intern_apply]
      cases (names.tryIntern name).1 with
      | error e => rfl
      | ok n => rfl

theorem interned_bindCodeBody
    (r : Registry) (names : Interner) (className : String) (body : CodeBody) :
  ∃ texts, (r.bindCodeBody className body names).2 = names.internAll texts
  := by
  have hbinding := r.binding names className body
  generalize r.bindCodeBody className body names = outcome at hbinding ⊢
  cases hbinding with
  | refused e => use []; rfl
  | noRoom hup he => use [codeBodySelector]; rfl
  | bound hid hc hkind hup hselector => use [codeBodySelector]; rfl

/-- A request changes the interner by interning texts only. -/
theorem interned_perform (r : Registry) (names : Interner) (request : Request) :
  ∃ texts, (r.perform request names).2 = names.internAll texts
  := by
  cases request with
  | defineClass name superName kind span => apply interned_defineClass
  | defineCodeBody name parent span =>
      apply interned_defineClass r names name (some parent) (.codeBody none) span
  | defineFunctionType name span => apply interned_defineBelow
  | defineScriptType name span => apply interned_defineBelow
  | bindCodeBody className body => apply interned_bindCodeBody
  | intern text => use [text]; rfl
  | define d => use []; rfl
  | resolveSuperclass id => use []; rfl
  | resolveHierarchy => use []; rfl
  | bootstrap l => use []; rfl

/-! ### What holds of every registry that comes about -/

theorem performAll_concat (r : Registry) (names : Interner) (before : List Request)
    (request : Request) :
  r.performAll (before ++ [request]) names
    = (r.performAll before names).1.perform request (r.performAll before names).2
  := by
  rw [performAll, List.foldlM_append]
  rfl

/-- What holds at first and is kept by every request holds after all requests. -/
theorem performAll_induct
    {P : Registry → Interner → Prop}
    (hstep : ∀ r names request, P r names →
      P (r.perform request names).1 (r.perform request names).2)
    {r : Registry} {names : Interner} (hfirst : P r names) (requests : List Request) :
  P (r.performAll requests names).1 (r.performAll requests names).2
  := by
  induction requests generalizing r names with
  | nil => apply hfirst
  | cons request rest ih => apply ih (hstep _ _ _ hfirst)

/-- The interner of a registry that comes about is one that comes about by interning. -/
theorem Reachable.reached {r : Registry} {names : Interner} (h : r.Reachable names) :
  names.Reached
  := by
  obtain ⟨placement, loader, synthetic, requests, h⟩ := h
  have hall := performAll_induct (P := fun _ names => names.Reached)
    (fun r names request hnames => by
      obtain ⟨texts, htexts⟩ := r.interned_perform names request
      rw [htexts]
      apply hnames.internAll)
    (r := Registry.empty loader synthetic) (Interner.reached_initial placement) requests
  rw [h] at hall
  apply hall

end DialectIR.Registry
