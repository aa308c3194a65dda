import DialectIR.Proofs.Registry.Consistency
import DialectIR.Scope.Initialization

/-!
# Requests to a scope

The requests that may change a scope, and the scopes that come about when a scope is given
one request after the other, whether they are met or refused.  Initializing all loaders is
initializing one after the other, so that a run has a scope before each of these steps;
the history of a run lists them.

What a single step makes of a scope is one of a few changes; so what each of these changes
preserves holds along every run.
-/

namespace DialectIR

/-- A loader as it is added: without classes, and not initialized. -/
structure Loader.IsNew (l : Loader) : Prop where
  registry : ∃ synthetic, l.registry = .empty l.name synthetic
  initialized : l.initialized = false

namespace Scope

/-- A request that may change a scope or its interner. -/
inductive Request where
  | addLanguage (spec : LoaderSpec)
  | initializeLoader (h : LoaderHandle)
  | initializeAll
  /-- A request to the registry of a loader. -/
  | edit (h : LoaderHandle) (request : Registry.Request)
  /-- Another user of the interner adds a text. -/
  | intern (text : String)
  deriving DecidableEq, Repr

/-- Whether a request goes to the registry of a loader. -/
def Request.IsEdit : Request → Prop
  | .edit _ _ => True
  | _ => False

/-- The scope after a request to the registry of a loader. -/
def edit (s : Scope) (h : LoaderHandle) (request : Registry.Request) : InternM Scope :=
  match s.loader? h with
  | none => return s
  | some l => return s.setRegistry h (← l.registry.perform request)

/-- The scope after a request. -/
def perform (s : Scope) : Request → InternM Scope
  | .addLanguage spec => return (← s.addLanguage spec).1
  | .initializeLoader h => return (s.initializeLoader (← get) h).1
  | .initializeAll => return (s.initializeAll (← get)).1
  | .edit h request => s.edit h request
  | .intern text => do
    let _ ← InternM.intern text
    return s

/-- The scope after requests, in order. -/
def performAll (s : Scope) (requests : List Request) : InternM Scope :=
  requests.foldlM perform s

/-! ### Histories -/

/-- The scopes before each step of initializing the listed loaders. -/
def stepsEach (s : Scope) (names : Interner) : List LoaderHandle → List Scope
  | [] => []
  | h :: rest =>
    s :: match s.initializeLoader names h with
      | (_, .error _) => []
      | (t, .ok ()) => t.stepsEach names rest

/-- The scopes before each step of a request. -/
def steps (s : Scope) (names : Interner) : Request → List Scope
  | .initializeAll => s.stepsEach names s.handles
  | _ => [s]

/-- The scopes before each step of a run. -/
def history (s : Scope) (names : Interner) : List Request → List Scope
  | [] => []
  | request :: rest =>
    s.steps names request ++
      (s.perform request names).1.history (s.perform request names).2 rest

/-- A loader was initialized at a time at which another was not. -/
def InitializedBefore (past : List Scope) (o h : LoaderHandle) : Prop :=
  ∃ s ∈ past, s.isInitialized o ∧ ¬ s.isInitialized h

theorem InitializedBefore.append {past : List Scope} {o h : LoaderHandle}
    (hpast : InitializedBefore past o h) (more : List Scope) :
  InitializedBefore (past ++ more) o h
  := by
  obtain ⟨s, hs, hbefore⟩ := hpast
  use s, List.mem_append_left more hs

/-! ### Single operations -/

/-- A language is added as a new loader of a name that no loader has, or refused. -/
theorem addLanguage_cases (s : Scope) (names : Interner) (spec : LoaderSpec) :
  (∃ e, (s.addLanguage spec names).1 = (s, .error e)) ∨
    ∃ l, l.IsNew ∧ (names.tryIntern spec.name).1 = .ok l.name ∧ s.handle? l.name = none ∧
      (s.addLanguage spec names).1 = (s.push l, .ok ⟨s.size⟩)
  := by
  rw [addLanguage, InternM.bind_apply, InternM.intern_apply]
  cases (names.tryIntern spec.name).1 with
  | error e => left; use .noRoom e; rfl
  | ok n =>
      cases hn : s.handle? n with
      | some h => simp only [hn]; left; use .duplicateLoader spec.name; rfl
      | none =>
          simp only [hn]
          cases spec.base with
          | none =>
              right
              use ⟨n, spec.language, none, .empty n spec.synthetic, false⟩
              exact ⟨⟨⟨spec.synthetic, rfl⟩, rfl⟩, rfl, hn, rfl⟩
          | some base =>
              simp only [InternM.bind_apply, InternM.intern_apply]
              cases ((names.tryIntern spec.name).2.tryIntern base).1 with
              | error e => left; use .noRoom e; rfl
              | ok b =>
                  right
                  use ⟨n, spec.language, some b, .empty n spec.synthetic, false⟩
                  exact ⟨⟨⟨spec.synthetic, rfl⟩, rfl⟩, rfl, hn, rfl⟩

theorem isInitialized_eq {s : Scope} {h : LoaderHandle} {l : Loader}
    (hl : s.loader? h = some l) :
  s.isInitialized h = l.initialized
  := by
  rw [isInitialized, hl]
  rfl

/-- The scope with one loader changed. -/
def modifyLoader (s : Scope) (h : LoaderHandle) (f : Loader → Loader) : Scope :=
  { s with loaders := s.loaders.modify h.index f }

theorem modifyLoader_modifyLoader (s : Scope) (h : LoaderHandle) (f g : Loader → Loader) :
  (s.modifyLoader h f).modifyLoader h g = s.modifyLoader h fun l => g (f l)
  := by
  unfold modifyLoader
  congr 1
  apply Array.ext_getElem?
  intro i
  simp only [Array.getElem?_modify]
  split
  · rw [Option.map_map]
    rfl
  · rfl

theorem rollbackLoader_setRegistry (s : Scope) (h : LoaderHandle) (r : Registry)
    (point : Checkpoint) :
  (s.setRegistry h r).rollbackLoader h point = s.setRegistry h (r.rollback point)
  := s.modifyLoader_modifyLoader h (fun l => { l with registry := r })
    (fun l => { l with registry := l.registry.rollback point })

/-- What initializing a loader comes to: the scope that it leaves, and the answer. -/
inductive Initialization (names : Interner) (s : Scope) (h : LoaderHandle) :
    Scope × Except ScopeError Unit → Prop where
  | missing (hl : s.loader? h = none) : Initialization names s h (s, .error (.noSuchLoader h))
  | already (hdone : s.isInitialized h) : Initialization names s h (s, .ok ())
  /-- The base of the loader is not part of the scope, or not initialized. -/
  | withoutBase {l : Loader} (hl : s.loader? h = some l) (hnew : l.initialized = false)
    {e : ScopeError} (hbase : s.baseError? l = some e) :
    Initialization names s h (s, .error e)
  | unstarted {l : Loader} (hl : s.loader? h = some l) (hnew : l.initialized = false)
    (hbase : s.baseError? l = none) {failed : Registry} {e : RegistryError}
    (hfailed : l.registry.bootstrap names l.language = (failed, .error e)) :
    Initialization names s h (s.setRegistry h failed, .error (.registry e))
  | unresolved {l : Loader} (hl : s.loader? h = some l) (hnew : l.initialized = false)
    (hbase : s.baseError? l = none) {started : Registry}
    (hstarted : l.registry.bootstrap names l.language = (started, .ok ())) {e : ScopeError}
    (he : (s.setRegistry h started).unresolved? h started.classIds = some e) :
    Initialization names s h
      (s.setRegistry h
        (if e.canBeTold names then started.rollback l.registry.checkpoint else started),
        .error e)
  | done {l : Loader} (hl : s.loader? h = some l) (hnew : l.initialized = false)
    (hbase : s.baseError? l = none) {started : Registry}
    (hstarted : l.registry.bootstrap names l.language = (started, .ok ()))
    (hresolved : (s.setRegistry h started).unresolved? h started.classIds = none) :
    Initialization names s h ((s.setRegistry h started).markInitialized h, .ok ())

theorem initialization (s : Scope) (names : Interner) (h : LoaderHandle) :
  Initialization names s h (s.initializeLoader names h)
  := by
  rw [initializeLoader]
  cases hl : s.loader? h with
  | none => apply Initialization.missing hl
  | some l =>
      cases hnew : l.initialized with
      | true =>
          simp only [hnew]
          apply Initialization.already
          rw [isInitialized_eq hl, hnew]
      | false =>
          cases hbase : s.baseError? l with
          | some e =>
              simp only [hnew, hbase]
              apply Initialization.withoutBase hl hnew hbase
          | none =>
              rcases hstarted : l.registry.bootstrap names l.language with ⟨started, answer⟩
              cases answer with
              | error e =>
                  simp only [hnew, Bool.false_eq_true, if_false, hbase, bootstrapLoader, hstarted]
                  -- The bootstrap has taken itself back, if at all, so that it is not taken back
                  -- any further.
                  have hback : (if (ScopeError.registry e).canBeTold names then
                      (s.setRegistry h started).rollbackLoader h l.registry.checkpoint
                      else s.setRegistry h started) = s.setRegistry h started := by
                    split
                    · rename_i htold
                      rw [rollbackLoader_setRegistry, Registry.rollback_bootstrap hstarted htold]
                    · rfl
                  rw [hback]
                  apply Initialization.unstarted hl hnew hbase hstarted
              | ok done =>
                  cases hresolved :
                      (s.setRegistry h started).unresolved? h started.classIds with
                  | none =>
                      simp only [hnew, hbase, bootstrapLoader, hstarted, hresolved]
                      apply Initialization.done hl hnew hbase hstarted hresolved
                  | some e =>
                      simp only [hnew, Bool.false_eq_true, if_false, hbase, bootstrapLoader,
                        hstarted, hresolved, rollbackLoader_setRegistry]
                      rw [← apply_ite (s.setRegistry h)]
                      apply Initialization.unresolved hl hnew hbase hstarted hresolved

/-- What an attempt to initialize a loader leaves. -/
inductive Attempt (names : Interner) (s : Scope) (h : LoaderHandle) : Scope → Prop where
  /-- The loader is initialized already, or cannot be on account of its base. -/
  | keep : Attempt names s h s
  /-- The registry cannot be bootstrapped, or not all superclasses can be resolved. -/
  | failed {l : Loader} (hl : s.loader? h = some l) (hnew : l.initialized = false)
    {r : Registry} (hr : r = (l.registry.bootstrap names l.language).1 ∨
      r = (l.registry.bootstrap names l.language).1.rollback l.registry.checkpoint) :
    Attempt names s h (s.setRegistry h r)
  | done {l : Loader} (hl : s.loader? h = some l) (hnew : l.initialized = false)
    (hbase : s.baseError? l = none) {started : Registry}
    (hstarted : l.registry.bootstrap names l.language = (started, .ok ()))
    (hresolved : (s.setRegistry h started).unresolved? h started.classIds = none) :
    Attempt names s h ((s.setRegistry h started).markInitialized h)

/-- Initializing a loader is such an attempt. -/
theorem attempt_initializeLoader (s : Scope) (names : Interner) (h : LoaderHandle) :
  Attempt names s h (s.initializeLoader names h).1
  := by
  have hinit := s.initialization names h
  generalize s.initializeLoader names h = outcome at hinit ⊢
  cases hinit with
  | missing hl => apply Attempt.keep
  | already hdone => apply Attempt.keep
  | withoutBase hl hnew hbase => apply Attempt.keep
  | unstarted hl hnew hbase hfailed =>
      apply Attempt.failed hl hnew
      left
      rw [hfailed]
  | unresolved hl hnew hbase hstarted he =>
      apply Attempt.failed hl hnew
      rw [hstarted]
      split
      · right
        rfl
      · left
        rfl
  | done hl hnew hbase hstarted hresolved =>
      apply Attempt.done hl hnew hbase hstarted hresolved

/-! ### What steps change -/

/-- `Change editable names s t`: a step may make `t` of `s` when `names` is the interner.
Registries are given requests only if the scope is `editable`. -/
inductive Change (editable : Prop) (names : Interner) (s : Scope) : Scope → Prop where
  | keep : Change editable names s s
  | add {l : Loader} (hnew : l.IsNew) (hname : s.handle? l.name = none) :
    Change editable names s (s.push l)
  | attempt {h : LoaderHandle} {t : Scope} (ht : Attempt names s h t) :
    Change editable names s t
  | edit (heditable : editable) {h : LoaderHandle} {l : Loader} (hl : s.loader? h = some l)
    {r : Registry} (hr : Registry.Change names l.registry r) :
    Change editable names s (s.setRegistry h r)

/-- What one step keeps holds after the listed loaders were initialized. -/
theorem initializeEach_induct
    {P : List Scope → Scope → Prop} {names : Interner}
    (hstep : ∀ past s h, P past s → P (past ++ [s]) (s.initializeLoader names h).1)
    {past : List Scope} {s : Scope} (hs : P past s) (handles : List LoaderHandle) :
  P (past ++ s.stepsEach names handles) (s.initializeEach names handles).1
  := by
  induction handles generalizing past s with
  | nil =>
      rw [stepsEach, List.append_nil]
      apply hs
  | cons h rest ih =>
      have hnext := hstep past s h hs
      rw [stepsEach, initializeEach]
      rcases hattempt : s.initializeLoader names h with ⟨t, answer⟩
      rw [hattempt] at hnext
      cases answer with
      | error e => apply hnext
      | ok done =>
          rw [List.append_cons]
          apply ih hnext

/-- What each change keeps holds after a request. -/
theorem perform_induct
    {P : List Scope → Scope → Prop} {editable : Prop}
    (hstep : ∀ past names s t, P past s → Change editable names s t → P (past ++ [s]) t)
    {past : List Scope} {s : Scope} (hs : P past s) (names : Interner) (request : Request)
    (heditable : request.IsEdit → editable) :
  P (past ++ s.steps names request) (s.perform request names).1
  := by
  cases request with
  | addLanguage spec =>
      apply hstep past names s _ hs
      change Change editable names s (s.addLanguage spec names).1.1
      rcases s.addLanguage_cases names spec with ⟨e, he⟩ | ⟨l, hnew, -, hname, hadded⟩
      · rw [he]
        apply Change.keep
      · rw [hadded]
        apply Change.add hnew hname
  | initializeLoader h =>
      apply hstep past names s _ hs
      apply Change.attempt (s.attempt_initializeLoader names h)
  | initializeAll =>
      apply initializeEach_induct _ hs
      intro past s h hs
      apply hstep past names s _ hs
      apply Change.attempt (s.attempt_initializeLoader names h)
  | edit h request =>
      apply hstep past names s _ hs
      change Change editable names s (s.edit h request names).1
      unfold edit
      cases hl : s.loader? h with
      | none => apply Change.keep
      | some l =>
          apply Change.edit (heditable trivial) hl
          apply Registry.change_perform
  | intern text => apply hstep past names s _ hs Change.keep

/-- What holds at first and is kept by each change holds after all requests, with the
history of the run. -/
theorem performAll_induct
    {P : List Scope → Scope → Prop} {editable : Prop}
    (hstep : ∀ past names s t, P past s → Change editable names s t → P (past ++ [s]) t)
    {past : List Scope} {s : Scope} (hs : P past s) (names : Interner)
    {requests : List Request} (heditable : ∀ request ∈ requests, request.IsEdit → editable) :
  P (past ++ s.history names requests) (s.performAll requests names).1
  := by
  induction requests generalizing past s names with
  | nil =>
      rw [history, List.append_nil]
      apply hs
  | cons request rest ih =>
      have hnext := perform_induct hstep hs names request
        (heditable request List.mem_cons_self)
      rw [history, ← List.append_assoc]
      apply ih hnext
      intro later hlater
      apply heditable later (List.mem_cons_of_mem request hlater)

end Scope

end DialectIR
