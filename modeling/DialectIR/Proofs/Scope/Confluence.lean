import DialectIR.Proofs.Registry.Rollback
import DialectIR.Proofs.Scope.Ancestry
import Mathlib.Logic.Relation

/-!
# The order of attempts

Once all loaders are added, attempts to initialize them may come in any order and fail any
number of times.  An attempt that fails leaves nothing behind, since the registry of a
loader is empty until the loader is initialized.  One that succeeds gives the loader what
its own language says, and nothing else.  So a scope is known by its initialized loaders.

The more loaders are initialized, the more can be: what a loader needs of the others is
found in those that are initialized, and these do not change.  Hence attempts that go on
until no more loaders can be initialized all come to the same scope.
-/

namespace DialectIR

/-- A loader after it was initialized. -/
def Loader.bootstrapped (l : Loader) : Loader :=
  { l with registry := (l.registry.defineTemplate l.language).1, initialized := true }

namespace Scope

/-- An answer is a success, or an error whose names the interner holds. -/
def Told (names : Interner) (answer : Except ScopeError Unit) : Prop :=
  ∀ e, answer = .error e → e.canBeTold names

/-- The first scope becomes the second by an attempt to initialize one loader or all, to
which there is an answer. -/
inductive Tried (s : Scope) : Scope → Prop where
  | one {names : Interner} {h : LoaderHandle}
    (htold : Told names (s.initializeLoader names h).2) :
    Tried s (s.initializeLoader names h).1
  | all {names : Interner} (htold : Told names (s.initializeAll names).2) :
    Tried s (s.initializeAll names).1

/-- No attempt to initialize a loader that is not initialized would succeed. -/
def Exhausted (s : Scope) : Prop :=
  ∀ names h, (s.initializeLoader names h).2 = .ok () → s.isInitialized h

/-- Whether a request only adds a loader to a scope, or a text to the interner. -/
def Request.IsAddition : Request → Prop
  | .addLanguage _ | .intern _ => True
  | _ => False

/-- A loader that is not initialized can be, and gets this registry. -/
structure Ready (s : Scope) (h : LoaderHandle) (l : Loader) (started : Registry) : Prop where
  found : s.loader? h = some l
  pending : l.initialized = false
  base : s.baseError? l = none
  bootstrap : l.registry.defineTemplate l.language = (started, .ok ())
  resolved : (s.setRegistry h started).unresolved? h started.classIds = none

/-- The scope in which the chosen loaders have been initialized. -/
def complete (s : Scope) (chosen : LoaderHandle → Bool) : Scope :=
  { s with loaders := s.loaders.mapIdx fun i l => if chosen ⟨i⟩ then l.bootstrapped else l }

/-- A scope comes from another, of loaders as they were added, in that some of these were
initialized one after the other. -/
structure Advanced (start s : Scope) : Prop where
  added (h : LoaderHandle) (l : Loader) (hl : start.loader? h = some l) : l.IsNew
  completed : s = start.complete s.isInitialized
  indexed : s.Indexed
  ordered : ∃ past order, Ordered past s order

/-! ### Chosen loaders -/

theorem loader?_complete (s : Scope) (chosen : LoaderHandle → Bool) (h : LoaderHandle) :
  (s.complete chosen).loader? h
    = (s.loader? h).map fun l => if chosen h then l.bootstrapped else l
  := Array.getElem?_mapIdx

theorem declared?_complete (s : Scope) (chosen : LoaderHandle → Bool) (h : LoaderHandle) :
  (s.complete chosen).declared? h = s.declared? h
  := by
  rw [declared?, declared?, loader?_complete, Option.map_map]
  congr 1
  funext l
  rw [Function.comp_apply]
  split
  · rfl
  · rfl

theorem ext_loader? {s t : Scope} (hindex : s.index = t.index)
    (hloader : ∀ h, s.loader? h = t.loader? h) :
  s = t
  := by
  obtain ⟨loaders, index⟩ := s
  obtain ⟨loaders', index'⟩ := t
  obtain rfl : index = index' := hindex
  congr 1
  apply Array.ext_getElem?
  intro i
  apply hloader ⟨i⟩

/-- A scope is known by its initialized loaders. -/
theorem Advanced.eq_of_isInitialized {start s t : Scope} (hs : Advanced start s)
    (ht : Advanced start t) (hsame : ∀ h, s.isInitialized h = t.isInitialized h) :
  s = t
  := by
  rw [hs.completed, ht.completed, funext hsame]

/-- A loader is the same wherever it is initialized, and wherever it is not. -/
theorem Advanced.loader?_eq {start s t : Scope} (hs : Advanced start s)
    (ht : Advanced start t) {h : LoaderHandle}
    (hsame : s.isInitialized h = t.isInitialized h) :
  t.loader? h = s.loader? h
  := by
  calc t.loader? h
    _ = (start.complete t.isInitialized).loader? h := by rw [← ht.completed]
    _ = (start.complete s.isInitialized).loader? h := by
        rw [loader?_complete, loader?_complete, hsame]
    _ = s.loader? h := by rw [← hs.completed]

/-- Names and bases stay as they are. -/
theorem Advanced.handle? {start s : Scope} (hs : Advanced start s) (n : Name) :
  s.handle? n = start.handle? n
  := by
  rw [hs.completed]
  rfl

theorem Advanced.declared? {start s : Scope} (hs : Advanced start s) (h : LoaderHandle) :
  s.declared? h = start.declared? h
  := by
  rw [hs.completed, declared?_complete]

theorem Advanced.extends {start s t : Scope} (hs : Advanced start s)
    (ht : Advanced start t) :
  s.Extends t
  := by
  constructor
  · intro n h hn
    rw [ht.handle?, ← hs.handle?]
    apply hn
  · intro h base hbase
    rw [ht.declared?, ← hs.declared?]
    apply hbase

/-- A loader that is not initialized is as it was added. -/
theorem Advanced.loader?_start {start s : Scope} (hs : Advanced start s) {h : LoaderHandle}
    {l : Loader} (hl : s.loader? h = some l) (hnew : l.initialized = false) :
  start.loader? h = some l
  := by
  have hinitialized : s.isInitialized h = false := by rw [isInitialized_eq hl, hnew]
  rw [hs.completed, loader?_complete, hinitialized] at hl
  simpa using hl

theorem isInitialized_of_isNew {s : Scope} (hadded : ∀ h l, s.loader? h = some l → l.IsNew)
    (h : LoaderHandle) :
  s.isInitialized h = false
  := by
  rw [isInitialized]
  cases hl : s.loader? h with
  | none => rfl
  | some l => apply (hadded h l hl).initialized

theorem advanced_self {start : Scope}
    (hadded : ∀ h l, start.loader? h = some l → l.IsNew) :
  Advanced start start
  := by
  have hnone := isInitialized_of_isNew hadded
  constructor
  · apply hadded
  · apply ext_loader?
    · rfl
    intro h
    rw [loader?_complete, hnone]
    exact Option.map_id'.symm
  · intro h l hl
    obtain ⟨synthetic, hempty⟩ := (hadded h l hl).registry
    rw [hempty]
    apply Registry.indexed_empty
  · use [], []
    constructor
    · intro h
      simp [hnone]
    · apply Stacked.nil
    · apply List.Pairwise.nil

/-! ### Single attempts -/

theorem Ready.isInitialized {s : Scope} {h : LoaderHandle} {l : Loader} {started : Registry}
    (hready : s.Ready h l started) :
  s.isInitialized h = false
  := by
  rw [isInitialized_eq hready.found, hready.pending]

theorem Ready.initializeLoader {s : Scope} {h : LoaderHandle} {l : Loader}
    {started : Registry} (hready : s.Ready h l started) (names : Interner) :
  s.initializeLoader names h = (s.replace h l.bootstrapped, .ok ())
  := by
  have hstarted : l.registry.bootstrap names l.language = (started, .ok ()) :=
    Registry.bootstrap_eq_ok_iff.mpr hready.bootstrap
  simp only [Scope.initializeLoader, hready.found, hready.pending, Bool.false_eq_true, if_false,
    hready.base, bootstrapLoader, hstarted, hready.resolved,
    markInitialized_setRegistry hready.found, Loader.bootstrapped, hready.bootstrap]

theorem initializeLoader_of_isInitialized {s : Scope} {h : LoaderHandle}
    (hh : s.isInitialized h) (names : Interner) :
  s.initializeLoader names h = (s, .ok ())
  := by
  rw [initializeLoader]
  cases hl : s.loader? h with
  | none => simp [isInitialized, hl] at hh
  | some l =>
      rw [isInitialized_eq hl] at hh
      exact if_pos hh

/-- An attempt succeeds if the loader is initialized already or can be, whatever names
there are. -/
theorem initializeLoader_eq_ok_iff {s : Scope} {names : Interner} {h : LoaderHandle} :
  (s.initializeLoader names h).2 = .ok () ↔
    s.isInitialized h ∨ ∃ l started, s.Ready h l started
  := by
  constructor
  · have hinit := s.initialization names h
    generalize s.initializeLoader names h = outcome at hinit ⊢
    intro hsucceeds
    cases hinit with
    | already hdone =>
        left
        apply hdone
    | @done l hl hnew hbase started hstarted hresolved =>
        right
        use l, started
        exact ⟨hl, hnew, hbase, Registry.bootstrap_eq_ok_iff.mp hstarted, hresolved⟩
    | missing | withoutBase | unstarted | unresolved => cases hsucceeds
  · rintro (hh | ⟨l, started, hready⟩)
    · rw [initializeLoader_of_isInitialized hh]
    · rw [hready.initializeLoader]

/-- A loader keeps its registry if that is put in its place. -/
theorem setRegistry_self {s : Scope} {h : LoaderHandle} {l : Loader}
    (hl : s.loader? h = some l) :
  s.setRegistry h l.registry = s
  := by
  apply ext_loader?
  · rfl
  intro o
  rw [setRegistry_eq_replace hl, loader?_replace hl]
  split
  · rename_i hsame
    rw [hsame, hl]
  · rfl

/-- A template that is taken back leaves nothing in a loader that is not initialized. -/
theorem Advanced.takenBack {start s : Scope} (hs : Advanced start s) {h : LoaderHandle}
    {l : Loader} (hl : s.loader? h = some l) (hnew : l.initialized = false) :
  (l.registry.defineTemplate l.language).1.rollback l.registry.checkpoint = l.registry
  := by
  obtain ⟨synthetic, hempty⟩ := (hs.added h l (hs.loader?_start hl hnew)).registry
  rw [hempty]
  apply Registry.takenBack_empty

/-- An attempt that fails leaves the scope as it was. -/
theorem Advanced.initializeLoader_error {start s t : Scope} (hs : Advanced start s)
    {names : Interner} {h : LoaderHandle} {e : ScopeError}
    (hfailed : s.initializeLoader names h = (t, .error e)) (htold : e.canBeTold names) :
  t = s
  := by
  have hinit := s.initialization names h
  rw [hfailed] at hinit
  cases hinit with
  | missing hl => rfl
  | withoutBase hl hnew hbase => rfl
  | unstarted hl hnew hbase hstarted =>
      rw [Registry.bootstrap_eq_takenBack hstarted htold, hs.takenBack hl hnew]
      apply setRegistry_self hl
  | @unresolved l hl hnew hbase started hstarted e he =>
      have hback := hs.takenBack hl hnew
      rw [Registry.bootstrap_eq_ok_iff.mp hstarted] at hback
      rw [if_pos htold, hback]
      apply setRegistry_self hl

/-- A loader that can be initialized becomes what its language makes of it. -/
theorem Advanced.done {start s : Scope} (hs : Advanced start s) {h : LoaderHandle}
    {l : Loader} {started : Registry} (hready : s.Ready h l started) :
  Advanced start (s.replace h l.bootstrapped)
  := by
  obtain ⟨hl, hnew, hbase, -, -⟩ := hready
  obtain ⟨past, order, hordered⟩ := hs.ordered
  constructor
  · exact hs.added
  · apply ext_loader?
    · rw [hs.completed]
      rfl
    · intro o
      rw [loader?_complete, loader?_replace hl, isInitialized_replace hl]
      split
      · rename_i hsame
        rw [hsame, hs.loader?_start hl hnew]
        rfl
      · rw [hs.completed, loader?_complete, ← hs.completed]
  · apply hs.indexed.replace hl
    apply (hs.indexed h l hl).defineTemplate
  · exact ⟨_, _, hordered.done hl hnew hbase _⟩

/-- An attempt leaves the scope as it was, or succeeds and initializes the loader. -/
theorem Advanced.initializeLoader_cases {start s : Scope} (hs : Advanced start s)
    {names : Interner} {h : LoaderHandle} (htold : Told names (s.initializeLoader names h).2) :
  (s.initializeLoader names h).1 = s ∨
    ∃ l started, s.Ready h l started ∧
      s.initializeLoader names h = (s.replace h l.bootstrapped, .ok ())
  := by
  rcases hattempt : s.initializeLoader names h with ⟨t, answer⟩
  rw [hattempt] at htold
  cases answer with
  | error e =>
      left
      apply hs.initializeLoader_error hattempt (htold e rfl)
  | ok done =>
      have hsucceeds : (s.initializeLoader names h).2 = .ok () := by rw [hattempt]
      rcases initializeLoader_eq_ok_iff.mp hsucceeds with hh | ⟨l, started, hready⟩
      · left
        rw [initializeLoader_of_isInitialized hh] at hattempt
        cases hattempt
        rfl
      · right
        use l, started, hready
        rw [← hattempt]
        apply hready.initializeLoader

/-- An attempt leads to a scope that comes from the same one. -/
theorem Advanced.initializeLoader {start s : Scope} (hs : Advanced start s)
    {names : Interner} {h : LoaderHandle} (htold : Told names (s.initializeLoader names h).2) :
  Advanced start (s.initializeLoader names h).1
  := by
  rcases hs.initializeLoader_cases htold with hkept | ⟨l, started, hready, hdone⟩
  · rw [hkept]
    apply hs
  · rw [hdone]
    apply hs.done hready

/-- Where all loaders are initialized, no more can be. -/
theorem exhausted_of_forall {s : Scope} (hall : ∀ h ∈ s.handles, s.isInitialized h) :
  s.Exhausted
  := by
  intro names h hsucceeds
  rcases initializeLoader_eq_ok_iff.mp hsucceeds with hh | ⟨l, started, hready⟩
  · apply hh
  · apply hall h (mem_handles_iff.mpr ⟨l, hready.found⟩)

/-! ### More initialized loaders -/

section More

variable {start s t : Scope} (hs : Advanced start s) (ht : Advanced start t)
  (hmore : ∀ o, s.isInitialized o → t.isInitialized o)

include hs ht hmore

/-- The base of a loader keeps it from being initialized no longer once it did not. -/
theorem Advanced.baseError?_mono {l : Loader} (hbase : s.baseError? l = none) :
  t.baseError? l = none
  := by
  rw [baseError?]
  cases hb : l.base with
  | none => rfl
  | some b =>
      obtain ⟨o, ho, hinitialized⟩ := exists_handle_of_baseError? hbase hb
      rw [hs.handle?, ← ht.handle?] at ho
      simp only [ho, if_pos (hmore o hinitialized)]

/-- Superclasses that are resolved with the help of initialized loaders stay so when more
loaders are initialized. -/
theorem Advanced.unresolved?_mono {h : LoaderHandle} {l : Loader}
    (hl : s.loader? h = some l) (hl' : t.loader? h = some l)
    (hnew : l.initialized = false) {started : Registry} (hstarted : started.Indexed)
    (hresolved : (s.setRegistry h started).unresolved? h started.classIds = none) :
  (t.setRegistry h started).unresolved? h started.classIds = none
  := by
  obtain ⟨past, order, hordered⟩ := hs.ordered
  obtain ⟨past', order', hordered'⟩ := ht.ordered
  have hall := (hordered.unresolved?_setRegistry hs.indexed hl (hordered.not_mem hl hnew)
    hstarted).mp hresolved
  apply (hordered'.unresolved?_setRegistry ht.indexed hl' (hordered'.not_mem hl' hnew)
    hstarted).mpr
  have hkept : ∀ o ∈ order, t.loader? o = s.loader? o := by
    intro o ho
    have hinitialized := (hordered.initialized o).mpr ho
    apply hs.loader?_eq ht
    rw [hinitialized, hmore o hinitialized]
  intro id c hc
  obtain ⟨answer, hanswer⟩ := hall id c hc
  use answer
  apply hanswer.transfer (fun _ _ => (hs.extends ht).handle)
  intro o ho
  use (hordered'.initialized o).mp (hmore o ((hordered.initialized o).mpr ho))
  apply hordered.stacked.lookupName?_eq (hs.extends ht) hkept ho

/-- A loader that can be initialized still can be when others were, if it was not. -/
theorem Advanced.ready_mono {h : LoaderHandle} {l : Loader} {started : Registry}
    (hready : s.Ready h l started) (hh : t.isInitialized h = false) :
  t.Ready h l started
  := by
  have hl' : t.loader? h = some l := by
    rw [← hready.found]
    apply hs.loader?_eq ht
    rw [hh, hready.isInitialized]
  have hstarted : started.Indexed := by
    have hfilled := (hs.indexed h l hready.found).defineTemplate l.language
    rw [hready.bootstrap] at hfilled
    apply hfilled
  constructor
  · apply hl'
  · apply hready.pending
  · apply hs.baseError?_mono ht hmore hready.base
  · apply hready.bootstrap
  · apply hs.unresolved?_mono ht hmore hready.found hl' hready.pending hstarted hready.resolved

/-- An attempt that would succeed still does when more loaders are initialized. -/
theorem Advanced.succeeds_mono {names names' : Interner} {h : LoaderHandle}
    (hsucceeds : (s.initializeLoader names h).2 = .ok ()) :
  (t.initializeLoader names' h).2 = .ok ()
  := by
  apply initializeLoader_eq_ok_iff.mpr
  cases hh : t.isInitialized h with
  | true =>
      left
      rfl
  | false =>
      right
      rcases initializeLoader_eq_ok_iff.mp hsucceeds with hinitialized | ⟨l, started, hready⟩
      · rw [hmore h hinitialized] at hh
        cases hh
      · exact ⟨l, started, hs.ready_mono ht hmore hready hh⟩

end More

/-! ### Repeated attempts -/

/-- What each attempt keeps holds after the listed loaders were initialized. -/
theorem told_initializeEach_induct {P : Scope → Prop} {names : Interner}
    (hstep : ∀ s h, P s → Told names (s.initializeLoader names h).2 →
      P (s.initializeLoader names h).1)
    {s : Scope} (hs : P s) {handles : List LoaderHandle}
    (htold : Told names (s.initializeEach names handles).2) :
  P (s.initializeEach names handles).1
  := by
  induction handles generalizing s with
  | nil => apply hs
  | cons h rest ih =>
      have hnext := hstep s h hs
      rw [initializeEach] at htold ⊢
      rcases hattempt : s.initializeLoader names h with ⟨t, answer⟩
      rw [hattempt] at htold hnext
      cases answer with
      | error e => apply hnext htold
      | ok done =>
          apply ih _ htold
          apply hnext
          intro e he
          cases he

/-- What each attempt keeps holds after all attempts. -/
theorem tried_induct {P : Scope → Prop}
    (hstep : ∀ s names h, P s → Told names (s.initializeLoader names h).2 →
      P (s.initializeLoader names h).1)
    {s t : Scope} (hs : P s) (htried : Relation.ReflTransGen Tried s t) :
  P t
  := by
  induction htried with
  | refl => apply hs
  | tail hbefore hlast ih =>
      cases hlast with
      | one htold => apply hstep _ _ _ ih htold
      | all htold =>
          apply told_initializeEach_induct _ ih htold
          intro s h
          apply hstep

/-- Attempts take no initialization back. -/
theorem Advanced.tried {start s t : Scope} (hs : Advanced start s)
    (htried : Relation.ReflTransGen Tried s t) :
  Advanced start t ∧ ∀ o, s.isInitialized o → t.isInitialized o
  := by
  apply tried_induct (P := fun u => Advanced start u ∧ ∀ o, s.isInitialized o → u.isInitialized o)
    _ ⟨hs, fun _ ho => ho⟩ htried
  rintro u names h ⟨hu, hmore⟩ htold
  use hu.initializeLoader htold
  intro o ho
  have hchange : Change True names u _ := .attempt (u.attempt_initializeLoader names h)
  apply hchange.step.isInitialized (hmore o ho)

/-- No attempts initialize a loader that is not initialized where no more can be. -/
theorem Exhausted.isInitialized_of_tried {start s t : Scope} (hexhausted : s.Exhausted)
    (hs : Advanced start s) (ht : Relation.ReflTransGen Tried start t)
    (hstart : Advanced start start) :
  ∀ o, t.isInitialized o → s.isInitialized o
  := by
  have hall : Advanced start t ∧ ∀ o, t.isInitialized o → s.isInitialized o := by
    apply tried_induct
      (P := fun u => Advanced start u ∧ ∀ o, u.isInitialized o → s.isInitialized o) _ _ ht
    · rintro u names h ⟨hu, hless⟩ htold
      use hu.initializeLoader htold
      rcases hu.initializeLoader_cases htold with hkept | ⟨l, started, hready, hdone⟩
      · rw [hkept]
        apply hless
      · -- What could be initialized there can be here, and so it is.
        have hsucceeds : (u.initializeLoader names h).2 = .ok () := by rw [hdone]
        have hh : s.isInitialized h :=
          hexhausted names h (hu.succeeds_mono hs hless hsucceeds)
        intro o ho
        rw [hdone, isInitialized_replace hready.found] at ho
        split at ho
        · rename_i hsame
          rw [hsame]
          apply hh
        · apply hless o ho
    · use hstart
      intro o ho
      rw [isInitialized_of_isNew hstart.added] at ho
      cases ho
  apply hall.2

/-! ### Confluence -/

theorem isNew_performAll {requests : List Request} (names : Interner)
    (hadds : ∀ request ∈ requests, request.IsAddition) {s : Scope}
    (hs : ∀ h l, s.loader? h = some l → l.IsNew) :
  ∀ h l, (s.performAll requests names).1.loader? h = some l → l.IsNew
  := by
  induction requests generalizing s names with
  | nil => apply hs
  | cons request rest ih =>
      apply ih _ (fun later hlater => hadds later (List.mem_cons_of_mem request hlater))
      have hadd := hadds request List.mem_cons_self
      cases request with
      | addLanguage spec =>
          change ∀ h l, (s.addLanguage spec names).1.1.loader? h = some l → l.IsNew
          rcases s.addLanguage_cases names spec with ⟨e, he⟩ | ⟨new, hnew, -, hname, hadded⟩
          · rw [he]
            apply hs
          · rw [hadded]
            intro h l hl
            rw [loader?_push] at hl
            split at hl
            · cases hl
              apply hnew
            · apply hs h l hl
      | intern text => apply hs
      | initializeLoader h => cases hadd
      | initializeAll => cases hadd
      | edit h request => cases hadd

/-- After loaders were added, they may be initialized in any order: an attempt that fails
leaves the scope as it was, one that would succeed still does after all further attempts,
and attempts after which no more loaders can be initialized come to the same scope. -/
theorem initialization_confluent {requests : List Request}
    (hadds : ∀ request ∈ requests, request.IsAddition) (names : Interner) {start : Scope}
    (hstart : (performAll {} requests names).1 = start) :
  (∀ s, Relation.ReflTransGen Tried start s →
    (∀ names h t e, s.initializeLoader names h = (t, .error e) → e.canBeTold names → t = s) ∧
    (∀ names h, (s.initializeLoader names h).2 = .ok () →
      ∀ t, Relation.ReflTransGen Tried s t →
        ∀ names', (t.initializeLoader names' h).2 = .ok ())) ∧
  (∀ s t, Relation.ReflTransGen Tried start s → Relation.ReflTransGen Tried start t →
    s.Exhausted → t.Exhausted → s = t)
  := by
  have hfirst : Advanced start start := by
    apply advanced_self
    rw [← hstart]
    apply isNew_performAll names hadds
    intro h l hl
    simp [loader?] at hl
  constructor
  · intro s hs
    obtain ⟨hadvanced, -⟩ := hfirst.tried hs
    constructor
    · intro names h t e hfailed htold
      apply hadvanced.initializeLoader_error hfailed htold
    · intro names h hsucceeds t ht names'
      obtain ⟨hlater, hmore⟩ := hadvanced.tried ht
      apply hadvanced.succeeds_mono hlater hmore hsucceeds
  · intro s t hs ht hexhausted hexhausted'
    obtain ⟨hadvanced, -⟩ := hfirst.tried hs
    obtain ⟨hadvanced', -⟩ := hfirst.tried ht
    apply hadvanced.eq_of_isInitialized hadvanced'
    intro h
    apply Bool.eq_iff_iff.mpr
    constructor
    · apply hexhausted'.isInitialized_of_tried hadvanced' hs hfirst
    · apply hexhausted.isInitialized_of_tried hadvanced ht hfirst

/-- The loaders of the layering before any of them is initialized, and the interner. -/
def layers : Scope × Interner := performAll {} (layering.take 2) (Interner.initial .bySum)

theorem initialization_confluent_layers :
  (layers.1.initializeLoader layers.2 ⟨1⟩).2 ≠ .ok () ∧
    (layers.1.initializeLoader layers.2 ⟨1⟩).1 = layers.1 ∧
    ((layers.1.initializeLoader layers.2 ⟨1⟩).1.initializeAll layers.2).1
      = ((layers.1.initializeLoader layers.2 ⟨0⟩).1.initializeLoader layers.2 ⟨1⟩).1
  := by
  have hadds : ∀ request ∈ layering.take 2, request.IsAddition := by
    simp [layering, Request.IsAddition]
  have hrefused : Told layers.2 (layers.1.initializeLoader layers.2 ⟨1⟩).2 := by
    intro e he
    cases he
    decide +kernel
  have hrest : Told layers.2
      ((layers.1.initializeLoader layers.2 ⟨1⟩).1.initializeAll layers.2).2 := by
    intro e he
    cases he
  have hbase : Told layers.2 (layers.1.initializeLoader layers.2 ⟨0⟩).2 := by
    intro e he
    cases he
  have hlayer : Told layers.2
      ((layers.1.initializeLoader layers.2 ⟨0⟩).1.initializeLoader layers.2 ⟨1⟩).2 := by
    intro e he
    cases he
  obtain ⟨hattempts, hconfluent⟩ := initialization_confluent hadds (Interner.initial .bySum) rfl
  refine ⟨?_, ?_, ?_⟩
  · decide +kernel
  · apply (hattempts layers.1 .refl).1 layers.2 ⟨1⟩ _ _ rfl
    apply hrefused _ rfl
  · apply hconfluent
    · apply Relation.ReflTransGen.tail (.single (.one hrefused)) (.all hrest)
    · apply Relation.ReflTransGen.tail (.single (.one hbase)) (.one hlayer)
    · apply exhausted_of_forall
      decide +kernel
    · apply exhausted_of_forall
      decide +kernel

end Scope

end DialectIR
