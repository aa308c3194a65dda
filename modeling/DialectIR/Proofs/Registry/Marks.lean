import DialectIR.Proofs.Registry.Rollback

/-!
# Marks of resolved classes

A class is marked as resolved when its superclass was found, and nothing takes the mark
away.  It remains true as long as registries grow.  But a bootstrap resolves the classes
that were there before along with those of its template, and if it fails, the template is
taken back and the marks stay; so a class may keep a mark that it only earned with the help
of classes that are gone.

This is the one way in which marks become wrong.  A class with a method was resolved outside
of bootstraps, so that its mark is always right.
-/

namespace DialectIR.Registry

/-- The classes that are marked can be resolved. -/
def Trusted (r : Registry) : Prop :=
  ∀ id c, r.class? id = some c → c.state ≠ .declared → r.Resolvable id

/-- The marks of a registry are those of an earlier one, except on classes that can be
resolved. -/
def MarksEarned (r s : Registry) : Prop :=
  ∀ id d, s.class? id = some d → d.state ≠ .declared →
    (∃ c, r.class? id = some c ∧ c.state = d.state) ∨ s.Resolvable id

/-- A class is only declared and cannot be resolved, and a bootstrap comes past it before
it fails and is taken back. -/
structure MarksInVain (r : Registry) (names : Interner) (l : Language) (id : ClassId) :
    Prop where
  failed : ∃ s e, r.bootstrap names l = (s, .error e) ∧ e.canBeTold names
  passed : r.Passed l id
  declared : ∃ c, r.class? id = some c ∧ c.state = .declared
  unresolvable : ¬ r.Resolvable id

/-- The registry and the interner that requests lead to from new ones. -/
def run (placement : Placement) (loader : Name) (synthetic : Bool)
    (requests : List Request) : Registry × Interner :=
  (Registry.empty loader synthetic).performAll requests (Interner.initial placement)

/-! ### Marks that are earned -/

theorem marksEarned_self (r : Registry) :
  r.MarksEarned r
  := by
  intro id c hc _
  left
  use c, hc

theorem MarksEarned.trans {r s t : Registry} (h : r.MarksEarned s) (h' : s.MarksEarned t)
    (hextends : s.Extends t) (hs : s.Indexed) (ht : t.Indexed) :
  r.MarksEarned t
  := by
  intro id e he hmark
  rcases h' id e he hmark with ⟨d, hd, hstate⟩ | hresolvable
  · rw [← hstate] at hmark ⊢
    rcases h id d hd hmark with hold | hresolvable
    · left
      apply hold
    · right
      apply hextends.resolvable hs ht hresolvable
  · right
    apply hresolvable

/-- A definition marks no class. -/
theorem marksEarned_define {r s : Registry} {d : ClassDef} {new : ClassId}
    (hdefine : r.define d = (s, .ok new)) :
  r.MarksEarned s
  := by
  intro id c hc hmark
  rcases (class?_define hdefine).mp hc with hold | ⟨-, rfl⟩
  · left
    use c, hold
  · cases hmark rfl

/-- The one class that is marked by resolving it can be resolved. -/
theorem Indexed.marksEarned_resolveSuperclass {r s : Registry} (h : r.Indexed)
    {id : ClassId} {superclass : Option ClassId}
    (hresolve : r.resolveSuperclass id = (s, .ok superclass)) :
  r.MarksEarned s
  := by
  obtain ⟨hup, rfl⟩ := resolveSuperclass_eq_ok.mp hresolve
  intro other d hd _
  by_cases hsame : other = id
  · right
    rw [hsame, h.resolvable_resolved]
    use superclass
  · left
    rw [class?_modifyClass, if_neg hsame] at hd
    use d, hd

theorem Indexed.marksEarned_bound {r : Registry} (h : r.Indexed) {id : ClassId} {c : Class}
    {superclass : Option ClassId} (hc : r.class? id = some c)
    (hup : r.superclassOf id = .ok superclass) (selector : Name) (body : CodeBody) :
  r.MarksEarned (r.bound id c selector body)
  := by
  intro other d hd _
  by_cases hsame : other = id
  · right
    rw [hsame]
    apply (r.extends_bound id c selector body).resolvable h (h.bound id c selector body)
    use superclass
  · left
    rw [class?_bound r hc, if_neg hsame] at hd
    use d, hd

/-- Marks stay earned when a further class is defined or resolved. -/
theorem MarksEarned.define {r s t : Registry} (h : r.MarksEarned s) (hs : s.Indexed)
    {d : ClassDef} {id : ClassId} (hdefine : s.define d = (t, .ok id)) :
  r.MarksEarned t
  := h.trans (marksEarned_define hdefine) (extends_define hdefine) hs (hs.define hdefine)

theorem MarksEarned.resolveSuperclass {r s t : Registry} (h : r.MarksEarned s)
    (hs : s.Indexed) {id : ClassId} {superclass : Option ClassId}
    (hresolve : s.resolveSuperclass id = (t, .ok superclass)) :
  r.MarksEarned t
  := h.trans (hs.marksEarned_resolveSuperclass hresolve) (extends_resolveSuperclass hresolve)
    hs (hs.resolveSuperclass hresolve)

theorem Indexed.marksEarned_resolveEach {r : Registry} (h : r.Indexed) (ids : List ClassId) :
  r.MarksEarned (r.resolveEach ids).1
  := by
  have hall := resolveEach_induct (P := fun s => s.Indexed ∧ r.MarksEarned s)
    (fun s id superclass t ⟨hs, hearned⟩ hresolve =>
      ⟨hs.resolveSuperclass hresolve, hearned.resolveSuperclass hs hresolve⟩)
    ⟨h, r.marksEarned_self⟩ ids
  apply hall.2

theorem Indexed.marksEarned_defineTemplate {r : Registry} (h : r.Indexed) (l : Language) :
  r.MarksEarned (r.defineTemplate l).1
  := by
  have hall := defineTemplate_induct (P := fun s => s.Indexed ∧ r.MarksEarned s)
    (fun s d id t ⟨hs, hearned⟩ hdefine => ⟨hs.define hdefine, hearned.define hs hdefine⟩)
    (fun s id superclass t ⟨hs, hearned⟩ hresolve =>
      ⟨hs.resolveSuperclass hresolve, hearned.resolveSuperclass hs hresolve⟩)
    (fun s types ⟨hs, hearned⟩ => by
      constructor
      · exact ⟨hs.found, hs.entry, hs.loader⟩
      · intro id d hd hmark
        rw [hs.resolvable_codeBodyTypes]
        apply hearned id d hd hmark)
    ⟨h, r.marksEarned_self⟩ l
  apply hall.2

/-- Outside of bootstraps marks are earned. -/
theorem Advance.marksEarned {names : Interner} {r s : Registry} (h : Advance names r s)
    (hr : r.Indexed) :
  r.MarksEarned s
  := by
  cases h with
  | keep => apply marksEarned_self
  | define hdefine => apply marksEarned_define hdefine
  | bind hc hkind hup hname body => apply hr.marksEarned_bound hc hup
  | resolve hresolve => apply hr.marksEarned_resolveSuperclass hresolve
  | resolveAll => apply hr.marksEarned_resolveEach

/-! ### Marks that a bootstrap leaves -/

/-- A mark after a bootstrap was there before, or is earned, or is one that the bootstrap
left in vain. -/
theorem Indexed.mark_bootstrap {r : Registry} (h : r.Indexed) (names : Interner)
    (l : Language) {id : ClassId} {d : Class}
    (hd : (r.bootstrap names l).1.class? id = some d) (hmark : d.state ≠ .declared) :
  (∃ c, r.class? id = some c ∧ c.state = d.state) ∨ (r.bootstrap names l).1.Resolvable id ∨
    d.state = .hierarchyResolved ∧ r.MarksInVain names l id
  := by
  rcases r.bootstrap_cases names l with hdone | ⟨e, htold, htaken⟩
  · rw [hdone] at hd ⊢
    rcases h.marksEarned_defineTemplate l id d hd hmark with hold | hresolvable
    · left
      apply hold
    · right
      left
      apply hresolvable
  · obtain ⟨hmarked, hkept⟩ := h.class?_takenBack l id
    rw [htaken] at hd ⊢
    by_cases hpassed : r.Passed l id
    -- The pass marked the class, which matters only if it was not marked before.
    · rw [hmarked hpassed] at hd
      obtain ⟨c, hc, rfl⟩ := Option.map_eq_some_iff.mp hd
      by_cases hdeclared : c.state = .declared
      · right
        rw [h.resolvable_takenBack]
        by_cases hresolvable : r.Resolvable id
        · left
          apply hresolvable
        · right
          constructor
          · rw [Class.resolved, hdeclared]
            rfl
          · exact ⟨⟨_, e, htaken, htold⟩, hpassed, ⟨c, hc, hdeclared⟩, hresolvable⟩
      · left
        use c, hc
        rw [resolved_eq_self_iff.mpr hdeclared]
    · rw [hkept hpassed] at hd
      left
      use d, hd

/-- A mark that is left in vain is wrong. -/
theorem MarksInVain.not_trusted {r : Registry} {names : Interner} {l : Language}
    {id : ClassId} (h : r.MarksInVain names l id) (hr : r.Indexed) :
  ¬ (r.bootstrap names l).1.Trusted
  := by
  intro htrusted
  obtain ⟨s, e, hfailed, htold⟩ := h.failed
  obtain ⟨c, hc, hdeclared⟩ := h.declared
  rw [hfailed, bootstrap_eq_takenBack hfailed htold] at htrusted
  have hmarked := (hr.class?_takenBack l id).1 h.passed
  rw [hc, Option.map_some] at hmarked
  apply h.unresolvable
  rw [← hr.resolvable_takenBack l]
  apply htrusted id c.resolved hmarked
  rw [Class.resolved, hdeclared]
  intro hstate
  cases hstate

/-! ### Along a run -/

theorem Trusted.earned {r s : Registry} (h : r.Trusted) (hearned : r.MarksEarned s)
    (hextends : r.Extends s) (hr : r.Indexed) (hs : s.Indexed) :
  s.Trusted
  := by
  intro id d hd hmark
  rcases hearned id d hd hmark with ⟨c, hc, hstate⟩ | hresolvable
  · rw [← hstate] at hmark
    apply hextends.resolvable hr hs (h id c hc hmark)
  · apply hresolvable

/-- The marks of a registry stay right in a bootstrap that leaves none in vain. -/
theorem Trusted.bootstrap {r : Registry} (h : r.Trusted) (hr : r.Indexed) (names : Interner)
    (l : Language) (hvain : ∀ id, ¬ r.MarksInVain names l id) :
  (r.bootstrap names l).1.Trusted
  := by
  intro id d hd hmark
  rcases hr.mark_bootstrap names l hd hmark with ⟨c, hc, hstate⟩ | hresolvable | ⟨-, hleft⟩
  · rw [← hstate] at hmark
    apply (hr.extends_change (Change.bootstrap l)).resolvable hr (hr.bootstrap names l)
    apply h id c hc hmark
  · apply hresolvable
  · cases hvain id hleft

/-- A class with a method can be resolved. -/
def BoundResolvable (r : Registry) : Prop :=
  ∀ id c, r.class? id = some c → c.state = .bodyBound → r.Resolvable id

theorem BoundResolvable.perform {r : Registry} (h : r.BoundResolvable) (hr : r.Indexed)
    (names : Interner) (request : Request) :
  (r.perform request names).1.BoundResolvable
  := by
  have hs := hr.perform names request
  have hextends := hr.extends_change (change_perform r names request)
  intro id d hd hstate
  have hmark : d.state ≠ .declared := by simp [hstate]
  have hold : ∀ c, r.class? id = some c → c.state = d.state →
      (r.perform request names).1.Resolvable id := by
    intro c hc hcd
    rw [hstate] at hcd
    apply hextends.resolvable hr hs (h id c hc hcd)
  rcases r.bootstrap_or_advance names request with ⟨l, rfl⟩ | hadvance
  · rcases hr.mark_bootstrap names l hd hmark with ⟨c, hc, hcd⟩ | hresolvable | ⟨hleft, -⟩
    · apply hold c hc hcd
    · apply hresolvable
    · rw [hstate] at hleft
      cases hleft
  · rcases hadvance.marksEarned hr id d hd hmark with ⟨c, hc, hcd⟩ | hresolvable
    · apply hold c hc hcd
    · apply hresolvable

theorem class?_empty (loader : Name) (synthetic : Bool) (id : ClassId) :
  (empty loader synthetic).class? id = none
  := by
  simp [empty, class?]

section Run

variable (placement : Placement) (loader : Name) (synthetic : Bool)

theorem run_concat (before : List Request) (request : Request) :
  run placement loader synthetic (before ++ [request])
    = (run placement loader synthetic before).1.perform request
        (run placement loader synthetic before).2
  := performAll_concat _ _ before request

theorem indexed_run (requests : List Request) :
  (run placement loader synthetic requests).1.Indexed
  := by
  have hreachable : (run placement loader synthetic requests).1.Reachable
      (run placement loader synthetic requests).2 :=
    ⟨placement, loader, synthetic, requests, rfl⟩
  apply hreachable.indexed

/-- In every run a class with a method can be resolved. -/
theorem boundResolvable_run (requests : List Request) :
  (run placement loader synthetic requests).1.BoundResolvable
  := by
  have hall : (run placement loader synthetic requests).1.Indexed ∧
      (run placement loader synthetic requests).1.BoundResolvable := by
    apply performAll_induct (P := fun r _ => r.Indexed ∧ r.BoundResolvable)
    · rintro r names request ⟨hr, hbound⟩
      use hr.perform names request
      apply hbound.perform hr
    · use indexed_empty loader synthetic
      intro id c hc
      rw [class?_empty] at hc
      cases hc
  apply hall.2

/-- The marks are right all along a run, unless a bootstrap of the run leaves one in vain. -/
theorem trusted_run {requests : List Request}
    (hvain : ∀ before l id, before ++ [.bootstrap l] <+: requests →
      ¬ (run placement loader synthetic before).1.MarksInVain
        (run placement loader synthetic before).2 l id) :
  (run placement loader synthetic requests).1.Trusted
  := by
  induction requests using List.reverseRecOn with
  | nil =>
      intro id c hc
      cases (class?_empty loader synthetic id).symm.trans hc
  | append_singleton before request ih =>
      -- The bootstraps of the shorter run are among those of the whole one.
      have hbefore := ih fun earlier l id hearlier =>
        hvain earlier l id (hearlier.trans (List.prefix_append before [request]))
      have hr := indexed_run placement loader synthetic before
      rw [run_concat]
      rcases bootstrap_or_advance _ (run placement loader synthetic before).2 request with
        ⟨l, rfl⟩ | hadvance
      · apply hbefore.bootstrap hr
        intro id
        apply hvain before l id (List.prefix_refl _)
      · apply hbefore.earned (hadvance.marksEarned hr) hadvance.extends hr
        apply hr.perform

/-- Marks are right all along a run exactly when no bootstrap of the run leaves one in
vain.  In any case every class with a method can be resolved; and a class can be resolved
exactly when its interfaces are defined and the chain above it ends. -/
theorem marks_trusted_iff (requests : List Request) :
  ((∀ before, before <+: requests → (run placement loader synthetic before).1.Trusted) ↔
    ∀ before l id, before ++ [.bootstrap l] <+: requests →
      ¬ (run placement loader synthetic before).1.MarksInVain
        (run placement loader synthetic before).2 l id) ∧
  (run placement loader synthetic requests).1.BoundResolvable ∧
  (∀ id c, (run placement loader synthetic requests).1.class? id = some c →
    ((run placement loader synthetic requests).1.Resolvable id ↔
      (run placement loader synthetic requests).1.InterfacesDefined c ∧
        (run placement loader synthetic requests).1.ChainOutcome id none))
  := by
  refine ⟨?_, ?_, ?_⟩
  · constructor
    · intro htrusted before l id hpart hvain
      apply hvain.not_trusted (indexed_run placement loader synthetic before)
      have hafter := htrusted _ hpart
      rw [run_concat] at hafter
      apply hafter
    · intro hvain before hpart
      apply trusted_run
      intro earlier l id hearlier
      apply hvain earlier l id (hearlier.trans hpart)
  · apply boundResolvable_run
  · intro id c hc
    apply (indexed_run placement loader synthetic requests).resolvable_iff hc

end Run

/-- Requests that define a class below one that a later bootstrap defines, which fails as
another class of its template is below one that nothing defines. -/
def leftInVain : List Request :=
  [.defineClass "A" (some "T") .plain .dummy, .intern "B", .intern "M",
    .bootstrap { (default : Language) with
      template := [{ ty := ⟨⟨0⟩, ⟨4⟩⟩ },
        { ty := ⟨⟨0⟩, ⟨2⟩⟩, superclass := some ⟨⟨0⟩, ⟨13⟩⟩ }] }]

/-- A class may be marked as resolved although it cannot be. -/
theorem marked_class_unresolvable :
  ∃ c, (run .bySum ⟨0⟩ false leftInVain).1.class? ⟨0⟩ = some c ∧
    c.state = .hierarchyResolved ∧
    (run .bySum ⟨0⟩ false leftInVain).1.superclassOf ⟨0⟩
      = .error (.hierarchy ⟨1⟩ (.undefinedName ⟨4⟩))
  := by
  have hanswer : (run .bySum ⟨0⟩ false leftInVain).1.superclassOf ⟨0⟩
      = .error (.hierarchy ⟨1⟩ (.undefinedName ⟨4⟩)) := by
    decide +kernel
  have hstate : ((run .bySum ⟨0⟩ false leftInVain).1.class? ⟨0⟩).map (·.state)
      = some .hierarchyResolved := by
    decide +kernel
  obtain ⟨c, hc, hmark⟩ := Option.map_eq_some_iff.mp hstate
  use c, hc, hmark

end DialectIR.Registry
