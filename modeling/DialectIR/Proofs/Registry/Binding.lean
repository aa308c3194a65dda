import DialectIR.Proofs.Registry.Answers

/-!
# Bodies that are bound

A body is bound to a class once.  The class is asked for by its text: it must be there, must be
a code body, must have no method, and must have a hierarchy that can be resolved.  These are all
the conditions there are, and each has an error of its own, the first that applies.

A body that was bound is found by the text of its class from then on, whatever is requested
later, and keeps any other from being bound there.  For a class never loses its method or its
name, not even when a bootstrap is taken back.
-/

namespace DialectIR.Registry

/-- The class at a position has a text as its name. -/
structure NamedClass (r : Registry) (names : Interner) (text : String) (id : ClassId)
    (c : Class) : Prop where
  here : r.class? id = some c
  text : names.lookup? c.name = some text

/-- A class waits for its body: it is a code body that has no method, and its hierarchy can be
resolved. -/
structure Awaits (r : Registry) (names : Interner) (className : String) (id : ClassId)
    (c : Class) : Prop where
  named : r.NamedClass names className id c
  unbound : c.kind = .codeBody none
  resolvable : r.Resolvable id

/-- The errors with which a body is not bound to the class of a text. -/
inductive Refuses (r : Registry) (names : Interner) (className : String) :
    RegistryError → Prop where
  | unknownClass (h : ∀ id c, ¬ r.NamedClass names className id c) :
    Refuses r names className (.unknownClass r.loader className)
  | alreadyBound {id : ClassId} {c : Class} (hc : r.NamedClass names className id c)
    {m : MethodId} (hkind : c.kind = .codeBody (some m)) :
    Refuses r names className (.alreadyBound className)
  | notACodeBody {id : ClassId} {c : Class} (hc : r.NamedClass names className id c)
    (hkind : c.isCodeBody = false) : Refuses r names className (.notACodeBody className)
  | unresolved {id : ClassId} {c : Class} (hc : r.NamedClass names className id c)
    (hkind : c.kind = .codeBody none) {fault : HierarchyFault}
    (hup : r.superclassOf id = .error (.hierarchy c.name fault)) :
    Refuses r names className (.hierarchy c.name fault)

/-- The second registry has one more method than the first: it owns a body and belongs to a
class, which is bound to it.  Nothing else is different. -/
structure Attached (r : Registry) (names : Interner) (id : ClassId) (c : Class)
    (body : CodeBody) (m : Method) (s : Registry) : Prop where
  owner : m.owner = id
  body : m.body = body
  declaring : m.reference.declaring = c.ty
  selector : names.lookup? m.reference.selector = some codeBodySelector
  methods : s.methods = r.methods.push m
  bound : s.class? id
    = some { c with kind := .codeBody (some ⟨r.methods.size⟩), state := .bodyBound }
  others {other : ClassId} (hother : other ≠ id) : s.class? other = r.class? other
  rest : s = { r with classes := s.classes, methods := s.methods }

/-! ### Classes by text -/

theorem NamedClass.unique {r : Registry} {names : Interner} (hnames : names.Reached)
    (hr : r.Indexed) {text : String} {id other : ClassId} {c d : Class}
    (hc : r.NamedClass names text id c) (hd : r.NamedClass names text other d) :
  id = other ∧ c = d
  := by
  have hname : c.name = d.name := by
    have htext := hnames.lookup?_eq_some_iff.mp hc.text
    rw [hnames.lookup?_eq_some_iff.mp hd.text] at htext
    apply (Option.some.inj htext).symm
  have hid := hr.found hc.here
  rw [hname, hr.found hd.here] at hid
  obtain rfl := Option.some.inj hid
  use rfl
  apply Option.some.inj
  rw [← hc.here, hd.here]

/-- A text leads to the position of the class that has it as its name. -/
theorem Indexed.lookupClass?_eq_some_iff {r : Registry} (hr : r.Indexed) {names : Interner}
    (hnames : names.Reached) {text : String} {id : ClassId} :
  r.lookupClass? names text = some id ↔ ∃ c, r.NamedClass names text id c
  := by
  rw [lookupClass?, Option.bind_eq_some_iff]
  constructor
  · rintro ⟨n, hn, hid⟩
    obtain ⟨c, hc, rfl⟩ := hr.classId?_eq_some_iff.mp hid
    exact ⟨c, hc, hnames.lookup?_eq_some_iff.mpr hn⟩
  · rintro ⟨c, hc, htext⟩
    use c.name, hnames.lookup?_eq_some_iff.mp htext
    apply hr.found hc

theorem Indexed.lookupClass?_eq_none_iff {r : Registry} (hr : r.Indexed) {names : Interner}
    (hnames : names.Reached) {text : String} :
  r.lookupClass? names text = none ↔ ∀ id c, ¬ r.NamedClass names text id c
  := by
  rw [Option.eq_none_iff_forall_ne_some]
  constructor
  · intro hnone id c hc
    apply hnone id
    apply (hr.lookupClass?_eq_some_iff hnames).mpr ⟨c, hc⟩
  · intro hnot id hid
    obtain ⟨c, hc⟩ := (hr.lookupClass?_eq_some_iff hnames).mp hid
    apply hnot id c hc

/-! ### Outcomes -/

/-- The hierarchy of a class can be resolved, or there is a fault in it. -/
theorem Indexed.resolvable_or_fault {r : Registry} (hr : r.Indexed) {id : ClassId}
    {c : Class} (hc : r.class? id = some c) :
  r.Resolvable id ∨ ∃ fault, r.superclassOf id = .error (.hierarchy c.name fault)
  := by
  cases hup : r.superclassOf id with
  | ok superclass =>
      left
      use superclass
  | error e =>
      right
      have hanswer := hr.superclassOf_answer hc
      rw [hup] at hanswer
      cases hanswer with
      | undefinedInterface h => exact ⟨_, rfl⟩
      | fault hi h => exact ⟨_, rfl⟩

section

variable {r : Registry} (hr : r.Indexed) {names : Interner} (hnames : names.Reached)
  {className : String}

include hr hnames

theorem Indexed.refuses_or_awaits (className : String) :
  (∃ e, r.Refuses names className e) ∨ ∃ id c, r.Awaits names className id c
  := by
  cases hid : r.lookupClass? names className with
  | none =>
      left
      use .unknownClass r.loader className
      apply Refuses.unknownClass ((hr.lookupClass?_eq_none_iff hnames).mp hid)
  | some id =>
      obtain ⟨c, hc⟩ := (hr.lookupClass?_eq_some_iff hnames).mp hid
      cases hkind : c.kind with
      | plain =>
          left
          use .notACodeBody className
          apply Refuses.notACodeBody hc
          rw [Class.isCodeBody, hkind]
      | dynamicProperty =>
          left
          use .notACodeBody className
          apply Refuses.notACodeBody hc
          rw [Class.isCodeBody, hkind]
      | codeBody method =>
          cases method with
          | some m =>
              left
              use .alreadyBound className
              apply Refuses.alreadyBound hc hkind
          | none =>
              rcases hr.resolvable_or_fault hc.here with hresolvable | ⟨fault, hup⟩
              · right
                exact ⟨id, c, hc, hkind, hresolvable⟩
              · left
                use .hierarchy c.name fault
                apply Refuses.unresolved hc hkind hup

/-- A body that is refused changes nothing, and no text is interned. -/
theorem Refuses.bindCodeBody_eq {e : RegistryError} (h : r.Refuses names className e)
    (body : CodeBody) :
  r.bindCodeBody className body names = ((r, .error e), names)
  := by
  have hfound : ∀ {id c}, r.NamedClass names className id c →
      r.lookupClass? names className = some id :=
    fun hc => (hr.lookupClass?_eq_some_iff hnames).mpr ⟨_, hc⟩
  rw [bindCodeBody, InternM.bind_apply, InternM.get_apply]
  cases h with
  | unknownClass hnone =>
      simp only [(hr.lookupClass?_eq_none_iff hnames).mpr hnone]
      rfl
  | alreadyBound hc hkind =>
      simp only [hfound hc, hc.here, hkind]
      rfl
  | @notACodeBody id c hc hkind =>
      rw [Class.isCodeBody] at hkind
      cases hkind' : c.kind with
      | plain =>
          simp only [hfound hc, hc.here, hkind']
          rfl
      | dynamicProperty =>
          simp only [hfound hc, hc.here, hkind']
          rfl
      | codeBody method =>
          rw [hkind'] at hkind
          cases hkind
  | unresolved hc hkind hup =>
      simp only [hfound hc, hc.here, hkind, resolveSuperclass_eq_error.mpr ⟨hup, rfl⟩]
      rfl

/-- A class that waits for a body gets it. -/
theorem Awaits.bindCodeBody_eq {id : ClassId} {c : Class}
    (h : r.Awaits names className id c) {selector : Name}
    (hselector : names.get? codeBodySelector = some selector) (body : CodeBody) :
  r.bindCodeBody className body names
    = ((r.bound id c selector body, .ok ⟨r.methods.size⟩), names)
  := by
  obtain ⟨hc, hkind, superclass, hup⟩ := h
  have hfound := (hr.lookupClass?_eq_some_iff hnames).mpr ⟨c, hc⟩
  rw [bindCodeBody, InternM.bind_apply, InternM.get_apply]
  simp only [hfound, hc.here, hkind, resolveSuperclass_eq_ok.mpr ⟨hup, rfl⟩,
    InternM.bind_apply, InternM.intern_apply, Interner.tryIntern_of_get? hselector]
  rfl

/-- What is answered is a refusal that applies, or a body bound to the class that waits for
it. -/
theorem Indexed.bindCodeBody_cases {selector : Name}
    (hselector : names.get? codeBodySelector = some selector) (className : String)
    (body : CodeBody) :
  (∃ e, r.Refuses names className e ∧
      r.bindCodeBody className body names = ((r, .error e), names)) ∨
    ∃ id c, r.Awaits names className id c ∧ r.bindCodeBody className body names
      = ((r.bound id c selector body, .ok ⟨r.methods.size⟩), names)
  := by
  rcases hr.refuses_or_awaits hnames className with ⟨e, hrefuses⟩ | ⟨id, c, hawaits⟩
  · left
    use e, hrefuses, hrefuses.bindCodeBody_eq hr hnames body
  · right
    use id, c, hawaits, hawaits.bindCodeBody_eq hr hnames hselector body

theorem Indexed.bindCodeBody_eq_ok_iff {selector : Name}
    (hselector : names.get? codeBodySelector = some selector) {body : CodeBody}
    {place : MethodId} {s : Registry} {grown : Interner} :
  r.bindCodeBody className body names = ((s, .ok place), grown) ↔
    ∃ id c, r.Awaits names className id c ∧ place = ⟨r.methods.size⟩ ∧
      s = r.bound id c selector body ∧ grown = names
  := by
  constructor
  · intro hbind
    rcases hr.bindCodeBody_cases hnames hselector className body with
      ⟨e, -, hrefused⟩ | ⟨id, c, hawaits, hbound⟩
    · rw [hrefused] at hbind
      cases hbind
    · rw [hbound] at hbind
      cases hbind
      exact ⟨id, c, hawaits, rfl, rfl, rfl⟩
  · rintro ⟨id, c, hawaits, rfl, rfl, rfl⟩
    apply hawaits.bindCodeBody_eq hr hnames hselector body

theorem Indexed.bindCodeBody_eq_error_iff {selector : Name}
    (hselector : names.get? codeBodySelector = some selector) {body : CodeBody}
    {e : RegistryError} {s : Registry} {grown : Interner} :
  r.bindCodeBody className body names = ((s, .error e), grown) ↔
    r.Refuses names className e ∧ s = r ∧ grown = names
  := by
  constructor
  · intro hbind
    rcases hr.bindCodeBody_cases hnames hselector className body with
      ⟨e', hrefuses, hrefused⟩ | ⟨id, c, -, hbound⟩
    · rw [hrefused] at hbind
      cases hbind
      exact ⟨hrefuses, rfl, rfl⟩
    · rw [hbound] at hbind
      cases hbind
  · rintro ⟨hrefuses, rfl, rfl⟩
    apply hrefuses.bindCodeBody_eq hr hnames

theorem Refuses.perform_eq {e : RegistryError} (h : r.Refuses names className e)
    (body : CodeBody) :
  r.perform (.bindCodeBody className body) names = (r, names)
  := by
  change ((r.bindCodeBody className body names).1.1,
    (r.bindCodeBody className body names).2) = (r, names)
  rw [h.bindCodeBody_eq hr hnames]

end

theorem attached_bound {r : Registry} {names : Interner} (hnames : names.Reached)
    {selector : Name} (hselector : names.get? codeBodySelector = some selector) {id : ClassId}
    {c : Class} (hc : r.class? id = some c) (body : CodeBody) :
  r.Attached names id c body ⟨id, ⟨c.ty, selector⟩, body⟩ (r.bound id c selector body)
  := by
  constructor
  · rfl
  · rfl
  · rfl
  · apply hnames.lookup?_eq_some_iff.mpr hselector
  · rfl
  · rw [class?_bound r hc, if_pos rfl]
    rfl
  · intro other hother
    rw [class?_bound r hc, if_neg hother]
  · rfl

/-! ### From then on -/

theorem interned_performAll (r : Registry) (names : Interner) (requests : List Request) :
  ∃ texts, (r.performAll requests names).2 = names.internAll texts
  := by
  apply performAll_induct (P := fun _ grown => ∃ texts, grown = names.internAll texts) _ ⟨[], rfl⟩
  rintro s grown request ⟨texts, rfl⟩
  obtain ⟨more, hmore⟩ := s.interned_perform (names.internAll texts) request
  use texts ++ more
  rw [hmore, Interner.internAll_append]

/-- The class of a text has a method bound to it. -/
def Holds (r : Registry) (names : Interner) (className : String) (m : Method) : Prop :=
  ∃ id c place, r.NamedClass names className id c ∧ c.kind = .codeBody (some place) ∧
    r.method? place = some m

/-- A class keeps its text and its method, whatever is requested and interned. -/
theorem Retains.holds {r s : Registry} (h : r.Retains s) {names : Interner}
    (hnames : names.Reached) (texts : List String) {className : String} {m : Method}
    (hm : r.Holds names className m) :
  s.Holds (names.internAll texts) className m
  := by
  obtain ⟨id, c, place, ⟨hc, htext⟩, hkind, hmethod⟩ := hm
  obtain ⟨d, hd, hmatures⟩ := h.matured hc
  have hname : d.name = c.name := by
    rw [hmatures.alike]
    rfl
  refine ⟨id, d, place, ⟨hd, ?_⟩, ?_, h.method hmethod⟩
  · rw [hname, (hnames.internAll texts).lookup?_eq_some_iff]
    apply Interner.get?_internAll (hnames.lookup?_eq_some_iff.mp htext)
  · rcases hmatures.kind with hsame | ⟨hunbound, -⟩
    · rw [hsame, hkind]
    · rw [hkind] at hunbound
      cases hunbound

theorem Holds.codeBody?_eq {r : Registry} (hr : r.Indexed) {names : Interner}
    (hnames : names.Reached) {className : String} {m : Method}
    (h : r.Holds names className m) :
  r.codeBody? names className = some m
  := by
  obtain ⟨id, c, place, hc, hkind, hmethod⟩ := h
  have hfound := (hr.lookupClass?_eq_some_iff hnames).mpr ⟨c, hc⟩
  have hbody : c.body? = some place := by rw [Class.body?, hkind]
  simp [codeBody?, hfound, hc.here, hbody, hmethod]

theorem Holds.refuses {r : Registry} {names : Interner} {className : String} {m : Method}
    (h : r.Holds names className m) :
  r.Refuses names className (.alreadyBound className)
  := by
  obtain ⟨id, c, place, hc, hkind, -⟩ := h
  apply Refuses.alreadyBound hc hkind

theorem holds_bound {r : Registry} {names : Interner} {className : String} {id : ClassId}
    {c : Class} (hc : r.NamedClass names className id c) (selector : Name)
    (body : CodeBody) :
  (r.bound id c selector body).Holds names className ⟨id, ⟨c.ty, selector⟩, body⟩
  := by
  refine ⟨id, c.resolved.bind ⟨r.methods.size⟩, ⟨r.methods.size⟩, ⟨?_, hc.text⟩, rfl, ?_⟩
  · rw [class?_bound r hc.here, if_pos rfl]
  · rw [method?_bound, if_pos rfl]

/-- A body that is bound stays bound: the text of its class leads to its method, and any other
body is refused there. -/
theorem Holds.performAll {r : Registry} (hr : r.Indexed) {names : Interner}
    (hnames : names.Reached) {className : String} {m : Method} (h : r.Holds names className m)
    (requests : List Request) {s : Registry} {grown : Interner}
    (hrun : r.performAll requests names = (s, grown)) :
  s.codeBody? grown className = some m ∧
    ∀ body, s.bindCodeBody className body grown = ((s, .error (.alreadyBound className)), grown)
  := by
  have hretains := hr.retains_performAll names requests
  obtain ⟨hs, -⟩ := hr.extends_performAll names requests
  obtain ⟨texts, htexts⟩ := r.interned_performAll names requests
  rw [hrun] at hretains hs htexts
  subst htexts
  have hgrown := hnames.internAll texts
  have hholds := hretains.holds hnames texts h
  use hholds.codeBody?_eq hs hgrown
  apply hholds.refuses.bindCodeBody_eq hs hgrown

/-- A body is bound to the class of a text exactly if there is one and it waits for its body.
Then one method comes after those that there were, and it is that of the class; from then on
the text leads to it, and whatever is requested in the meantime, no other body is bound there.
Otherwise the first reason that applies is answered, and nothing changes. -/
theorem bindCodeBody_outcome {r : Registry} {names : Interner} (hr : r.Reachable names)
    (className : String) (body : CodeBody) :
  ((∃ id s, r.bindCodeBody className body names = ((s, .ok id), names)) ↔
    ∃ id c, r.Awaits names className id c) ∧
  (∀ place s grown, r.bindCodeBody className body names = ((s, .ok place), grown) →
    grown = names ∧ place = ⟨r.methods.size⟩ ∧
    ∃ id c m, r.Awaits names className id c ∧ r.Attached names id c body m s ∧
      ∀ requests t later, s.performAll requests names = (t, later) →
        t.codeBody? later className = some m ∧
        ∀ body', t.bindCodeBody className body' later
          = ((t, .error (.alreadyBound className)), later)) ∧
  (∀ e s grown, r.bindCodeBody className body names = ((s, .error e), grown) ↔
    r.Refuses names className e ∧ s = r ∧ grown = names) ∧
  (∀ e, r.Refuses names className e →
    r.perform (.bindCodeBody className body) names = (r, names))
  := by
  have hindexed := hr.indexed
  have hreached := hr.reached
  obtain ⟨selector, hselector, -⟩ := hr.bound
  refine ⟨?_, ?_, ?_, ?_⟩
  · constructor
    · rintro ⟨place, s, hbind⟩
      obtain ⟨id, c, hawaits, -⟩ :=
        (hindexed.bindCodeBody_eq_ok_iff hreached hselector).mp hbind
      exact ⟨id, c, hawaits⟩
    · rintro ⟨id, c, hawaits⟩
      exact ⟨_, _, hawaits.bindCodeBody_eq hindexed hreached hselector body⟩
  · intro place s grown hbind
    obtain ⟨id, c, hawaits, rfl, rfl, rfl⟩ :=
      (hindexed.bindCodeBody_eq_ok_iff hreached hselector).mp hbind
    use rfl, rfl, id, c, ⟨id, ⟨c.ty, selector⟩, body⟩, hawaits
    use attached_bound hreached hselector hawaits.named.here body
    intro requests t later hrun
    apply (holds_bound hawaits.named selector body).performAll (hindexed.bound id c selector body)
      hreached requests hrun
  · intro e s grown
    apply hindexed.bindCodeBody_eq_error_iff hreached hselector
  · intro e hrefuses
    apply hrefuses.perform_eq hindexed hreached

/-- A registry with a class, a code body below it, and a code body below a class that is not
defined. -/
def waiting : Registry × Interner :=
  (Registry.empty ⟨0⟩ false).performAll
    [.defineClass "A" none .plain .dummy,
      .intern "B",
      .defineCodeBody "f" "A" .dummy,
      .defineCodeBody "g" "M" .dummy]
    (Interner.initial .bySum)

theorem bindCodeBody_outcome_waiting :
  waiting.1.Reachable waiting.2 ∧
    (∃ s m t later, waiting.1.bindCodeBody "f" { cfg := {} } waiting.2
        = ((s, .ok ⟨0⟩), waiting.2) ∧
      m.owner = ⟨1⟩ ∧ s.performAll retrying waiting.2 = (t, later) ∧
      t.codeBody? later "f" = some m ∧
      t.bindCodeBody "f" { cfg := {} } later = ((t, .error (.alreadyBound "f")), later)) ∧
    waiting.1.bindCodeBody "g" { cfg := {} } waiting.2
      = ((waiting.1, .error (.hierarchy ⟨7⟩ (.undefinedName ⟨13⟩))), waiting.2) ∧
    waiting.1.bindCodeBody "A" { cfg := {} } waiting.2
      = ((waiting.1, .error (.notACodeBody "A")), waiting.2)
  := by
  have hr : waiting.1.Reachable waiting.2 := ⟨_, _, _, _, rfl⟩
  obtain ⟨hsucceeds, hbound, -, -⟩ := bindCodeBody_outcome hr "f" { cfg := {} }
  obtain ⟨-, -, hundefined, -⟩ := bindCodeBody_outcome hr "g" { cfg := {} }
  obtain ⟨-, -, hplain, -⟩ := bindCodeBody_outcome hr "A" { cfg := {} }
  have hf : waiting.1.Awaits waiting.2 "f" ⟨1⟩ _ :=
    ⟨⟨rfl, by decide +kernel⟩, rfl, some ⟨0⟩, by decide +kernel⟩
  have hg : waiting.1.NamedClass waiting.2 "g" ⟨2⟩ _ := ⟨rfl, by decide +kernel⟩
  have hA : waiting.1.NamedClass waiting.2 "A" ⟨0⟩ _ := ⟨rfl, by decide +kernel⟩
  refine ⟨hr, ?_, ?_, ?_⟩
  · obtain ⟨place, s, hs⟩ := hsucceeds.mpr ⟨_, _, hf⟩
    obtain ⟨-, rfl, id, c, m, hawaits, hattached, hlater⟩ := hbound place s _ hs
    obtain ⟨hfound, hagain⟩ := hlater retrying _ _ rfl
    obtain ⟨rfl, -⟩ := hf.named.unique hr.reached hr.indexed hawaits.named
    exact ⟨s, m, _, _, hs, hattached.owner, rfl, hfound, hagain _⟩
  · apply (hundefined _ _ _).mpr
    exact ⟨.unresolved hg rfl (by decide +kernel), rfl, rfl⟩
  · apply (hplain _ _ _).mpr
    exact ⟨.notACodeBody hA rfl, rfl, rfl⟩

end DialectIR.Registry
