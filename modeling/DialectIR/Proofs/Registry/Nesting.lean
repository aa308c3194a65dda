import DialectIR.Proofs.Registry.Reordering

/-!
# Enclosing code bodies

A code body names those that it is nested in by their classes.  These names lead through the
index to classes and from there to methods, and the methods lead back to the same classes, as
each method has one class and each class one method at most.

So a method has its enclosing code bodies if a body is bound to each name, one entry for each,
in order.  Otherwise the first name to which none is bound is missing: there may be no class of
that name, or one that is no code body, or one that still has no method.
-/

namespace DialectIR

/-- A class has no method if it is no code body, or one that is not bound. -/
theorem Class.body?_eq_none_iff {c : Class} :
  c.body? = none ↔ c.isCodeBody = false ∨ c.kind = .codeBody none
  := by
  unfold Class.body? Class.isCodeBody
  cases c.kind with
  | plain => simp
  | dynamicProperty => simp
  | codeBody body => simp

namespace Registry

/-- The class of a name has a method bound to it. -/
def HasBody (r : Registry) (n : Name) (place : MethodId) : Prop :=
  ∃ c ∈ r.classes, c.name = n ∧ c.body? = some place

/-- No method is bound to a name. -/
inductive LacksBody (r : Registry) (n : Name) : Prop where
  | undefined (h : ∀ c ∈ r.classes, c.name ≠ n)
  | notACodeBody {c : Class} (hc : c ∈ r.classes) (hname : c.name = n)
    (hkind : c.isCodeBody = false)
  | unbound {c : Class} (hc : c ∈ r.classes) (hname : c.name = n)
    (hkind : c.kind = .codeBody none)

/-- An entry for an enclosing code body leads to a method, and from it to a class that has the
name of the entry and that method. -/
def Encloses (r : Registry) (parent : LexicalParent) : Prop :=
  ∃ m c, r.method? parent.method = some m ∧ r.class? m.owner = some c ∧
    c.name = parent.name ∧ c.body? = some parent.method

/-! ### Methods by name -/

theorem Indexed.boundTo?_eq_some_iff {r : Registry} (h : r.Indexed) {n : Name}
    {place : MethodId} :
  r.boundTo? n = some place ↔ r.HasBody n place
  := by
  rw [boundTo?, Option.bind_eq_some_iff]
  constructor
  · rintro ⟨c, hc, hbody⟩
    obtain ⟨hname, hmem⟩ := h.classNamed?_eq_some_iff.mp hc
    use c, hmem, hname, hbody
  · rintro ⟨c, hmem, hname, hbody⟩
    use c, h.classNamed?_eq_some_iff.mpr ⟨hname, hmem⟩, hbody

theorem Indexed.boundTo?_eq_none_iff {r : Registry} (h : r.Indexed) {n : Name} :
  r.boundTo? n = none ↔ r.LacksBody n
  := by
  constructor
  · intro hnone
    cases hc : r.classNamed? n with
    | none =>
        apply LacksBody.undefined
        intro c hmem hname
        rw [h.classNamed?_eq_some_iff.mpr ⟨hname, hmem⟩] at hc
        cases hc
    | some c =>
        obtain ⟨hname, hmem⟩ := h.classNamed?_eq_some_iff.mp hc
        rw [boundTo?, hc, Option.bind_some] at hnone
        rcases Class.body?_eq_none_iff.mp hnone with hkind | hkind
        · apply LacksBody.notACodeBody hmem hname hkind
        · apply LacksBody.unbound hmem hname hkind
  · intro hlacks
    rw [boundTo?, Option.bind_eq_none_iff]
    intro c hc
    obtain ⟨hname, hmem⟩ := h.classNamed?_eq_some_iff.mp hc
    -- Whichever class of the name lacks a method, it is the one that is found.
    have hsame : ∀ d ∈ r.classes, d.name = n → d = c := by
      intro d hd hdn
      rw [h.classNamed?_eq_some_iff.mpr ⟨hdn, hd⟩] at hc
      apply Option.some.inj hc
    cases hlacks with
    | undefined hundefined => cases hundefined c hmem hname
    | notACodeBody hd hdn hkind =>
        obtain rfl := hsame _ hd hdn
        apply Class.body?_eq_none_iff.mpr (.inl hkind)
    | unbound hd hdn hkind =>
        obtain rfl := hsame _ hd hdn
        apply Class.body?_eq_none_iff.mpr (.inr hkind)

/-- The method bound to a name belongs to the class of that name. -/
theorem Bound.encloses {selector : Name} {r : Registry} (h : r.Bound selector)
    {parent : LexicalParent} (hparent : r.HasBody parent.name parent.method) :
  r.Encloses parent
  := by
  obtain ⟨c, hmem, hname, hbody⟩ := hparent
  obtain ⟨id, hc⟩ := mem_classes_iff.mp hmem
  obtain ⟨m, hm, rfl⟩ := h.method hc hbody
  exact ⟨m, c, hm, hc, hname, hbody⟩

/-! ### Lists of enclosing code bodies -/

/-- A list of answers fails as the first entry that has none does. -/
theorem mapM_append_of_error {α β ε : Type} {f : α → Except ε β} {x : α} {e : ε}
    (hx : f x = .error e) {before : List α} (hbefore : ∀ y ∈ before, ∃ z, f y = .ok z)
    (after : List α) :
  (before ++ x :: after).mapM f = .error e
  := by
  induction before with
  | nil =>
      rw [List.nil_append, List.mapM_cons, hx]
      rfl
  | cons y rest ih =>
      obtain ⟨⟨z, hz⟩, hrest⟩ := List.forall_mem_cons.mp hbefore
      rw [List.cons_append, List.mapM_cons, hz, ih hrest]
      rfl

/-- Enclosing code bodies that are answered have the names of the scoping parents, in order,
and the methods that are bound to these. -/
theorem names_of_lexicalParents {r : Registry} {id : MethodId} {m : Method}
    (hm : r.method? id = some m) {parents : List LexicalParent}
    (hparents : r.lexicalParents id = .ok parents) :
  parents.map (·.name) = m.scopingParents ∧
    ∀ parent ∈ parents, r.boundTo? parent.name = some parent.method
  := by
  obtain ⟨m', hm', hall⟩ := lexicalParents_eq_ok_iff.mp hparents
  rw [hm] at hm'
  obtain rfl := Option.some.inj hm'
  clear hparents hm hm'
  generalize m.scopingParents = names at hall ⊢
  induction hall with
  | nil => simp
  | @cons n parent rest parents hparent hall ih =>
      obtain ⟨rfl, hbound⟩ := hparent
      obtain ⟨hnames, hbodies⟩ := ih
      rw [List.map_cons, hnames, List.forall_mem_cons]
      use rfl, hbound

/-- The first name to which no body is bound is missing. -/
theorem lexicalParents_eq_error_iff {r : Registry} {id : MethodId} {m : Method}
    (hm : r.method? id = some m) {e : RegistryError} :
  r.lexicalParents id = .error e ↔ ∃ before n after,
    m.scopingParents = before ++ n :: after ∧
    (∀ n' ∈ before, ∃ place, r.boundTo? n' = some place) ∧ r.boundTo? n = none ∧
    e = r.missingParent m n
  := by
  constructor
  · intro herror
    obtain ⟨hnone, -⟩ | ⟨m', before, n, after, hm', hsplit, hn, hbefore, he⟩ :=
      lexicalParents_eq_error herror
    · rw [hm] at hnone
      cases hnone
    · rw [hm] at hm'
      cases hm'
      refine ⟨before, n, after, hsplit, ?_, hn, he⟩
      intro n' hn'
      apply Option.isSome_iff_exists.mp (hbefore n' hn')
  · rintro ⟨before, n, after, hsplit, hbefore, hn, rfl⟩
    have hmissing : r.lexicalParent m n = .error (r.missingParent m n) := by
      rw [lexicalParent, hn]
    rw [lexicalParents_eq hm, hsplit]
    apply mapM_append_of_error hmissing
    intro n' hn'
    obtain ⟨place, hplace⟩ := hbefore n' hn'
    exact ⟨⟨n', place⟩, lexicalParent_eq_ok_iff.mpr ⟨rfl, hplace⟩⟩

/-- Enclosing code bodies are answered exactly if a body is bound to each name. -/
theorem exists_lexicalParents_iff {r : Registry} {id : MethodId} {m : Method}
    (hm : r.method? id = some m) :
  (∃ parents, r.lexicalParents id = .ok parents) ↔
    ∀ n ∈ m.scopingParents, ∃ place, r.boundTo? n = some place
  := by
  constructor
  · rintro ⟨parents, hparents⟩ n hn
    obtain ⟨hnames, hall⟩ := names_of_lexicalParents hm hparents
    rw [← hnames] at hn
    obtain ⟨parent, hparent, rfl⟩ := List.mem_map.mp hn
    exact ⟨parent.method, hall parent hparent⟩
  · intro hall
    cases hparents : r.lexicalParents id with
    | ok parents => use parents
    | error e =>
        obtain ⟨before, n, after, hsplit, -, hn, -⟩ := (lexicalParents_eq_error_iff hm).mp hparents
        obtain ⟨place, hplace⟩ := hall n (by simp [hsplit])
        rw [hn] at hplace
        cases hplace

theorem lexicalParents_eq_unknown_iff {r : Registry} {id : MethodId} :
  r.lexicalParents id = .error (.unknownMethod r.loader id) ↔ r.methods.size ≤ id.index
  := by
  rw [← Array.getElem?_eq_none_iff, ← method?]
  constructor
  · intro hunknown
    obtain ⟨hnone, -⟩ | ⟨m, before, n, after, -, -, -, -, he⟩ := lexicalParents_eq_error hunknown
    · apply hnone
    · rw [missingParent] at he
      split at he
      · cases he
      · cases he
  · intro hnone
    rw [lexicalParents, hnone]

/-- The question for the enclosing code bodies of a method fails for a position that is not
that of a method.  For the others it is answered exactly if a body is bound to the name of each
scoping parent, and then by an entry for each of them in order, with the name and the method of
its class.  Otherwise the first scoping parent is missing to which no body is bound, and the
error has its name and that of the class of the method. -/
theorem lexicalParents_outcome {r : Registry} {names : Interner} (hr : r.Reachable names)
    (id : MethodId) :
  (r.lexicalParents id = .error (.unknownMethod r.loader id) ↔ r.methods.size ≤ id.index) ∧
  (∀ m, r.method? id = some m →
    ((∃ parents, r.lexicalParents id = .ok parents) ↔
      ∀ n ∈ m.scopingParents, ∃ place, r.HasBody n place) ∧
    (∀ parents, r.lexicalParents id = .ok parents →
      parents.map (·.name) = m.scopingParents ∧ ∀ parent ∈ parents, r.Encloses parent) ∧
    ∀ e, r.lexicalParents id = .error e ↔ ∃ before n after c,
      m.scopingParents = before ++ n :: after ∧
      (∀ n' ∈ before, ∃ place, r.HasBody n' place) ∧ r.LacksBody n ∧
      r.class? m.owner = some c ∧ e = .missingLexicalParent c.name n)
  := by
  have hindexed := hr.indexed
  obtain ⟨selector, -, hbound⟩ := hr.bound
  simp only [← hindexed.boundTo?_eq_some_iff, ← hindexed.boundTo?_eq_none_iff]
  use lexicalParents_eq_unknown_iff
  intro m hm
  obtain ⟨c, hc, -⟩ := hbound.owner hm
  refine ⟨exists_lexicalParents_iff hm, ?_, ?_⟩
  · intro parents hparents
    obtain ⟨hnames, hall⟩ := names_of_lexicalParents hm hparents
    use hnames
    intro parent hparent
    apply hbound.encloses
    apply hindexed.boundTo?_eq_some_iff.mp (hall parent hparent)
  · intro e
    rw [lexicalParents_eq_error_iff hm]
    constructor
    · rintro ⟨before, n, after, hsplit, hbefore, hn, rfl⟩
      exact ⟨before, n, after, c, hsplit, hbefore, hn, hc, missingParent_eq hc n⟩
    · rintro ⟨before, n, after, d, hsplit, hbefore, hn, hd, rfl⟩
      exact ⟨before, n, after, hsplit, hbefore, hn, (missingParent_eq hd n).symm⟩

/-- A registry with a code body that names itself twice, one that has no method, and one that
names both of them and a class that is no code body. -/
def nesting : Registry × Interner :=
  (Registry.empty ⟨0⟩ false).performAll
    [.defineClass "A" none .plain .dummy,
      .defineCodeBody "f" "A" .dummy,
      .bindCodeBody "f" { cfg := {}, lexical := { parents := [⟨6⟩, ⟨6⟩] } },
      .defineCodeBody "g" "A" .dummy,
      .defineCodeBody "h" "A" .dummy,
      .bindCodeBody "h" { cfg := {}, lexical := { parents := [⟨6⟩, ⟨7⟩, ⟨1⟩] } }]
    (Interner.initial .bySum)

theorem lexicalParents_outcome_nesting :
  nesting.1.Reachable nesting.2 ∧
    (∃ parents, nesting.1.lexicalParents ⟨0⟩ = .ok parents ∧
      parents.map (·.name) = [⟨6⟩, ⟨6⟩] ∧ ∀ parent ∈ parents, nesting.1.Encloses parent) ∧
    nesting.1.lexicalParents ⟨1⟩ = .error (.missingLexicalParent ⟨8⟩ ⟨7⟩) ∧
    nesting.1.lexicalParents ⟨2⟩ = .error (.unknownMethod ⟨0⟩ ⟨2⟩)
  := by
  have hr : nesting.1.Reachable nesting.2 := ⟨_, _, _, _, Prod.mk.eta.symm⟩
  obtain ⟨-, hfirst⟩ := lexicalParents_outcome hr ⟨0⟩
  obtain ⟨-, hsecond⟩ := lexicalParents_outcome hr ⟨1⟩
  obtain ⟨hunknown, -⟩ := lexicalParents_outcome hr ⟨2⟩
  have hown : (nesting.1.method? ⟨0⟩).map (·.scopingParents) = some [⟨6⟩, ⟨6⟩] := by
    decide +kernel
  have hothers : (nesting.1.method? ⟨1⟩).map (·.scopingParents) = some [⟨6⟩, ⟨7⟩, ⟨1⟩] := by
    decide +kernel
  have howner : ((nesting.1.method? ⟨1⟩).bind fun m => nesting.1.class? m.owner).map (·.name)
      = some ⟨8⟩ := by
    decide +kernel
  obtain ⟨f, hfmethod, hfparents⟩ := Option.map_eq_some_iff.mp hown
  obtain ⟨h, hhmethod, hhparents⟩ := Option.map_eq_some_iff.mp hothers
  rw [hhmethod, Option.bind_some] at howner
  obtain ⟨c, hc, hname⟩ := Option.map_eq_some_iff.mp howner
  obtain ⟨hanswered, hlisted, -⟩ := hfirst f hfmethod
  obtain ⟨-, -, hmissing⟩ := hsecond h hhmethod
  have hf : nesting.1.HasBody ⟨6⟩ ⟨0⟩ := by
    apply hr.indexed.boundTo?_eq_some_iff.mp
    decide +kernel
  have hg : nesting.1.LacksBody ⟨7⟩ := by
    apply hr.indexed.boundTo?_eq_none_iff.mp
    decide +kernel
  refine ⟨hr, ?_, ?_, hunknown.mpr (by decide +kernel)⟩
  · have hself : ∀ n ∈ f.scopingParents, ∃ place, nesting.1.HasBody n place := by
      intro n hn
      obtain rfl : n = ⟨6⟩ := by simpa [hfparents] using hn
      exact ⟨⟨0⟩, hf⟩
    obtain ⟨parents, hparents⟩ := hanswered.mpr hself
    obtain ⟨hnames, hencloses⟩ := hlisted parents hparents
    exact ⟨parents, hparents, hnames.trans hfparents, hencloses⟩
  · apply (hmissing _).mpr
    refine ⟨[⟨6⟩], ⟨7⟩, [⟨1⟩], c, hhparents, ?_, hg, hc, by rw [hname]⟩
    intro n hn
    obtain rfl := List.mem_singleton.mp hn
    exact ⟨⟨0⟩, hf⟩

end Registry

end DialectIR
