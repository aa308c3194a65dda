import DialectIR.Proofs.Registry.Permanence

/-!
# Answers that stay

A registry looks up superclasses, interfaces and enclosing code bodies by name whenever it
is asked for them, while its names and classes grow in number.  What it found once it finds
again, as no name ever leads elsewhere.  A chain that ends keeps its end, and one that goes
on for ever still does, however many classes there are by then.

Only what was missing may turn up: a name that was not defined, a code body that was not
bound, or a method with a position that was not handed out.
-/

namespace DialectIR

/-- A method that is bound to a class stays bound to it as the class matures. -/
theorem Class.Matures.body? {c d : Class} (h : c.Matures d) {m : MethodId}
    (hm : c.body? = some m) :
  d.body? = some m
  := by
  rcases h.kind with hsame | ⟨hunbound, -⟩
  · rw [Class.body?, hsame]
    apply hm
  · rw [Class.body?, hunbound] at hm
    cases hm

namespace Registry

/-! ### Superclasses -/

theorem class?_or_noSuchClass (r : Registry) (id : ClassId) :
  (∃ c, r.class? id = some c) ∨ r.superclassOf id = .error (.noSuchClass r.loader id)
  := by
  rw [superclassOf]
  cases hc : r.class? id with
  | none => right; rfl
  | some c => left; use c

/-- The answer for a class with defined interfaces follows from what the chain above it
comes to. -/
theorem Indexed.superclassOf_of_outcome {r : Registry} (h : r.Indexed) {id : ClassId}
    {c : Class} (hc : r.class? id = some c) (hi : r.InterfacesDefined c)
    {outcome : Option HierarchyFault} (houtcome : r.ChainOutcome id outcome) :
  r.superclassOf id = r.answerOf id c outcome
  := by
  obtain ⟨n, hn, -⟩ | ⟨-, outcome', houtcome', hup⟩ :=
    (h.superclassOf_answer hc).interface_or_outcome hc
  · cases hi.not_firstUndefined hn
  · rw [hup, houtcome.unique houtcome']

/-- A chain comes to the same in an extension, unless a name is missing on it. -/
theorem Extends.chainOutcome_or_undefined {r s : Registry} (h : r.Extends s) {id : ClassId}
    {outcome : Option HierarchyFault} (houtcome : r.ChainOutcome id outcome) :
  s.ChainOutcome id outcome ∨ ∃ n, outcome = some (.undefinedName n)
  := by
  cases houtcome with
  | ends hk hd htop =>
      left
      apply h.chainOutcome (.ends hk hd htop)
  | @breaksOff k last d n hk hd hsuper hn =>
      right
      use n
  | endless hendless =>
      left
      apply ChainOutcome.endless
      intro k
      obtain ⟨d, hd⟩ := Option.isSome_iff_exists.mp (hendless k)
      rw [h.ancestor? hd]
      rfl

/-- A class below a chain that ends has the same superclass in an extension, or none as
before. -/
theorem Extends.parent?_eq {r s : Registry} (h : r.Extends s) {id : ClassId} {c : Class}
    (hc : r.class? id = some c) (hends : r.ChainOutcome id none) :
  s.parent? id = r.parent? id
  := by
  cases hp : r.parent? id with
  | some parent => apply h.parent? hp
  | none =>
      rcases r.localSuperclass_cases c with
        ⟨htop, -⟩ | ⟨n, parent, hsuper, hn, -⟩ | ⟨n, hsuper, hn, -⟩
      · obtain ⟨d, hd, hcd⟩ := h.kept hc
        apply parent?_of_isTop hd
        intro superclass hsuper
        rw [hcd] at hsuper
        rw [h.loader]
        apply htop superclass hsuper
      · rw [parent?_of_superclass hc hsuper, hn] at hp
        cases hp
      · -- The chain would break off at the name, but it ends.
        cases hends.unique (ChainOutcome.breaksOff (k := 0) rfl hc hsuper hn)

/-- The answer for a class is the same in an extension, unless a name is missing. -/
theorem Extends.superclassOf_or_undefined {r s : Registry} (h : r.Extends s)
    (hr : r.Indexed) (hs : s.Indexed) {id : ClassId} {c : Class} (hc : r.class? id = some c) :
  s.superclassOf id = r.superclassOf id ∨
    ∃ n, r.superclassOf id = .error (.hierarchy c.name (.undefinedName n))
  := by
  obtain ⟨n, -, hup⟩ | ⟨hi, outcome, houtcome, hup⟩ :=
    (hr.superclassOf_answer hc).interface_or_outcome hc
  · right
    use n
  · obtain ⟨d, hd, hcd⟩ := h.kept hc
    rcases h.chainOutcome_or_undefined houtcome with hsame | ⟨n, rfl⟩
    · left
      rw [hup, hs.superclassOf_of_outcome hd (h.interfacesDefined hcd hi) hsame]
      cases outcome with
      | none => rw [answerOf, answerOf, h.parent?_eq hc houtcome]
      | some fault => rw [answerOf, answerOf, hcd, Class.name, Class.name]
    · right
      use n
      rw [hup, answerOf]

/-! ### Enclosing code bodies -/

section

variable {α β ε : Type} {f : α → Except ε β}

/-- A list of answers is one answer for each entry. -/
theorem mapM_eq_ok_iff {xs : List α} {ys : List β} :
  xs.mapM f = .ok ys ↔ List.Forall₂ (fun x y => f x = .ok y) xs ys
  := by
  induction xs generalizing ys with
  | nil => simp [pure, Except.pure, eq_comm]
  | cons x rest ih =>
      rw [List.mapM_cons, List.forall₂_cons_left_iff]
      cases hx : f x with
      | error e => simp [bind, Except.bind]
      | ok y =>
          cases hrest : rest.mapM f with
          | error e => simp [bind, Except.bind, ← ih, hrest]
          | ok ys' => simp [bind, Except.bind, pure, Except.pure, ← ih, hrest, eq_comm]

/-- A list of answers fails as the first entry does that has none. -/
theorem mapM_eq_error {xs : List α} {e : ε} (h : xs.mapM f = .error e) :
  ∃ before x after, xs = before ++ x :: after ∧ f x = .error e ∧
    ∀ y ∈ before, ∃ z, f y = .ok z
  := by
  induction xs with
  | nil => cases h
  | cons x rest ih =>
      rw [List.mapM_cons] at h
      cases hx : f x with
      | error e' =>
          rw [hx] at h
          cases h
          use [], x, rest, rfl, hx
          simp
      | ok y =>
          cases hrest : rest.mapM f with
          | error e' =>
              rw [hx, hrest] at h
              cases h
              obtain ⟨before, z, after, rfl, hz, hbefore⟩ := ih hrest
              use x :: before, z, after, rfl, hz
              simpa [hx] using hbefore
          | ok ys =>
              rw [hx, hrest] at h
              cases h

end

/-- The method bound to the class of a name. -/
def boundTo? (r : Registry) (n : Name) : Option MethodId := (r.classNamed? n).bind Class.body?

theorem Retains.boundTo? {r s : Registry} (h : r.Retains s) {n : Name} {m : MethodId}
    (hm : r.boundTo? n = some m) :
  s.boundTo? n = some m
  := by
  simp only [Registry.boundTo?, classNamed?, Option.bind_eq_some_iff] at hm ⊢
  obtain ⟨c, ⟨id, hn, hc⟩, hbody⟩ := hm
  obtain ⟨d, hd, hcd⟩ := h.matured hc
  exact ⟨d, ⟨id, h.found hn, hd⟩, hcd.body? hbody⟩

/-- The entry for one enclosing code body of a method. -/
def lexicalParent (r : Registry) (m : Method) (n : Name) : Except RegistryError LexicalParent :=
  match r.boundTo? n with
  | some method => .ok ⟨n, method⟩
  | none => .error (r.missingParent m n)

theorem lexicalParent_eq_ok_iff {r : Registry} {m : Method} {n : Name}
    {parent : LexicalParent} :
  r.lexicalParent m n = .ok parent ↔ parent.name = n ∧ r.boundTo? n = some parent.method
  := by
  obtain ⟨name, method⟩ := parent
  rw [lexicalParent]
  cases r.boundTo? n with
  | none => simp
  | some bound => simp [eq_comm]

theorem lexicalParents_eq {r : Registry} {id : MethodId} {m : Method}
    (hm : r.method? id = some m) :
  r.lexicalParents id = m.scopingParents.mapM (r.lexicalParent m)
  := by
  simp only [lexicalParents, hm]
  rfl

/-- A method whose scoping parent is missing is reported by the name of its class. -/
theorem missingParent_eq {r : Registry} {m : Method} {c : Class} (hc : r.class? m.owner = some c)
    (n : Name) :
  r.missingParent m n = .missingLexicalParent c.name n
  := by
  rw [missingParent, hc]

/-- The enclosing code bodies of a method are those that its scoping parents are bound
to. -/
theorem lexicalParents_eq_ok_iff {r : Registry} {id : MethodId}
    {parents : List LexicalParent} :
  r.lexicalParents id = .ok parents ↔ ∃ m, r.method? id = some m ∧
    List.Forall₂ (fun n parent => parent.name = n ∧ r.boundTo? n = some parent.method)
      m.scopingParents parents
  := by
  cases hm : r.method? id with
  | none => simp [lexicalParents, hm]
  | some m => simp [lexicalParents_eq hm, mapM_eq_ok_iff, lexicalParent_eq_ok_iff]

/-- Enclosing code bodies are missing if the position is not that of a method, or if one of
the scoping parents is not bound. -/
theorem lexicalParents_eq_error {r : Registry} {id : MethodId} {e : RegistryError}
    (h : r.lexicalParents id = .error e) :
  r.method? id = none ∧ e = .unknownMethod r.loader id ∨
    ∃ m before n after, r.method? id = some m ∧ m.scopingParents = before ++ n :: after ∧
      r.boundTo? n = none ∧ (∀ n' ∈ before, (r.boundTo? n').isSome) ∧
      e = r.missingParent m n
  := by
  cases hm : r.method? id with
  | none =>
      left
      rw [lexicalParents, hm] at h
      cases h
      exact ⟨rfl, rfl⟩
  | some m =>
      right
      rw [lexicalParents_eq hm] at h
      obtain ⟨before, n, after, hsplit, hn, hbefore⟩ := mapM_eq_error h
      rw [lexicalParent] at hn
      cases hbound : r.boundTo? n with
      | some method =>
          rw [hbound] at hn
          cases hn
      | none =>
          rw [hbound] at hn
          cases hn
          refine ⟨m, before, n, after, rfl, hsplit, hbound, ?_, rfl⟩
          intro n' hn'
          obtain ⟨parent, hparent⟩ := hbefore n' hn'
          rw [(lexicalParent_eq_ok_iff.mp hparent).2]
          rfl

/-- The enclosing code bodies that were found are found again. -/
theorem Retains.lexicalParents {r s : Registry} (h : r.Retains s) {id : MethodId}
    {parents : List LexicalParent} (hparents : r.lexicalParents id = .ok parents) :
  s.lexicalParents id = .ok parents
  := by
  obtain ⟨m, hm, hall⟩ := lexicalParents_eq_ok_iff.mp hparents
  apply lexicalParents_eq_ok_iff.mpr
  use m, h.method hm
  apply hall.imp
  rintro n parent ⟨hname, hbound⟩
  use hname, h.boundTo? hbound

/-! ### Later answers -/

/-- A registry stays one that indexes its classes, and extends what it was, whatever is
requested of it. -/
theorem Indexed.extends_performAll {r : Registry} (h : r.Indexed) (names : Interner)
    (requests : List Request) :
  (r.performAll requests names).1.Indexed ∧ r.Extends (r.performAll requests names).1
  := by
  have hstep : ∀ names s t, s.Indexed → r.Extends s → Change names s t → r.Extends t :=
    fun names s t hs hextends hchange => hextends.trans (hs.extends_change hchange)
  apply h.performAll_induct hstep r.extends_self names requests

/-- Whatever is requested of a registry that comes about, and whether it is met or refused:
a superclass that was found is found again, as is that there is none; a chain that was
cyclic still is; and the enclosing code bodies that were found are found again.  The answer
for a class changes only if a name was missing, and the one for a method only if a scoping
parent had no bound code body or if the position was not that of a method. -/
theorem answers_permanent {r : Registry} {names : Interner} (hr : r.Reachable names)
    (requests : List Request) {s : Registry} (hs : (r.performAll requests names).1 = s) :
  (∀ id superclass, r.superclassOf id = .ok superclass → s.superclassOf id = .ok superclass) ∧
  (∀ id n, r.superclassOf id = .error (.hierarchy n .cycle) →
    s.superclassOf id = .error (.hierarchy n .cycle)) ∧
  (∀ id parents, r.lexicalParents id = .ok parents → s.lexicalParents id = .ok parents) ∧
  (∀ id c, r.class? id = some c → s.superclassOf id ≠ r.superclassOf id →
    ∃ n, r.superclassOf id = .error (.hierarchy c.name (.undefinedName n))) ∧
  (∀ id, s.lexicalParents id ≠ r.lexicalParents id →
    (∃ n parent, r.lexicalParents id = .error (.missingLexicalParent n parent)) ∨
    r.method? id = none ∧ r.lexicalParents id = .error (.unknownMethod r.loader id))
  := by
  have hretains := hr.indexed.retains_performAll names requests
  obtain ⟨hindexed, hextends⟩ := hr.indexed.extends_performAll names requests
  rw [hs] at hretains hindexed hextends
  have hsuper : ∀ id c, r.class? id = some c → s.superclassOf id = r.superclassOf id ∨
      ∃ n, r.superclassOf id = .error (.hierarchy c.name (.undefinedName n)) :=
    fun id c hc => hextends.superclassOf_or_undefined hr.indexed hindexed hc
  refine ⟨?_, ?_, fun id parents => hretains.lexicalParents, ?_, ?_⟩
  · intro id superclass hup
    obtain ⟨c, hc⟩ := Resolvable.class? ⟨superclass, hup⟩
    rcases hsuper id c hc with hsame | ⟨n, hn⟩
    · rw [hsame, hup]
    · rw [hup] at hn
      cases hn
  · intro id n hup
    rcases r.class?_or_noSuchClass id with ⟨c, hc⟩ | hnone
    · rcases hsuper id c hc with hsame | ⟨m, hm⟩
      · rw [hsame, hup]
      · rw [hup] at hm
        cases hm
    · rw [hup] at hnone
      cases hnone
  · intro id c hc hchanged
    rcases hsuper id c hc with hsame | hundefined
    · cases hchanged hsame
    · apply hundefined
  · intro id hchanged
    cases hparents : r.lexicalParents id with
    | ok parents =>
        rw [hparents, hretains.lexicalParents hparents] at hchanged
        cases hchanged rfl
    | error e =>
        obtain ⟨hnone, rfl⟩ | ⟨m, -, n, -, hm, -, -, -, rfl⟩ := lexicalParents_eq_error hparents
        · right
          use hnone
        · left
          obtain ⟨selector, -, hbound⟩ := hr.bound
          obtain ⟨c, hc, -⟩ := hbound.owner hm
          use c.name, n
          rw [missingParent_eq hc]

/-- A registry with a code body inside another, below which it lies as well, and two classes
that are each the superclass of the other. -/
def nestedBodies : Registry × Interner :=
  (Registry.empty ⟨0⟩ false).performAll
    [.defineClass "A" none .plain .dummy,
      .intern "B",
      .intern "M",
      .defineCodeBody "f" "A" .dummy,
      .bindCodeBody "f" { cfg := {} },
      .defineCodeBody "g" "f" .dummy,
      .bindCodeBody "g" { cfg := {}, lexical := { parents := [⟨6⟩] } },
      .defineClass "P" (some "Q") .plain .dummy,
      .defineClass "Q" (some "P") .plain .dummy]
    (Interner.initial .bySum)

/-- A bootstrap that is taken back, and one that defines its class above the same name. -/
def bootstrappedTwice : List Request :=
  [.bootstrap dangling, .defineClass "M" none .plain .dummy, .bootstrap dangling]

theorem answers_permanent_nestedBodies :
  nestedBodies.1.Reachable nestedBodies.2 ∧
    (nestedBodies.1.performAll bootstrappedTwice nestedBodies.2).1.superclassOf ⟨2⟩
      = .ok (some ⟨1⟩) ∧
    (nestedBodies.1.performAll bootstrappedTwice nestedBodies.2).1.superclassOf ⟨3⟩
      = .error (.hierarchy ⟨16⟩ .cycle) ∧
    (nestedBodies.1.performAll bootstrappedTwice nestedBodies.2).1.lexicalParents ⟨1⟩
      = .ok [⟨⟨6⟩, ⟨0⟩⟩]
  := by
  have hr : nestedBodies.1.Reachable nestedBodies.2 := ⟨_, _, _, _, Prod.mk.eta.symm⟩
  obtain ⟨hsuper, hcycle, hparents, -, -⟩ := answers_permanent hr bootstrappedTwice rfl
  have hbelow : nestedBodies.1.superclassOf ⟨2⟩ = .ok (some ⟨1⟩) := by decide +kernel
  have hcyclic : nestedBodies.1.superclassOf ⟨3⟩ = .error (.hierarchy ⟨16⟩ .cycle) := by
    decide +kernel
  have hinside : nestedBodies.1.lexicalParents ⟨1⟩ = .ok [⟨⟨6⟩, ⟨0⟩⟩] := by decide +kernel
  exact ⟨hr, hsuper ⟨2⟩ _ hbelow, hcycle ⟨3⟩ _ hcyclic, hparents ⟨1⟩ _ hinside⟩

/-- A registry with a code body that has no method. -/
def noMethod : Registry × Interner :=
  (Registry.empty ⟨0⟩ false).performAll
    [.defineClass "A" none .plain .dummy, .defineCodeBody "f" "A" .dummy]
    (Interner.initial .bySum)

/-- A method that is unknown may be known later, when its position was handed out. -/
theorem unknown_method_becomes_known :
  noMethod.1.Reachable noMethod.2 ∧
    noMethod.1.lexicalParents ⟨0⟩ = .error (.unknownMethod ⟨0⟩ ⟨0⟩) ∧
    (noMethod.1.performAll [.bindCodeBody "f" { cfg := {} }] noMethod.2).1.lexicalParents ⟨0⟩
      = .ok []
  := ⟨⟨_, _, _, _, rfl⟩, rfl, rfl⟩

end Registry

end DialectIR
