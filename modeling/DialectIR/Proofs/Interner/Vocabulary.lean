import DialectIR.Proofs.Interner.Bijection

/-!
# Vocabularies

What is described in terms of texts depends on an interner only through the names of its
vocabulary.  Where the interner has room for the vocabulary, a description gets for each text
the name by which the interner knows it.  Such names are distinct for distinct texts, and stay
what they are when more texts are interned.
-/

namespace DialectIR.Interner

/-- No shard is full when one of the texts has to be added to it, one after the other. -/
def HasRoom (names : Interner) (texts : List String) : Prop :=
  names.NeverFull (texts.map .intern)

/-- The interner has the texts of a vocabulary under the names that a naming gives them. -/
def Knows (names : Interner) (naming : String → Name) (vocabulary : List String) : Prop :=
  ∀ text ∈ vocabulary, names.get? text = some (naming text)

/-! ### Room -/

theorem added_map_intern (texts : List String) :
  added (texts.map .intern) = texts
  := by
  simp [added, Call.added?, Function.comp_def]

theorem performAll_map_intern (names : Interner) (texts : List String) :
  names.performAll (texts.map .intern) = names.internAll texts
  := by
  rw [performAll_eq, added_map_intern]

/-- There is room for texts one after another if there is room for the first of them, and
then for the rest. -/
theorem hasRoom_append_iff {names : Interner} {texts more : List String} :
  names.HasRoom (texts ++ more) ↔ names.HasRoom texts ∧ (names.internAll texts).HasRoom more
  := by
  induction texts generalizing names with
  | nil => simp [HasRoom, NeverFull, internAll]
  | cons text rest ih =>
      have hcons : ∀ others, names.HasRoom (text :: others) ↔
          (∃ n, (names.tryIntern text).1 = .ok n) ∧
            (names.intern text).2.HasRoom others := by
        intro others
        simp [HasRoom, NeverFull, Call.added?, perform]
      rw [List.cons_append, hcons, hcons, ih, and_assoc]
      rfl

theorem hasRoom_cons_iff {names : Interner} {text : String} {texts : List String} :
  names.HasRoom (text :: texts) ↔
    names.HasRoom [text] ∧ (names.internAll [text]).HasRoom texts
  := by
  rw [← List.singleton_append]
  apply hasRoom_append_iff

theorem hasRoom_singleton_iff {names : Interner} {text : String} :
  names.HasRoom [text] ↔ ∃ n, (names.tryIntern text).1 = .ok n
  := by
  simp [HasRoom, NeverFull, Call.added?]

/-- The first of several texts that find room is interned. -/
theorem HasRoom.tryIntern {names : Interner} {text : String} {rest : List String}
    (h : names.HasRoom (text :: rest)) :
  ∃ n, (names.tryIntern text).1 = .ok n
  := hasRoom_singleton_iff.mp (hasRoom_cons_iff.mp h).1

/-- As many texts as there are positions, less one, find room in a new interner. -/
theorem hasRoom_initial (placement : Placement) {texts : List String}
    (h : texts.length < Name.maxPosition) :
  (initial placement).HasRoom texts
  := by
  apply neverFull_initial
  rw [List.length_map]
  apply h

/-! ### Vocabularies that are known -/

/-- A vocabulary that found room is known under the names that the interner gives. -/
theorem HasRoom.knows {names : Interner} {vocabulary : List String}
    (h : names.HasRoom vocabulary) :
  (names.internAll vocabulary).Knows (names.internAll vocabulary).naming vocabulary
  := by
  intro text htext
  have hheld := (h.isSome_get? text).mpr (.inr (by rwa [added_map_intern]))
  rw [performAll_map_intern] at hheld
  obtain ⟨n, hn⟩ := Option.isSome_iff_exists.mp hheld
  rw [naming, hn]
  rfl

theorem Knows.internAll {names : Interner} {naming : String → Name}
    {vocabulary : List String} (h : names.Knows naming vocabulary) (texts : List String) :
  (names.internAll texts).Knows naming vocabulary
  := by
  intro text htext
  apply get?_internAll (h text htext)

theorem Knows.mono {names : Interner} {naming : String → Name}
    {vocabulary part : List String} (h : names.Knows naming vocabulary)
    (hpart : part ⊆ vocabulary) :
  names.Knows naming part
  := by
  intro text htext
  apply h text (hpart htext)

/-- What a vocabulary that found room is known as later, it is known as at once. -/
theorem HasRoom.knows_of_internAll {names : Interner} {vocabulary texts : List String}
    (hroom : names.HasRoom vocabulary) {naming : String → Name}
    (h : ((names.internAll vocabulary).internAll texts).Knows naming vocabulary) :
  (names.internAll vocabulary).Knows naming vocabulary
  := by
  intro text htext
  have hheld := hroom.knows text htext
  rw [hheld, ← h text htext, get?_internAll hheld texts]

/-- A text that finds room is interned under the name by which it is known afterwards. -/
theorem HasRoom.intern_eq {names : Interner} {text : String} {rest : List String}
    (hroom : names.HasRoom (text :: rest)) {naming : String → Name}
    {vocabulary : List String}
    (hknows : (names.internAll (text :: rest)).Knows naming vocabulary)
    (htext : text ∈ vocabulary) :
  names.tryIntern text = (.ok (naming text), names.internAll [text])
  := by
  obtain ⟨n, hn⟩ := hroom.tryIntern
  have hheld := get?_internAll (get?_intern_of_tryIntern hn) rest
  have hsame : naming text = n := by
    apply Option.some.inj
    rw [← hheld, ← hknows text htext]
    rfl
  rw [hsame, ← hn]
  rfl

/-- Where there is room for a vocabulary, its texts get the names that the interner with all of
them gives. -/
theorem HasRoom.naming_eq {names : Interner} {vocabulary : List String}
    (h : names.HasRoom vocabulary) :
  InternM.naming vocabulary names
    = (.ok (names.internAll vocabulary).naming, names.internAll vocabulary)
  := by
  induction vocabulary generalizing names with
  | nil => rfl
  | cons text rest ih =>
      obtain ⟨n, hn⟩ := h.tryIntern
      have hfirst : names.tryIntern text = (.ok n, names.internAll [text]) := by
        rw [← hn]
        rfl
      rw [InternM.naming, InternM.bind_apply, InternM.intern_apply, hfirst]
      apply ih (hasRoom_cons_iff.mp h).2

/-- What is described in terms of a vocabulary is described by these names. -/
theorem HasRoom.map_naming_eq {names : Interner} {vocabulary : List String}
    (h : names.HasRoom vocabulary) {α : Type} (describe : (String → Name) → α) :
  (Except.map describe <$> InternM.naming vocabulary) names
    = (.ok (describe (names.internAll vocabulary).naming), names.internAll vocabulary)
  := by
  rw [InternM.map_apply, h.naming_eq]
  rfl

/-- Two namings of a vocabulary that an interner knows agree. -/
theorem Knows.eq {names : Interner} {naming naming' : String → Name}
    {vocabulary vocabulary' : List String} (h : names.Knows naming vocabulary)
    (h' : names.Knows naming' vocabulary') {text : String} (htext : text ∈ vocabulary)
    (htext' : text ∈ vocabulary') :
  naming text = naming' text
  := by
  apply Option.some.inj
  rw [← h text htext, h' text htext']

/-- Distinct texts of a vocabulary have distinct names. -/
theorem Knows.injective {names : Interner} (hnames : names.Reached)
    {naming : String → Name} {vocabulary : List String} (h : names.Knows naming vocabulary)
    {text text' : String} (htext : text ∈ vocabulary) (htext' : text' ∈ vocabulary)
    (hsame : naming text = naming text') :
  text = text'
  := by
  apply hnames.get?_injective (h text htext)
  rw [hsame]
  apply h text' htext'

/-- Distinct texts of a vocabulary have names without repetition. -/
theorem Knows.nodup_map {names : Interner} (hnames : names.Reached)
    {naming : String → Name} {vocabulary texts : List String}
    (h : names.Knows naming vocabulary) (htexts : texts ⊆ vocabulary) (hnodup : texts.Nodup) :
  (texts.map naming).Nodup
  := by
  apply List.Nodup.map_on _ hnodup
  intro text htext text' htext' hsame
  apply h.injective hnames (htexts htext) (htexts htext') hsame

end DialectIR.Interner
