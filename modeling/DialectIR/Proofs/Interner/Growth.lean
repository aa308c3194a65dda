import DialectIR.Interner
import Mathlib.Data.List.Nodup
import Mathlib.Tactic.Use

/-!
# Growth of interners

The two tables of a shard are kept in step: the index leads from a text to a position exactly
if the text lies there.  So a shard has each text once.  An interner whose shards are in step,
and have only texts that are placed there, is sound; every interner is, as adding a text that is
not held keeps it so.

An interner only ever gains texts.  A text that it holds keeps its name, whatever is interned
later, and the name leads back to the text as long as no shard has more texts than there are
positions, which interning takes care of.  Conversely a name that leads to a text is the name of
that text.
-/

namespace DialectIR

/-! ### Computations that intern texts -/

namespace InternM

theorem bind_apply {α β : Type} (x : InternM α) (f : α → InternM β) (names : Interner) :
  (x >>= f) names = f (x names).1 (x names).2
  := rfl

theorem map_apply {α β : Type} (f : α → β) (x : InternM α) (names : Interner) :
  (f <$> x) names = (f (x names).1, (x names).2)
  := rfl

theorem get_apply (names : Interner) :
  (get : InternM Interner) names = (names, names)
  := rfl

theorem intern_apply (text : String) (names : Interner) :
  InternM.intern text names = names.tryIntern text
  := rfl

end InternM

/-! ### Shards -/

namespace Shard

/-- The tables of a shard are in step: its index leads from a text to a position exactly if the
text lies there. -/
def InStep (s : Shard) : Prop :=
  ∀ text position, s.index.lookup text = some position ↔ s.texts[position]? = some text

/-- The shard with one more text in both tables. -/
def append (s : Shard) (text : String) : Shard where
  texts := s.texts ++ [text]
  index := (text, s.texts.length) :: s.index

theorem insert_of_room {s : Shard} (h : s.texts.length ≤ Name.maxPosition) (text : String)
    (number : Fin Name.shardCount) :
  s.insert text number = (.ok s.texts.length, s.append text)
  := if_pos h

theorem insert_of_full {s : Shard} (h : ¬ s.texts.length ≤ Name.maxPosition) (text : String)
    (number : Fin Name.shardCount) :
  s.insert text number = (.error (.shardOverflow number s.texts.length), s)
  := if_neg h

theorem inStep_empty :
  InStep {}
  := by
  intro text position
  simp

/-- The tables stay in step when a text is added that the shard does not have. -/
theorem InStep.append {s : Shard} (h : s.InStep) {text : String}
    (hnew : s.index.lookup text = none) :
  (s.append text).InStep
  := by
  intro other position
  by_cases hsame : other = text
  · subst hsame
    have hother : s.texts[position]? ≠ some other := by
      rw [ne_eq, ← h other position, hnew]
      rintro ⟨⟩
    rw [Shard.append, List.lookup_cons_self, List.getElem?_append, Option.some_inj]
    split
    · rename_i hlt
      constructor
      · rintro rfl
        cases Nat.lt_irrefl _ hlt
      · intro hold
        cases hother hold
    · rename_i hge
      constructor
      · rintro rfl
        simp
      · intro hlast
        have hposition := (List.getElem?_eq_some_iff.mp hlast).1
        rw [List.length_singleton] at hposition
        omega
  · have hlookup : (s.append text).index.lookup other = s.index.lookup other := by
      rw [Shard.append, List.lookup_cons, beq_false_of_ne hsame]
    rw [hlookup, h other position, Shard.append, List.getElem?_append]
    split
    · rfl
    · rename_i hge
      rw [List.getElem?_eq_none (Nat.not_lt.mp hge)]
      constructor
      · intro hnone
        cases hnone
      · intro hlast
        have hmem := List.mem_of_getElem? hlast
        cases hsame (List.mem_singleton.mp hmem)

theorem InStep.mem_iff {s : Shard} (h : s.InStep) {text : String} :
  text ∈ s.texts ↔ (s.index.lookup text).isSome
  := by
  rw [List.mem_iff_getElem?, Option.isSome_iff_exists]
  simp only [h text]

/-- A shard has each text once. -/
theorem InStep.nodup {s : Shard} (h : s.InStep) :
  s.texts.Nodup
  := by
  apply List.pairwise_iff_getElem.mpr
  intro i j hi hj hlt hsame
  have hfirst := (h s.texts[i] i).mpr (List.getElem?_eq_getElem hi)
  have hsecond := (h s.texts[i] j).mpr (by rw [hsame, List.getElem?_eq_getElem hj])
  rw [hfirst] at hsecond
  have hposition := Option.some.inj hsecond
  omega

end Shard

namespace Interner

theorem shardAt_setShard (names : Interner) (number other : Fin Name.shardCount) (s : Shard) :
  (names.setShard number s).shardAt other = if number = other then s else names.shardAt other
  := by
  split
  · rename_i hsame
    subst hsame
    simp [setShard, shardAt]
  · rename_i hother
    have hval : number.val ≠ other.val := fun hv => hother (Fin.ext hv)
    simp [setShard, shardAt, Vector.getElem_set_ne, hval]

theorem setShard_shardAt (names : Interner) (number : Fin Name.shardCount) :
  names.setShard number (names.shardAt number) = names
  := by
  have hsame : names.shards.set number (names.shardAt number) = names.shards :=
    Vector.set_getElem_self _
  rw [setShard, hsame]

/-- The interner with one more text, in the shard where it is placed. -/
def append (names : Interner) (text : String) : Interner :=
  names.setShard (names.placement.shard text) ((names.shardOf text).append text)

theorem shardAt_append (names : Interner) (text : String) (number : Fin Name.shardCount) :
  (names.append text).shardAt number
    = if names.placement.shard text = number then (names.shardAt number).append text
      else names.shardAt number
  := by
  rw [append, shardAt_setShard]
  split
  · rename_i hnumber
    rw [← hnumber]
    rfl
  · rfl

theorem shardOf_append (names : Interner) (added text : String) :
  (names.append added).shardOf text
    = if names.placement.shard added = names.placement.shard text
      then (names.shardOf text).append added else names.shardOf text
  := names.shardAt_append added (names.placement.shard text)

theorem get?_eq_none_iff {names : Interner} {text : String} :
  names.get? text = none ↔ (names.shardOf text).index.lookup text = none
  := Option.map_eq_none_iff

/-- A text that is added is held at the end of its shard. -/
theorem get?_append_self (names : Interner) (text : String) :
  (names.append text).get? text
    = some (Name.pack (names.placement.shard text) (names.shardOf text).texts.length)
  := by
  rw [get?, shardOf_append, if_pos rfl, Shard.append, List.lookup_cons_self]
  rfl

/-- What is held of other texts does not change when a text is added. -/
theorem get?_append_of_ne (names : Interner) {added text : String} (h : text ≠ added) :
  (names.append added).get? text = names.get? text
  := by
  have hlookup : ((names.append added).shardOf text).index.lookup text
      = (names.shardOf text).index.lookup text := by
    rw [shardOf_append]
    split
    · rw [Shard.append, List.lookup_cons, beq_false_of_ne h]
    · rfl
  rw [get?, hlookup]
  rfl

/-- A text that is held keeps its name when one that is not held is added. -/
theorem get?_append {names : Interner} {text : String} {n : Name}
    (h : names.get? text = some n) {added : String} (hnew : names.get? added = none) :
  (names.append added).get? text = some n
  := by
  have hother : text ≠ added := by
    rintro rfl
    rw [h] at hnew
    cases hnew
  rw [get?_append_of_ne _ hother, h]

/-! ### Interning -/

/-- What interning a text comes to: its answer, and the interner that it leaves. -/
inductive Interning (names : Interner) (text : String) :
    Except InternError Name × Interner → Prop where
  | held {n : Name} (hn : names.get? text = some n) : Interning names text (.ok n, names)
  | added (hnew : names.get? text = none)
    (hroom : (names.shardOf text).texts.length ≤ Name.maxPosition) :
    Interning names text
      (.ok (Name.pack (names.placement.shard text) (names.shardOf text).texts.length),
        names.append text)
  | full (hnew : names.get? text = none)
    (hfull : ¬ (names.shardOf text).texts.length ≤ Name.maxPosition) (e : InternError) :
    Interning names text (.error e, names)

theorem interning (names : Interner) (text : String) :
  Interning names text (names.tryIntern text)
  := by
  rw [tryIntern]
  cases hn : names.get? text with
  | some n => apply Interning.held hn
  | none =>
      by_cases hroom : (names.shardOf text).texts.length ≤ Name.maxPosition
      · simp only [insert, Shard.insert_of_room hroom]
        apply Interning.added hn hroom
      · simp only [insert, Shard.insert_of_full hroom]
        rw [shardOf, setShard_shardAt]
        apply Interning.full hn hroom

theorem intern_eq (names : Interner) (text : String) :
  names.intern text = ((names.tryIntern text).1.toOption, (names.tryIntern text).2)
  := rfl

/-- Interning a text adds it to its shard, or changes nothing. -/
theorem intern_cases (names : Interner) (text : String) :
  (names.intern text).2 = names ∨
    (names.intern text).2 = names.append text ∧ names.get? text = none ∧
      (names.shardOf text).texts.length ≤ Name.maxPosition
  := by
  have hinterning := names.interning text
  rw [intern_eq]
  generalize names.tryIntern text = outcome at hinterning ⊢
  cases hinterning with
  | held hn => left; rfl
  | added hnew hroom => right; exact ⟨rfl, hnew, hroom⟩
  | full hnew hfull e => left; rfl

/-- A text that is held keeps its name when another is interned. -/
theorem get?_intern {names : Interner} {text : String} {n : Name}
    (h : names.get? text = some n) (other : String) :
  (names.intern other).2.get? text = some n
  := by
  rcases names.intern_cases other with hsame | ⟨hadded, hnew, -⟩
  · rw [hsame]
    apply h
  · rw [hadded]
    apply get?_append h hnew

theorem get?_internAll {names : Interner} {text : String} {n : Name}
    (h : names.get? text = some n) (texts : List String) :
  (names.internAll texts).get? text = some n
  := by
  induction texts generalizing names with
  | nil => apply h
  | cons other rest ih => apply ih (get?_intern h other)

/-- Interning a text that is held answers its name and adds nothing. -/
theorem tryIntern_of_get? {names : Interner} {text : String} {n : Name}
    (h : names.get? text = some n) :
  names.tryIntern text = (.ok n, names)
  := by
  rw [tryIntern, h]

theorem exists_tryIntern {names : Interner} {text : String}
    (hroom : (names.shardOf text).texts.length ≤ Name.maxPosition) :
  ∃ n, (names.tryIntern text).1 = .ok n
  := by
  have hinterning := names.interning text
  generalize names.tryIntern text = outcome at hinterning ⊢
  cases hinterning with
  | held hn => exact ⟨_, rfl⟩
  | added hnew hroom => exact ⟨_, rfl⟩
  | full hnew hfull e => cases hfull hroom

/-- A text that finds room is held after it was interned, under the name answered. -/
theorem get?_intern_of_tryIntern {names : Interner} {text : String} {n : Name}
    (h : (names.tryIntern text).1 = .ok n) :
  (names.intern text).2.get? text = some n
  := by
  have hinterning := names.interning text
  rw [intern_eq]
  generalize names.tryIntern text = outcome at hinterning h ⊢
  cases hinterning with
  | held hn =>
      cases h
      apply hn
  | added hnew hroom =>
      cases h
      apply get?_append_self
  | full hnew hfull e => cases h

theorem get?_intern_of_eq_some {names : Interner} {text : String} {n : Name}
    (h : (names.intern text).1 = some n) :
  (names.intern text).2.get? text = some n
  := by
  apply get?_intern_of_tryIntern
  rw [intern_eq] at h
  cases hanswer : (names.tryIntern text).1 with
  | ok m =>
      rw [hanswer] at h
      cases h
      rfl
  | error e =>
      rw [hanswer] at h
      cases h

theorem internAll_append (names : Interner) (texts others : List String) :
  names.internAll (texts ++ others) = (names.internAll texts).internAll others
  := List.foldl_append

/-! ### Sound interners -/

/-- The shards of an interner are in step, have only texts that are placed there, and have them
at positions that a name can hold. -/
structure Sound (names : Interner) : Prop where
  inStep (number : Fin Name.shardCount) : (names.shardAt number).InStep
  placed {number : Fin Name.shardCount} {text : String}
    (htext : text ∈ (names.shardAt number).texts) : names.placement.shard text = number
  fits (number : Fin Name.shardCount) :
    (names.shardAt number).texts.length ≤ Name.maxPosition + 1

/-- The interner that holds no text, not even the empty one. -/
def blank (placement : Placement) : Interner :=
  ⟨placement, Vector.replicate Name.shardCount {}⟩

theorem shardAt_blank (placement : Placement) (number : Fin Name.shardCount) :
  (blank placement).shardAt number = {}
  := by
  simp [blank, shardAt]

theorem sound_blank (placement : Placement) :
  (blank placement).Sound
  := by
  constructor
  · intro number
    rw [shardAt_blank]
    apply Shard.inStep_empty
  · intro number text htext
    rw [shardAt_blank] at htext
    cases htext
  · intro number
    rw [shardAt_blank]
    apply Nat.zero_le

/-- An interner stays sound when a text is added that it does not hold. -/
theorem Sound.append {names : Interner} (h : names.Sound) {text : String}
    (hnew : names.get? text = none)
    (hroom : (names.shardOf text).texts.length ≤ Name.maxPosition) :
  (names.append text).Sound
  := by
  constructor
  · intro number
    rw [shardAt_append]
    split
    · rename_i hnumber
      subst hnumber
      apply (h.inStep _).append (get?_eq_none_iff.mp hnew)
    · apply h.inStep
  · intro number other hother
    rw [shardAt_append] at hother
    split at hother
    · rename_i hnumber
      rcases List.mem_append.mp hother with hold | hlast
      · apply h.placed hold
      · rw [List.mem_singleton.mp hlast]
        apply hnumber
    · apply h.placed hother
  · intro number
    rw [shardAt_append]
    split
    · rename_i hnumber
      subst hnumber
      rw [Shard.append, List.length_append, List.length_singleton]
      apply Nat.succ_le_succ hroom
    · apply h.fits

theorem Sound.intern {names : Interner} (h : names.Sound) (text : String) :
  (names.intern text).2.Sound
  := by
  rcases names.intern_cases text with hsame | ⟨hadded, hnew, hroom⟩
  · rw [hsame]
    apply h
  · rw [hadded]
    apply h.append hnew hroom

theorem Sound.internAll {names : Interner} (h : names.Sound) (texts : List String) :
  (names.internAll texts).Sound
  := by
  induction texts generalizing names with
  | nil => apply h
  | cons text rest ih => apply ih (h.intern text)

/-- The name of a text that is held stands for that text. -/
theorem Sound.lookup?_of_get? {names : Interner} (h : names.Sound) {text : String} {n : Name}
    (hn : names.get? text = some n) :
  names.lookup? n = some text
  := by
  obtain ⟨position, hposition, rfl⟩ := Option.map_eq_some_iff.mp hn
  have hheld := (h.inStep _ text position).mp hposition
  have hsmall : position ≤ Name.maxPosition := by
    have hlength := h.fits (names.placement.shard text)
    have hlt := (List.getElem?_eq_some_iff.mp hheld).1
    omega
  simp only [lookup?, Name.shard_pack _ hsmall, Name.position_pack _ hsmall]
  apply hheld

/-- The text that a name stands for has that name. -/
theorem Sound.get?_of_lookup? {names : Interner} (h : names.Sound) {text : String}
    {n : Name} (hn : names.lookup? n = some text) :
  names.get? text = some n
  := by
  have hplaced : names.placement.shard text = n.shard := h.placed (List.mem_of_getElem? hn)
  have hposition := (h.inStep n.shard text n.position).mpr hn
  rw [get?, shardOf, hplaced, hposition, Option.map_some, Name.pack_shard_position]

/-! ### Interners that come about -/

/-- The interner that holds the empty text and nothing else. -/
def empty (placement : Placement) : Interner := (blank placement).append ""

theorem initial_eq (placement : Placement) :
  initial placement = ((empty placement).intern codeBodySelector).2
  := by
  have hroom : ((blank placement).shardOf "").texts.length ≤ Name.maxPosition := by
    rw [shardOf, shardAt_blank]
    apply Nat.zero_le
  have hinsert : ((blank placement).insert "").2 = empty placement := by
    simp only [insert, Shard.insert_of_room hroom]
    rfl
  rw [← hinsert]
  rfl

theorem length_shardOf_empty (placement : Placement) (text : String) :
  ((empty placement).shardOf text).texts.length ≤ 1
  := by
  rw [empty, shardOf_append, shardOf, shardAt_blank]
  split
  · apply Nat.le_refl
  · apply Nat.zero_le

/-- The interners that interning leads to. -/
def Reached (names : Interner) : Prop :=
  ∃ placement texts, names = (initial placement).internAll texts

theorem reached_initial (placement : Placement) :
  (initial placement).Reached
  := ⟨placement, [], rfl⟩

theorem Reached.internAll {names : Interner} (h : names.Reached) (texts : List String) :
  (names.internAll texts).Reached
  := by
  obtain ⟨placement, earlier, rfl⟩ := h
  use placement, earlier ++ texts
  rw [internAll_append]

/-- A new interner is sound. -/
theorem sound_initial (placement : Placement) :
  (initial placement).Sound
  := by
  rw [initial_eq]
  apply Sound.intern
  apply (sound_blank placement).append
  · rw [get?_eq_none_iff, shardOf, shardAt_blank]
    rfl
  · rw [shardOf, shardAt_blank]
    apply Nat.zero_le

/-- Interners that come about are sound. -/
theorem Reached.sound {names : Interner} (h : names.Reached) :
  names.Sound
  := by
  obtain ⟨placement, texts, rfl⟩ := h
  apply (sound_initial placement).internAll

/-- There is room for the selector of code bodies beside the empty text. -/
theorem exists_tryIntern_selector (placement : Placement) :
  ∃ n, ((empty placement).tryIntern codeBodySelector).1 = .ok n
  := by
  apply exists_tryIntern
  apply Nat.le_trans (length_shardOf_empty placement _)
  decide

/-- Every interner holds the selector of code bodies. -/
theorem Reached.selector {names : Interner} (h : names.Reached) :
  ∃ n, names.get? codeBodySelector = some n
  := by
  obtain ⟨placement, texts, rfl⟩ := h
  obtain ⟨n, hn⟩ := exists_tryIntern_selector placement
  rw [initial_eq]
  exact ⟨_, get?_internAll (get?_intern_of_tryIntern hn) texts⟩

/-- A name stands for the texts that have the name, and for no others. -/
theorem Reached.lookup?_eq_some_iff {names : Interner} (h : names.Reached) {text : String}
    {n : Name} :
  names.lookup? n = some text ↔ names.get? text = some n
  := ⟨h.sound.get?_of_lookup?, h.sound.lookup?_of_get?⟩

end Interner

end DialectIR
