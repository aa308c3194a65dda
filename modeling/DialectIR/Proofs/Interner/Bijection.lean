import DialectIR.Proofs.Interner.Growth
import Mathlib.Data.Finset.Card

/-!
# One name for each text

An interner is used through handles that are clones of one another and share its texts.
Whatever is called on them, and wherever the texts are placed, there is one name for each
text that was interned and one text for each name that was handed out, for good.

Three things carry this.  The two tables of a shard are in step before and after every call,
so that the name by which a text is found leads back to it.  A text that is asked for lies in
the one shard where it is placed, and once at most, so that its name is determined.  And shard
and position fit into a name as long as no shard is full.
-/

namespace DialectIR.Interner

/-- A call on one of the handles of an interner. -/
inductive Call where
  | intern (text : String)
  | tryIntern (text : String)
  | get (text : String)
  /-- One more handle is made, which shares the texts. -/
  | clone
  deriving DecidableEq, Repr

/-- The text that a call asks for. -/
def Call.text? : Call → Option String
  | .intern text | .tryIntern text | .get text => some text
  | .clone => none

/-- The text that a call adds unless it is held. -/
def Call.added? : Call → Option String
  | .intern text | .tryIntern text => some text
  | .get _ | .clone => none

/-- The texts that calls add unless they are held. -/
def added (calls : List Call) : List String := calls.filterMap Call.added?

/-- The name that a call answers, if there is one, and the interner after the call. -/
def perform (names : Interner) : Call → Option Name × Interner
  | .intern text => names.intern text
  | .tryIntern text => ((names.tryIntern text).1.toOption, (names.tryIntern text).2)
  | .get text => (names.get? text, names)
  | .clone => (none, names)

/-- The interner after calls, in order. -/
def performAll (names : Interner) (calls : List Call) : Interner :=
  calls.foldl (fun names call => (names.perform call).2) names

/-- No call finds the shard full in which it has to add a text. -/
def NeverFull (names : Interner) : List Call → Prop
  | [] => True
  | call :: rest =>
    (∀ text, call.added? = some text → ∃ n, (names.tryIntern text).1 = .ok n) ∧
      (names.perform call).2.NeverFull rest

/-- One of the calls asks for a text, and is answered by a name. -/
def Answered (names : Interner) (calls : List Call) (text : String) (n : Name) : Prop :=
  ∃ before call after, calls = before ++ call :: after ∧ call.text? = some text ∧
    ((names.performAll before).perform call).1 = some n

/-! ### Single calls -/

/-- A call leaves the interner that interning the text it adds does. -/
theorem perform_eq (names : Interner) (call : Call) :
  (names.perform call).2 = names.internAll call.added?.toList
  := by
  cases call with
  | intern text => rfl
  | tryIntern text => rfl
  | get text => rfl
  | clone => rfl

/-- The tables of every shard stay in step, whatever is called. -/
theorem Sound.perform {names : Interner} (h : names.Sound) (call : Call) :
  (names.perform call).2.Sound
  := by
  rw [perform_eq]
  apply h.internAll

theorem Sound.performAll {names : Interner} (h : names.Sound) (calls : List Call) :
  (names.performAll calls).Sound
  := by
  induction calls generalizing names with
  | nil => apply h
  | cons call rest ih => apply ih (h.perform call)

theorem performAll_eq (names : Interner) (calls : List Call) :
  names.performAll calls = names.internAll (added calls)
  := by
  induction calls generalizing names with
  | nil => rfl
  | cons call rest ih =>
      rw [performAll, List.foldl_cons, ← performAll, ih, perform_eq, ← internAll_append]
      congr 1
      rw [added, added, List.filterMap_cons]
      cases call.added? with
      | none => rfl
      | some text => rfl

theorem performAll_append (names : Interner) (calls more : List Call) :
  names.performAll (calls ++ more) = (names.performAll calls).performAll more
  := List.foldl_append

theorem Reached.performAll {names : Interner} (h : names.Reached) (calls : List Call) :
  (names.performAll calls).Reached
  := by
  rw [performAll_eq]
  apply h.internAll

theorem get?_performAll {names : Interner} {text : String} {n : Name}
    (h : names.get? text = some n) (calls : List Call) :
  (names.performAll calls).get? text = some n
  := by
  rw [performAll_eq]
  apply get?_internAll h

/-- The name that answers a call is that of the text afterwards. -/
theorem get?_perform {names : Interner} {call : Call} {text : String} {n : Name}
    (htext : call.text? = some text) (hn : (names.perform call).1 = some n) :
  (names.perform call).2.get? text = some n
  := by
  cases call with
  | intern text' =>
      cases htext
      apply get?_intern_of_eq_some hn
  | tryIntern text' =>
      cases htext
      apply get?_intern_of_eq_some hn
  | get text' =>
      cases htext
      apply hn
  | clone => cases htext

/-! ### Answers to calls -/

/-- A name that was handed out stays that of its text. -/
theorem Answered.get? {names : Interner} {calls : List Call} {text : String} {n : Name}
    (h : names.Answered calls text n) :
  (names.performAll calls).get? text = some n
  := by
  obtain ⟨before, call, after, rfl, htext, hn⟩ := h
  rw [performAll_append]
  apply get?_performAll (get?_perform htext hn) after

/-- Texts of the same name are the same. -/
theorem Reached.get?_injective {names : Interner} (h : names.Reached) {text text' : String}
    {n : Name} (hn : names.get? text = some n) (hn' : names.get? text' = some n) :
  text = text'
  := by
  rw [← h.lookup?_eq_some_iff] at hn hn'
  rw [hn] at hn'
  apply Option.some.inj hn'

/-! ### The texts that are held -/

theorem Sound.isSome_get?_iff {names : Interner} (h : names.Sound) {text : String} :
  (names.get? text).isSome ↔ text ∈ (names.shardOf text).texts
  := by
  rw [get?, Option.isSome_map]
  apply (h.inStep (names.placement.shard text)).mem_iff.symm

/-- What is held once a text was added is that text, and what was held before. -/
theorem isSome_get?_append (names : Interner) (added text : String) :
  ((names.append added).get? text).isSome ↔ (names.get? text).isSome ∨ text = added
  := by
  by_cases hsame : text = added
  · subst hsame
    simp [get?_append_self]
  · rw [get?_append_of_ne names hsame]
    simp [hsame]

theorem isSome_get?_intern {names : Interner} {added : String} {n : Name}
    (hroom : (names.tryIntern added).1 = .ok n) (text : String) :
  ((names.intern added).2.get? text).isSome ↔ (names.get? text).isSome ∨ text = added
  := by
  have hadded := get?_intern_of_tryIntern hroom
  rcases names.intern_cases added with hsame | ⟨hgrown, -⟩
  · rw [hsame] at hadded ⊢
    constructor
    · intro htext
      left
      apply htext
    · rintro (htext | rfl)
      · apply htext
      · rw [hadded]
        rfl
  · rw [hgrown]
    apply isSome_get?_append

theorem isSome_get?_perform {names : Interner} {call : Call}
    (hroom : ∀ text, call.added? = some text → ∃ n, (names.tryIntern text).1 = .ok n)
    (text : String) :
  ((names.perform call).2.get? text).isSome ↔
    (names.get? text).isSome ∨ call.added? = some text
  := by
  rw [perform_eq]
  cases hadded : call.added? with
  | none => simp [internAll]
  | some added =>
      obtain ⟨n, hn⟩ := hroom added hadded
      rw [Option.some_inj, eq_comm (a := added)]
      apply isSome_get?_intern hn

/-- What is held after calls is what was held before, and what they add. -/
theorem NeverFull.isSome_get? {names : Interner} {calls : List Call}
    (hroom : names.NeverFull calls) (text : String) :
  ((names.performAll calls).get? text).isSome ↔ (names.get? text).isSome ∨ text ∈ added calls
  := by
  induction calls generalizing names with
  | nil => simp [performAll, added]
  | cons call rest ih =>
      obtain ⟨hcall, hrest⟩ := hroom
      rw [performAll, List.foldl_cons, ← performAll, ih hrest, isSome_get?_perform hcall,
        or_assoc]
      simp only [added, List.mem_filterMap, List.exists_mem_cons_iff]

/-! ### New interners -/

/-- A new interner holds the empty text and the selector of code bodies. -/
theorem isSome_get?_initial (placement : Placement) (text : String) :
  ((initial placement).get? text).isSome ↔ text = "" ∨ text = codeBodySelector
  := by
  obtain ⟨n, hn⟩ := exists_tryIntern_selector placement
  rw [initial_eq, isSome_get?_intern hn, empty, isSome_get?_append, get?, shardOf, shardAt_blank]
  simp

/-- The empty text has the empty name. -/
theorem get?_initial_empty (placement : Placement) :
  (initial placement).get? "" = some Name.empty
  := by
  rw [initial_eq]
  apply get?_intern
  rw [empty, get?_append_self, shardOf, shardAt_blank]
  change some (Name.pack (placement.shard "") 0) = some Name.empty
  rw [placement.shard_empty]
  rfl

/-! ### Room for texts -/

theorem length_shardOf_intern (names : Interner) (added text : String) :
  ((names.intern added).2.shardOf text).texts.length ≤ (names.shardOf text).texts.length + 1
  := by
  rcases names.intern_cases added with hsame | ⟨hgrown, -⟩
  · rw [hsame]
    apply Nat.le_succ
  · rw [hgrown, shardOf_append]
    split
    · rw [Shard.append, List.length_append, List.length_singleton]
    · apply Nat.le_succ

theorem length_shardOf_perform (names : Interner) (call : Call) (text : String) :
  ((names.perform call).2.shardOf text).texts.length ≤ (names.shardOf text).texts.length + 1
  := by
  rw [perform_eq]
  cases call.added? with
  | none => apply Nat.le_succ
  | some added => apply length_shardOf_intern

/-- Calls do not meet a full shard if every shard has room for as many texts. -/
theorem neverFull_of_room {names : Interner} {calls : List Call}
    (h : ∀ text, (names.shardOf text).texts.length + calls.length ≤ Name.maxPosition + 1) :
  names.NeverFull calls
  := by
  induction calls generalizing names with
  | nil => trivial
  | cons call rest ih =>
      rw [List.length_cons] at h
      constructor
      · intro text _
        have hroom := h text
        apply exists_tryIntern
        omega
      · apply ih
        intro text
        have hgrown := names.length_shardOf_perform call text
        have hroom := h text
        omega

/-- As many calls as there are positions, less one, do not meet a full shard of a new
interner. -/
theorem neverFull_initial (placement : Placement) {calls : List Call}
    (h : calls.length < Name.maxPosition) :
  (initial placement).NeverFull calls
  := by
  apply neverFull_of_room
  intro text
  have hfirst := length_shardOf_empty placement text
  have hsecond := length_shardOf_intern (empty placement) codeBodySelector text
  rw [initial_eq]
  omega

/-! ### The number of texts -/

theorem mem_shards_iff {names : Interner} {s : Shard} :
  s ∈ names.shards.toList ↔ ∃ number, names.shardAt number = s
  := by
  rw [Vector.mem_toList_iff, Vector.mem_iff_getElem]
  constructor
  · rintro ⟨i, hi, hs⟩
    use ⟨i, hi⟩, hs
  · rintro ⟨number, hs⟩
    use number.val, number.isLt, hs

/-- The texts of the shards, one shard after another. -/
def texts (names : Interner) : List String := names.shards.toList.flatMap (·.texts)

theorem foldl_length_texts (shards : List Shard) (count : Nat) :
  shards.foldl (fun count s => count + s.texts.length) count
    = count + (shards.flatMap (·.texts)).length
  := by
  induction shards generalizing count with
  | nil => simp
  | cons s rest ih =>
      rw [List.foldl_cons, ih, List.flatMap_cons, List.length_append, Nat.add_assoc]

theorem length_texts (names : Interner) :
  names.texts.length = names.size
  := by
  rw [size, ← Vector.foldl_toList, foldl_length_texts, Nat.zero_add, texts]

/-- The texts of the shards are those that are held. -/
theorem Sound.mem_texts_iff {names : Interner} (h : names.Sound) {text : String} :
  text ∈ names.texts ↔ (names.get? text).isSome
  := by
  rw [h.isSome_get?_iff, texts, List.mem_flatMap]
  constructor
  · rintro ⟨shard, hshard, htext⟩
    obtain ⟨number, rfl⟩ := mem_shards_iff.mp hshard
    obtain rfl := h.placed htext
    apply htext
  · intro htext
    use names.shardOf text, mem_shards_iff.mpr ⟨_, rfl⟩

/-- No text is held twice: not within a shard, and not in two shards, as it is placed in
one. -/
theorem Sound.nodup_texts {names : Interner} (h : names.Sound) :
  names.texts.Nodup
  := by
  rw [texts, List.nodup_flatMap]
  constructor
  · intro shard hshard
    obtain ⟨number, rfl⟩ := mem_shards_iff.mp hshard
    apply (h.inStep number).nodup
  · rw [List.pairwise_iff_getElem]
    intro i j hi hj hij text htext htext'
    rw [Vector.length_toList] at hi hj
    rw [Vector.getElem_toList] at htext htext'
    have hplace : names.placement.shard text = ⟨i, hi⟩ := h.placed htext
    have hplace' : names.placement.shard text = ⟨j, hj⟩ := h.placed htext'
    rw [hplace] at hplace'
    have hsame := Fin.mk.inj hplace'
    omega

/-- An interner has as many texts as it holds different ones. -/
theorem Sound.size_eq {names : Interner} (h : names.Sound) {held : Finset String}
    (hheld : ∀ text, text ∈ held ↔ (names.get? text).isSome) :
  names.size = held.card
  := by
  have hsame : held = names.texts.toFinset := by
    ext text
    rw [hheld, List.mem_toFinset, h.mem_texts_iff]
  rw [← length_texts, hsame, List.toFinset_card_of_nodup h.nodup_texts]

/-! ### All calls -/

/-- Whatever is called on the handles of a new interner, and wherever the texts are placed,
as long as no call meets a full shard: the two tables of every shard are in step; texts that
were asked for have the same name exactly when they are the same, and a name that was handed
out stands for its text whatever is called later.  What is held are the empty text, the
selector of code bodies and the texts that were interned; asking for these gives the name that
interning them does, and adds nothing, as asking never does.  The size is the number of
different texts.  The empty text has the empty name, and no other text ever gets it. -/
theorem one_name_for_each_text (placement : Placement) {calls : List Call}
    (hroom : (initial placement).NeverFull calls) {names : Interner}
    (hnames : (initial placement).performAll calls = names) :
  (∀ number text position, (names.shardAt number).index.lookup text = some position ↔
    (names.shardAt number).texts[position]? = some text) ∧
  (∀ text n text' n', (initial placement).Answered calls text n →
    (initial placement).Answered calls text' n' → (n = n' ↔ text = text')) ∧
  (∀ text n, (initial placement).Answered calls text n →
    ∀ more, (names.performAll more).lookup? n = some text) ∧
  (∀ text, (names.get? text).isSome ↔
    text = "" ∨ text = codeBodySelector ∨ text ∈ added calls) ∧
  (∀ text n, names.get? text = some n →
    names.intern text = (some n, names) ∧ names.tryIntern text = (.ok n, names)) ∧
  (∀ text, (names.perform (.get text)).2 = names) ∧
  names.size = ("" :: codeBodySelector :: added calls).toFinset.card ∧
  names.get? "" = some Name.empty ∧
  (∀ text n, (initial placement).Answered calls text n → (n = Name.empty ↔ text = ""))
  := by
  subst hnames
  have hsound := (sound_initial placement).performAll calls
  have hreached := (reached_initial placement).performAll calls
  have hheld : ∀ text, (((initial placement).performAll calls).get? text).isSome ↔
      text = "" ∨ text = codeBodySelector ∨ text ∈ added calls := by
    intro text
    rw [hroom.isSome_get?, isSome_get?_initial, or_assoc]
  have hempty : ((initial placement).performAll calls).get? "" = some Name.empty :=
    get?_performAll (get?_initial_empty placement) calls
  refine ⟨hsound.inStep, ?_, ?_, hheld, ?_, fun text => rfl, ?_, hempty, ?_⟩
  · intro text n text' n' hn hn'
    have hn := hn.get?
    have hn' := hn'.get?
    constructor
    · rintro rfl
      apply hreached.get?_injective hn hn'
    · rintro rfl
      rw [hn] at hn'
      apply Option.some.inj hn'
  · intro text n hn more
    rw [(hreached.performAll more).lookup?_eq_some_iff]
    apply get?_performAll hn.get?
  · intro text n hn
    have hsame := tryIntern_of_get? hn
    rw [intern_eq, hsame]
    use rfl
  · apply hsound.size_eq
    intro text
    rw [hheld]
    simp
  · intro text n hn
    have hn := hn.get?
    constructor
    · rintro rfl
      apply hreached.get?_injective hn hempty
    · rintro rfl
      rw [hempty] at hn
      apply (Option.some.inj hn).symm

/-- Calls that ask for texts before and after they are interned, two of which share a
shard. -/
def mixedCalls : List Call :=
  [.get "ab", .intern "ab", .clone, .tryIntern "ba", .intern "", .get "ab", .intern "do"]

theorem one_name_for_each_text_mixedCalls :
  (initial .bySum).NeverFull mixedCalls ∧
    ((initial .bySum).performAll mixedCalls).size = 4 ∧
    (initial .bySum).Answered mixedCalls "ab" ⟨19⟩ ∧
    (initial .bySum).Answered mixedCalls "ba" ⟨35⟩ ∧
    ((initial .bySum).performAll mixedCalls).lookup? ⟨35⟩ = some "ba"
  := by
  have hroom : (initial .bySum).NeverFull mixedCalls := neverFull_initial .bySum (by decide)
  obtain ⟨-, -, hlookup, -, -, -, hsize, -, -⟩ := one_name_for_each_text .bySum hroom rfl
  have hab : (initial .bySum).Answered mixedCalls "ab" ⟨19⟩ :=
    ⟨[.get "ab"], _, _, rfl, rfl, by decide +kernel⟩
  have hba : (initial .bySum).Answered mixedCalls "ba" ⟨35⟩ :=
    ⟨[.get "ab", .intern "ab", .clone], _, _, rfl, rfl, by decide +kernel⟩
  refine ⟨hroom, ?_, hab, hba, hlookup "ba" ⟨35⟩ hba []⟩
  rw [hsize]
  decide +kernel

end DialectIR.Interner
