import DialectIR.Code.Symbols
import Mathlib.Data.List.Basic
import Mathlib.Tactic.Use

/-!
# Fresh values

A symbol table keeps one number only of all values that were recorded: the highest.  This is
enough for the values that it hands out to be fresh, in whatever order the parameters and the
values of constants were recorded, with whatever gaps and repetitions.  The numbers run out at
the last one, so that nothing fresh can be handed out from then on.
-/

namespace DialectIR

/-- The value with the last number. -/
def ValueId.last : ValueId := ⟨4294967295⟩

/-- The numbers go on up to the last one. -/
theorem ValueId.index_succ {v : ValueId} (h : v ≠ .last) :
  index ⟨v.raw + 1⟩ = v.index + 1
  := by
  have hlast : last.raw.toNat = 4294967295 := rfl
  have hraw : v.raw.toNat ≠ last.raw.toNat := by
    intro hraw
    apply h
    apply congrArg mk (UInt32.toNat_inj.mp hraw)
  have hlt := v.raw.toNat_lt
  rw [index, index, UInt32.toNat_add, UInt32.toNat_one]
  omega

/-- The latest entry counts if it is for the key, and else those before it. -/
theorem lookup_cons_or {κ α : Type} [BEq κ] [LawfulBEq κ] [DecidableEq κ] (entry : κ × α)
    (entries : List (κ × α)) (k : κ) :
  (entry :: entries).lookup k
    = (if entry.1 = k then some entry.2 else none).or (entries.lookup k)
  := by
  rw [List.lookup_cons]
  by_cases hsame : entry.1 = k
  · simp [hsame]
  · rw [if_neg hsame, Option.none_or, beq_false_of_ne (Ne.symm hsame)]

/-- What is seen of a state after calls was given by the last of those calls that give it, if
each call gives it anew or leaves it as it was. -/
theorem view_foldl {σ κ α : Type} {step : σ → κ → σ} (view : σ → Option α)
    {given? : κ → Option α} (h : ∀ s call, view (step s call) = (given? call).or (view s)) (s : σ)
    (calls : List κ) :
  view (calls.foldl step s) = (calls.filterMap given?).getLast?.or (view s)
  := by
  induction calls generalizing s with
  | nil => rfl
  | cons call rest ih =>
      rw [List.foldl_cons, ih, h]
      cases hgiven : given? call with
      | none => rw [List.filterMap_cons_none hgiven, Option.none_or]
      | some x =>
          rw [List.filterMap_cons_some hgiven, List.getLast?_cons]
          cases (rest.filterMap given?).getLast? with
          | none => rfl
          | some last => rfl

namespace SymbolTable

/-! ### Calls -/

/-- A call that changes a symbol table. -/
inductive Call where
  | setConstant (value : ValueId) (constant : Constant)
  | newValue
  deriving DecidableEq, Repr

/-- The constant that a call gives to a value. -/
def Call.constantFor? (value : ValueId) : Call → Option Constant
  | .setConstant value' constant => if value' = value then some constant else none
  | .newValue => none

/-- The value that a call records, and the table after it.  A call for a new value returns
what it records. -/
def perform (t : SymbolTable) : Call → ValueId × SymbolTable
  | .setConstant value constant => (value, t.setConstant value constant)
  | .newValue => t.newValue

/-- The table after calls, in order. -/
def performAll (t : SymbolTable) (calls : List Call) : SymbolTable :=
  calls.foldl (fun t call => (t.perform call).2) t

/-- The values that calls record, in order. -/
def recorded (t : SymbolTable) : List Call → List ValueId
  | [] => []
  | call :: rest => (t.perform call).1 :: (t.perform call).2.recorded rest

/-- No call for a new value finds the last number taken. -/
def NeverFull (t : SymbolTable) : List Call → Prop
  | [] => True
  | call :: rest =>
    (call = .newValue → t.highest ≠ some .last) ∧ (t.perform call).2.NeverFull rest

/-- A table as it is made: a new one, or one with parameters. -/
inductive Made : SymbolTable → List ValueId → Prop where
  | new : Made {} []
  | ofParams (params : List ValueId) : Made (.ofParams params) params

/-- The values that were recorded: the highest is one of them, and none is above it. -/
structure Records (t : SymbolTable) (values : List ValueId) : Prop where
  mem {v : ValueId} (h : t.highest = some v) : v ∈ values
  le {w : ValueId} (h : w ∈ values) : ∃ v, t.highest = some v ∧ w.index ≤ v.index

theorem performAll_append (t : SymbolTable) (calls more : List Call) :
  t.performAll (calls ++ more) = (t.performAll calls).performAll more
  := List.foldl_append

theorem neverFull_append_iff {t : SymbolTable} {calls more : List Call} :
  t.NeverFull (calls ++ more) ↔ t.NeverFull calls ∧ (t.performAll calls).NeverFull more
  := by
  induction calls generalizing t with
  | nil => simp [NeverFull, performAll]
  | cons call rest ih =>
      rw [List.cons_append, NeverFull, NeverFull, ih, and_assoc]
      rfl

/-! ### The highest value -/

theorem Records.of_highest {t t' : SymbolTable} {values : List ValueId} (h : t.Records values)
    (hhighest : t'.highest = t.highest) :
  t'.Records values
  := by
  constructor
  · intro v hv
    rw [hhighest] at hv
    apply h.mem hv
  · intro w hw
    rw [hhighest]
    apply h.le hw

/-- The number of the highest value is the maximum of those that were recorded. -/
theorem Records.highest_eq_max? {t : SymbolTable} {values : List ValueId}
    (h : t.Records values) :
  t.highest.map ValueId.index = (values.map ValueId.index).max?
  := by
  symm
  cases hhighest : t.highest with
  | none =>
      rw [Option.map_none, List.max?_eq_none_iff, List.map_eq_nil_iff,
        List.eq_nil_iff_forall_not_mem]
      intro w hw
      obtain ⟨v, hv, -⟩ := h.le hw
      rw [hhighest] at hv
      cases hv
  | some v =>
      rw [Option.map_some, List.max?_eq_some_iff]
      use List.mem_map_of_mem (h.mem hhighest)
      rw [List.forall_mem_map]
      intro w hw
      obtain ⟨v', hv', hle⟩ := h.le hw
      rw [hhighest] at hv'
      cases hv'
      apply hle

/-- A value that is noted is either not above the highest, or becomes the highest. -/
theorem note_cases (t : SymbolTable) (value : ValueId) :
  (∃ highest, t.highest = some highest ∧ value.index ≤ highest.index ∧ t.note value = t) ∨
  (∀ highest, t.highest = some highest → highest.index < value.index) ∧
    t.note value = { t with highest := some value }
  := by
  rw [note]
  cases hhighest : t.highest with
  | none =>
      right
      use nofun
  | some highest =>
      by_cases hbelow : value.raw ≤ highest.raw
      · left
        use highest, rfl, UInt32.le_iff_toNat_le.mp hbelow, if_pos hbelow
      · right
        constructor
        · rintro v ⟨⟩
          apply UInt32.lt_iff_toNat_lt.mp (UInt32.not_le.mp hbelow)
        · apply if_neg hbelow

/-- Noting a value adds it to those that were recorded, whether it is above them or not. -/
theorem Records.note {t : SymbolTable} {values : List ValueId} (h : t.Records values)
    (value : ValueId) :
  (t.note value).Records (values ++ [value])
  := by
  rcases t.note_cases value with ⟨highest, hhighest, hbelow, hnote⟩ | ⟨habove, hnote⟩
  · rw [hnote]
    constructor
    · intro v hv
      apply List.mem_append_left _ (h.mem hv)
    · intro w hw
      rcases List.mem_append.mp hw with hw | hw
      · apply h.le hw
      · rw [List.mem_singleton.mp hw]
        use highest
  · rw [hnote]
    constructor
    · rintro v ⟨⟩
      apply List.mem_concat_self
    · intro w hw
      use value, rfl
      rcases List.mem_append.mp hw with hw | hw
      · obtain ⟨highest, hhighest, hle⟩ := h.le hw
        apply Nat.le_of_lt (Nat.lt_of_le_of_lt hle (habove highest hhighest))
      · obtain rfl := List.mem_singleton.mp hw
        apply Nat.le_refl

theorem Records.foldl_note {t : SymbolTable} {values : List ValueId} (h : t.Records values)
    (more : List ValueId) :
  (more.foldl SymbolTable.note t).Records (values ++ more)
  := by
  induction more generalizing t values with
  | nil =>
      rw [List.append_nil]
      apply h
  | cons value rest ih =>
      rw [List.append_cons]
      apply ih (h.note value)

/-- The number of a new value is one above that of the highest. -/
theorem index_newValue {t : SymbolTable} (hroom : t.highest ≠ some .last) :
  t.newValue.1.index = (t.highest.map ValueId.index).elim 0 (· + 1)
  := by
  rw [newValue]
  cases hhighest : t.highest with
  | none => rfl
  | some highest =>
      apply ValueId.index_succ
      rintro rfl
      apply hroom hhighest

/-- Reserving a new value comes to noting it. -/
theorem newValue_eq_note {t : SymbolTable} (hroom : t.highest ≠ some .last) :
  t.newValue.2 = t.note t.newValue.1
  := by
  rcases t.note_cases t.newValue.1 with ⟨highest, hhighest, hbelow, -⟩ | ⟨-, hnote⟩
  · rw [index_newValue hroom, hhighest] at hbelow
    cases Nat.not_succ_le_self _ hbelow
  · rw [hnote]
    rfl

/-- A call adds the value that it records to those that were recorded before. -/
theorem Records.perform {t : SymbolTable} {values : List ValueId} (h : t.Records values)
    {call : Call} (hroom : call = .newValue → t.highest ≠ some .last) :
  (t.perform call).2.Records (values ++ [(t.perform call).1])
  := by
  cases call with
  | setConstant value constant =>
      have hhighest : (t.setConstant value constant).highest = (t.note value).highest := rfl
      apply (h.note value).of_highest hhighest
  | newValue =>
      rw [SymbolTable.perform, newValue_eq_note (hroom rfl)]
      apply h.note

theorem Records.performAll {t : SymbolTable} {values : List ValueId} (h : t.Records values)
    {calls : List Call} (hroom : t.NeverFull calls) :
  (t.performAll calls).Records (values ++ t.recorded calls)
  := by
  induction calls generalizing t values with
  | nil =>
      rw [recorded, List.append_nil]
      apply h
  | cons call rest ih =>
      obtain ⟨hcall, hrest⟩ := hroom
      rw [recorded, List.append_cons]
      apply ih (h.perform hcall) hrest

theorem Made.records {t : SymbolTable} {params : List ValueId} (h : t.Made params) :
  t.Records params
  := by
  have hempty : SymbolTable.Records {} [] := by
    constructor
    · rintro v ⟨⟩
    · rintro w ⟨⟩
  cases h with
  | new => apply hempty
  | ofParams =>
      have hhighest : (SymbolTable.ofParams params).highest
          = (params.foldl SymbolTable.note {}).highest := rfl
      apply (hempty.foldl_note params).of_highest hhighest

/-! ### Constants -/

theorem constants_note (t : SymbolTable) (value : ValueId) :
  (t.note value).constants = t.constants
  := by
  rcases t.note_cases value with ⟨-, -, -, hnote⟩ | ⟨-, hnote⟩ <;> rw [hnote]

theorem constants_foldl_note (t : SymbolTable) (values : List ValueId) :
  (values.foldl note t).constants = t.constants
  := by
  induction values generalizing t with
  | nil => rfl
  | cons value rest ih => rw [List.foldl_cons, ih, constants_note]

theorem Made.constants_eq_nil {t : SymbolTable} {params : List ValueId} (h : t.Made params) :
  t.constants = []
  := by
  cases h with
  | new => rfl
  | ofParams => apply constants_foldl_note {} params

/-- A value holds the constant that a call gives to it, or else the one that it held. -/
theorem constant?_perform (t : SymbolTable) (call : Call) (value : ValueId) :
  (t.perform call).2.constant? value = (call.constantFor? value).or (t.constant? value)
  := by
  cases call with
  | setConstant value' constant =>
      rw [perform, constant?, setConstant, constants_note, lookup_cons_or]
      rfl
  | newValue => rfl

/-- After calls, a value holds the constant that was given to it last. -/
theorem constant?_performAll (t : SymbolTable) (calls : List Call) (value : ValueId) :
  (t.performAll calls).constant? value
    = (calls.filterMap (Call.constantFor? value)).getLast?.or (t.constant? value)
  := by
  apply view_foldl (fun t : SymbolTable => t.constant? value)
  intro t call
  apply constant?_perform

/-- A value to which calls give a constant is among those that they record. -/
theorem mem_recorded_of_constantFor? {t : SymbolTable} {calls : List Call} {value : ValueId}
    {call : Call} (hcall : call ∈ calls) (hgiven : (call.constantFor? value).isSome) :
  value ∈ t.recorded calls
  := by
  induction calls generalizing t with
  | nil => cases hcall
  | cons first rest ih =>
      rw [recorded, List.mem_cons]
      rcases List.mem_cons.mp hcall with rfl | hrest
      · left
        cases call with
        | newValue => cases hgiven
        | setConstant value' constant =>
            rw [Call.constantFor?] at hgiven
            split at hgiven
            · rename_i hsame
              exact hsame.symm
            · cases hgiven
      · right
        apply ih hrest

theorem constant?_eq_none_of_not_mem {t : SymbolTable} {params : List ValueId}
    (hmade : t.Made params) {calls : List Call} {value : ValueId}
    (h : value ∉ t.recorded calls) :
  (t.performAll calls).constant? value = none
  := by
  have hnone : calls.filterMap (Call.constantFor? value) = [] := by
    rw [List.filterMap_eq_nil_iff]
    intro call hcall
    by_contra hgiven
    apply h
    apply mem_recorded_of_constantFor? hcall (Option.isSome_iff_ne_none.mpr hgiven)
  rw [constant?_performAll, hnone, constant?, hmade.constants_eq_nil]
  rfl

/-! ### Fresh values -/

/-- The successor of the maximum is not among the numbers. -/
theorem succ_max?_not_mem (ns : List Nat) :
  ns.max?.elim 0 (· + 1) ∉ ns
  := by
  intro hmem
  cases hmax : ns.max? with
  | none =>
      rw [List.max?_eq_none_iff.mp hmax] at hmem
      cases hmem
  | some n =>
      rw [hmax] at hmem
      have hle := (List.max?_eq_some_iff.mp hmax).2 _ hmem
      apply Nat.not_succ_le_self n hle

/-- As long as the numbers do not run out, the highest value has the maximum of the numbers of
the parameters and of the values that were recorded since.  Each new value has the number after
that, and so is none of them and holds no constant.  A value holds the constant that was given
to it last. -/
theorem newValue_above_recorded {t : SymbolTable} {params : List ValueId}
    (hmade : t.Made params) {calls : List Call} (hroom : t.NeverFull calls) :
  (t.performAll calls).highest.map ValueId.index
    = ((params ++ t.recorded calls).map ValueId.index).max? ∧
  (∀ before after, calls = before ++ .newValue :: after → ∃ fresh,
    (t.performAll before).newValue.1 = fresh ∧
    fresh.index = ((params ++ t.recorded before).map ValueId.index).max?.elim 0 (· + 1) ∧
    fresh ∉ params ++ t.recorded before ∧ (t.performAll before).constant? fresh = none) ∧
  (∀ value, (t.performAll calls).constant? value
    = (calls.filterMap (Call.constantFor? value)).getLast?)
  := by
  refine ⟨(hmade.records.performAll hroom).highest_eq_max?, ?_, ?_⟩
  · rintro before after rfl
    obtain ⟨hbefore, hcall, -⟩ := neverFull_append_iff.mp hroom
    have hmax := (hmade.records.performAll hbefore).highest_eq_max?
    have hindex := index_newValue (hcall rfl)
    rw [hmax] at hindex
    have hfresh : (t.performAll before).newValue.1 ∉ params ++ t.recorded before := by
      intro hmem
      apply succ_max?_not_mem ((params ++ t.recorded before).map ValueId.index)
      rw [← hindex]
      apply List.mem_map_of_mem hmem
    use (t.performAll before).newValue.1, rfl, hindex, hfresh
    apply constant?_eq_none_of_not_mem hmade
    intro hmem
    apply hfresh (List.mem_append_right _ hmem)
  · intro value
    rw [constant?_performAll, constant?, hmade.constants_eq_nil, List.lookup_nil,
      Option.or_none]

/-- Calls after parameters that are out of order: a constant far above them and one below, and
two constants for one value. -/
def scattered : List Call :=
  [.setConstant ⟨9⟩ (.int 1), .newValue, .setConstant ⟨3⟩ .null, .setConstant ⟨9⟩ (.int 2),
    .newValue]

theorem newValue_above_recorded_scattered :
  ((ofParams [⟨5⟩, ⟨2⟩, ⟨5⟩]).performAll scattered).highest.map ValueId.index = some 11 ∧
  ((ofParams [⟨5⟩, ⟨2⟩, ⟨5⟩]).performAll (scattered.take 4)).newValue.1.index = 11 ∧
  ((ofParams [⟨5⟩, ⟨2⟩, ⟨5⟩]).performAll scattered).constant? ⟨9⟩ = some (.int 2) ∧
  ((ofParams [⟨5⟩, ⟨2⟩, ⟨5⟩]).performAll scattered).constant? ⟨10⟩ = none
  := by
  have hroom : (ofParams [⟨5⟩, ⟨2⟩, ⟨5⟩]).NeverFull scattered := by
    simp only [scattered, NeverFull]
    decide
  obtain ⟨hmax, hfresh, hconstant⟩ := newValue_above_recorded (.ofParams [⟨5⟩, ⟨2⟩, ⟨5⟩]) hroom
  refine ⟨?_, ?_, ?_, ?_⟩
  · rw [hmax]
    decide
  · obtain ⟨fresh, hvalue, hindex, -⟩ := hfresh (scattered.take 4) [] rfl
    rw [hvalue, hindex]
    decide
  · rw [hconstant]
    decide
  · rw [hconstant]
    decide

end SymbolTable

end DialectIR
