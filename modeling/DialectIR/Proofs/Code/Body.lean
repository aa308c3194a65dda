import DialectIR.Code.Body
import DialectIR.Proofs.Code.Symbols
import Mathlib.Tactic.Use

/-!
# Assembled code bodies

A front end assembles a code body by calls, each of which sets one part of it: the symbols, the
lexical information, the qualifiers, the position of one instruction or what one block catches.
Whatever the order of the calls, each part is as the last call for it left it.  So calls for
different parts can be swapped.

Positions behave as in a table with a slot for each instruction that grows when an instruction
beyond its end gets a position: growing loses nothing, and the slots in between are empty.

Exposed variables are different, as the first exposure of a variable counts.
-/

namespace DialectIR

/-- Instructions with the same number are the same. -/
theorem InstrIndex.index_injective {i i' : InstrIndex} (h : i.index = i'.index) :
  i = i'
  := congrArg mk (UInt32.toNat_inj.mp h)

namespace CodeBody

/-! ### Calls -/

/-- A call that changes a code body. -/
inductive Call where
  | symbols (table : SymbolTable)
  | catches (block : BlockId) (types : List TypeRef)
  | lexical (info : LexicalInfo)
  | position (i : InstrIndex) (span : Span)
  | qualifiers (set : Qualifiers)
  deriving DecidableEq, Repr

/-- A part of a code body that calls set. -/
inductive Part where
  | symbols
  | handler (block : BlockId)
  | lexical
  | position (i : InstrIndex)
  | qualifiers
  deriving DecidableEq, Repr

namespace Call

/-- The part that a call sets. -/
def part : Call → Part
  | .symbols _ => .symbols
  | .catches block _ => .handler block
  | .lexical _ => .lexical
  | .position i _ => .position i
  | .qualifiers _ => .qualifiers

/-- The symbols that a call gives. -/
def symbols? : Call → Option SymbolTable
  | .symbols table => some table
  | _ => none

/-- The types that a call lets a block catch. -/
def typesFor? (block : BlockId) : Call → Option (List TypeRef)
  | .catches block' types => if block' = block then some types else none
  | _ => none

/-- The lexical information that a call gives. -/
def lexical? : Call → Option LexicalInfo
  | .lexical info => some info
  | _ => none

/-- The position that a call gives to an instruction. -/
def spanFor? (i : InstrIndex) : Call → Option Span
  | .position i' span => if i' = i then some span else none
  | _ => none

/-- The qualifiers that a call gives. -/
def qualifiers? : Call → Option Qualifiers
  | .qualifiers set => some set
  | _ => none

end Call

/-- The body after a call. -/
def perform (b : CodeBody) : Call → CodeBody
  | .symbols table => b.withSymbols table
  | .catches block types => b.catching block types
  | .lexical info => b.withLexical info
  | .position i span => b.placing i span
  | .qualifiers set => b.withQualifiers set

/-- The body of a control-flow graph that calls assemble, one after the other. -/
def assembled (cfg : Cfg) (calls : List Call) : CodeBody :=
  calls.foldl perform { cfg }

/-- A body of a control-flow graph has each part as the last of the calls for it left it, and
what a new body has if there was none. -/
structure LeftBy (calls : List Call) (cfg : Cfg) (b : CodeBody) : Prop where
  cfg : b.cfg = cfg
  symbols : b.symbols = (calls.filterMap Call.symbols?).getLast?.getD {}
  lexical : b.lexical = (calls.filterMap Call.lexical?).getLast?.getD {}
  qualifiers : b.qualifiers
    = (calls.filterMap Call.qualifiers?).getLast?.getD { isPublic := true, isFinal := true }
  position? (i : InstrIndex) : b.position? i = (calls.filterMap (Call.spanFor? i)).getLast?
  caughtTypes (block : BlockId) :
    b.caughtTypes block = (calls.filterMap (Call.typesFor? block)).getLast?.getD []
  hasCatchBlock : b.hasCatchBlock ↔ ∃ block types, Call.catches block types ∈ calls

/-- Two bodies answer every question in the same way. -/
structure SameAnswers (b b' : CodeBody) : Prop where
  cfg : b.cfg = b'.cfg
  symbols : b.symbols = b'.symbols
  lexical : b.lexical = b'.lexical
  qualifiers : b.qualifiers = b'.qualifiers
  position? (i : InstrIndex) : b.position? i = b'.position? i
  caughtTypes (block : BlockId) : b.caughtTypes block = b'.caughtTypes block
  hasCatchBlock : b.hasCatchBlock = b'.hasCatchBlock
  maxStackHeight : b.maxStackHeight = b'.maxStackHeight
  maxLocals : b.maxLocals = b'.maxLocals
  localVariableName (i : InstrIndex) (value : ValueId) :
    b.localVariableName i value = b'.localVariableName i value

/-! ### The last call for a part -/

section

variable (b : CodeBody) (call : Call)

theorem cfg_perform :
  (b.perform call).cfg = b.cfg
  := by
  cases call <;> rfl

theorem symbols_perform :
  (b.perform call).symbols = call.symbols?.getD b.symbols
  := by
  cases call <;> rfl

theorem lexical_perform :
  (b.perform call).lexical = call.lexical?.getD b.lexical
  := by
  cases call <;> rfl

theorem qualifiers_perform :
  (b.perform call).qualifiers = call.qualifiers?.getD b.qualifiers
  := by
  cases call <;> rfl

theorem position?_perform (i : InstrIndex) (b : CodeBody) (call : Call) :
  (b.perform call).position? i = (call.spanFor? i).or (b.position? i)
  := by
  cases call with
  | position i' span => apply lookup_cons_or
  | _ => rfl

theorem lookup_caught_perform (block : BlockId) (b : CodeBody) (call : Call) :
  (b.perform call).caught.lookup block = (call.typesFor? block).or (b.caught.lookup block)
  := by
  cases call with
  | catches block' types => apply lookup_cons_or
  | _ => rfl

theorem hasCatchBlock_perform :
  (b.perform call).hasCatchBlock ↔
    (∃ block types, call = .catches block types) ∨ b.hasCatchBlock
  := by
  cases call with
  | catches block types => simp [perform, catching, hasCatchBlock]
  | _ => simp [perform, hasCatchBlock, withSymbols, withLexical, placing, withQualifiers]

end

/-- A field after calls was given by the last of those calls that give it, if each call gives it
or leaves it as it was. -/
theorem field_foldl {σ κ α : Type} {step : σ → κ → σ} (field : σ → α) {given? : κ → Option α}
    (h : ∀ s call, field (step s call) = (given? call).getD (field s)) (s : σ) (calls : List κ) :
  field (calls.foldl step s) = (calls.filterMap given?).getLast?.getD (field s)
  := by
  have hview : some (field (calls.foldl step s))
      = (calls.filterMap given?).getLast?.or (some (field s)) := by
    apply view_foldl (fun s => some (field s))
    intro s call
    rw [h, Option.or_some]
  rw [Option.or_some] at hview
  apply Option.some.inj hview

theorem cfg_foldl (b : CodeBody) (calls : List Call) :
  (calls.foldl perform b).cfg = b.cfg
  := by
  induction calls generalizing b with
  | nil => rfl
  | cons call rest ih => rw [List.foldl_cons, ih, cfg_perform]

theorem hasCatchBlock_foldl (b : CodeBody) (calls : List Call) :
  (calls.foldl perform b).hasCatchBlock ↔
    (∃ block types, Call.catches block types ∈ calls) ∨ b.hasCatchBlock
  := by
  induction calls generalizing b with
  | nil => simp
  | cons call rest ih =>
      rw [List.foldl_cons, ih, hasCatchBlock_perform, ← or_assoc]
      simp only [List.mem_cons, exists_or, or_comm, eq_comm]

/-- An assembled body has each part as the last of the calls for it left it. -/
theorem leftBy_assembled (cfg : Cfg) (calls : List Call) :
  LeftBy calls cfg (assembled cfg calls)
  := by
  constructor
  · apply cfg_foldl
  · apply field_foldl CodeBody.symbols symbols_perform
  · apply field_foldl CodeBody.lexical lexical_perform
  · apply field_foldl CodeBody.qualifiers qualifiers_perform
  · intro i
    have hlast := view_foldl (fun b : CodeBody => b.position? i) (position?_perform i) { cfg } calls
    rw [← assembled] at hlast
    apply hlast.trans Option.or_none
  · intro block
    have hlast := view_foldl (fun b : CodeBody => b.caught.lookup block)
      (lookup_caught_perform block) { cfg } calls
    rw [caughtTypes, assembled, hlast]
    rw [List.lookup_nil, Option.or_none]
  · rw [assembled, hasCatchBlock_foldl]
    simp [hasCatchBlock]

/-! ### A table of positions -/

/-- The table in which an instruction has a position.  It grows to the slot of the instruction,
and the slots in between are empty. -/
def setSlot (slots : List (Option Span)) (i : InstrIndex) (span : Span) : List (Option Span) :=
  (slots.rightpad (i.index + 1) none).set i.index (some span)

/-- The table after a call. -/
def Call.slotsAfter (slots : List (Option Span)) : Call → List (Option Span)
  | .position i span => setSlot slots i span
  | _ => slots

/-- The table of positions after calls, in order. -/
def positionTable (calls : List Call) : List (Option Span) :=
  calls.foldl Call.slotsAfter []

/-- A table that grows has what it had, and no positions besides. -/
theorem slot_rightpad (slots : List (Option Span)) (size : Nat) (place : Nat) :
  (slots.rightpad size none)[place]?.join = slots[place]?.join
  := by
  rw [List.rightpad, List.getElem?_append]
  split
  · rfl
  · rename_i hbeyond
    rw [List.getElem?_replicate, List.getElem?_eq_none (Nat.not_lt.mp hbeyond)]
    split <;> rfl

/-- Setting a slot, wherever it lies, leaves the others as they were. -/
theorem slot_setSlot (slots : List (Option Span)) (i i' : InstrIndex) (span : Span) :
  (setSlot slots i' span)[i.index]?.join
    = (if i' = i then some span else none).or slots[i.index]?.join
  := by
  rw [setSlot, List.getElem?_set]
  by_cases hsame : i' = i
  · subst hsame
    have hgrown : i'.index < (slots.rightpad (i'.index + 1) none).length := by
      rw [List.rightpad, List.length_append, List.length_replicate]
      omega
    rw [if_pos rfl, if_pos hgrown, if_pos rfl]
    rfl
  · have hother : i'.index ≠ i.index := fun h => hsame (InstrIndex.index_injective h)
    rw [if_neg hother, if_neg hsame, slot_rightpad, Option.none_or]

/-- The table has the last position that was given to an instruction, and none for others. -/
theorem slot_positionTable (i : InstrIndex) (calls : List Call) :
  (positionTable calls)[i.index]?.join = (calls.filterMap (Call.spanFor? i)).getLast?
  := by
  have hstep : ∀ (slots : List (Option Span)) (call : Call), (call.slotsAfter slots)[i.index]?.join
      = (call.spanFor? i).or slots[i.index]?.join := by
    intro slots call
    cases call with
    | position i' span => apply slot_setSlot
    | _ => rfl
  have hlast := view_foldl (fun slots => slots[i.index]?.join) hstep [] calls
  apply hlast.trans Option.or_none

/-! ### Calls for different parts -/

/-- What calls give concerns one part: calls for other parts do not give it. -/
def Concerns {α : Type} (part : Part) (given? : Call → Option α) : Prop :=
  ∀ call, call.part ≠ part → given? call = none

theorem concerns_symbols :
  Concerns .symbols Call.symbols?
  := by
  intro call hother
  cases call with
  | symbols table => cases hother rfl
  | _ => rfl

theorem concerns_lexical :
  Concerns .lexical Call.lexical?
  := by
  intro call hother
  cases call with
  | lexical info => cases hother rfl
  | _ => rfl

theorem concerns_qualifiers :
  Concerns .qualifiers Call.qualifiers?
  := by
  intro call hother
  cases call with
  | qualifiers set => cases hother rfl
  | _ => rfl

theorem concerns_position (i : InstrIndex) :
  Concerns (.position i) (Call.spanFor? i)
  := by
  intro call hother
  cases call with
  | position i' span => apply if_neg fun hsame => hother (congrArg Part.position hsame)
  | _ => rfl

theorem concerns_handler (block : BlockId) :
  Concerns (.handler block) (Call.typesFor? block)
  := by
  intro call hother
  cases call with
  | catches block' types => apply if_neg fun hsame => hother (congrArg Part.handler hsame)
  | _ => rfl

/-- Swapping calls for different parts does not change what is given for any one part. -/
theorem Concerns.filterMap_swap {α : Type} {part : Part} {given? : Call → Option α}
    (h : Concerns part given?) {first second : Call} (hparts : first.part ≠ second.part)
    (before after : List Call) :
  (before ++ first :: second :: after).filterMap given?
    = (before ++ second :: first :: after).filterMap given?
  := by
  have hnone : given? first = none ∨ given? second = none := by
    by_cases hfirst : first.part = part
    · right
      apply h
      intro hsecond
      apply hparts
      rw [hfirst, hsecond]
    · left
      apply h _ hfirst
  rw [List.filterMap_append, List.filterMap_append]
  congr 1
  rcases hnone with hfirst | hsecond
  · simp only [List.filterMap_cons, hfirst]
  · simp only [List.filterMap_cons, hsecond]

theorem sameAnswers_swap (cfg : Cfg) (before after : List Call) {first second : Call}
    (hparts : first.part ≠ second.part) :
  SameAnswers (assembled cfg (before ++ first :: second :: after))
    (assembled cfg (before ++ second :: first :: after))
  := by
  have hleft := leftBy_assembled cfg (before ++ first :: second :: after)
  have hright := leftBy_assembled cfg (before ++ second :: first :: after)
  constructor
  · rw [hleft.cfg, hright.cfg]
  · rw [hleft.symbols, hright.symbols, concerns_symbols.filterMap_swap hparts]
  · rw [hleft.lexical, hright.lexical, concerns_lexical.filterMap_swap hparts]
  · rw [hleft.qualifiers, hright.qualifiers, concerns_qualifiers.filterMap_swap hparts]
  · intro i
    rw [hleft.position?, hright.position?, (concerns_position i).filterMap_swap hparts]
  · intro block
    rw [hleft.caughtTypes, hright.caughtTypes, (concerns_handler block).filterMap_swap hparts]
  · rw [Bool.eq_iff_iff, hleft.hasCatchBlock, hright.hasCatchBlock]
    simp only [List.mem_append, List.mem_cons, or_left_comm]
  · rfl
  · rfl
  · intro i value
    rfl

end CodeBody

/-! ### Exposed variables -/

/-- Lexical information after exposures, in order. -/
def LexicalInfo.exposeAll (info : LexicalInfo) (exposures : List (Name × ValueId)) : LexicalInfo :=
  exposures.foldl (fun info exposure => info.expose exposure.1 exposure.2) info

theorem LexicalInfo.exposed_exposeAll (info : LexicalInfo) (exposures : List (Name × ValueId)) :
  (info.exposeAll exposures).exposed = info.exposed ++ exposures
  := by
  induction exposures generalizing info with
  | nil => simp [exposeAll]
  | cons exposure rest ih =>
      rw [exposeAll, List.foldl_cons, ← exposeAll, ih, expose, List.append_assoc]
      rfl

/-- The value of an exposed variable is that of its first exposure. -/
theorem LexicalInfo.exposedValue?_exposeAll (parents : List Name)
    (exposures : List (Name × ValueId)) (variableName : Name) :
  (({ parents } : LexicalInfo).exposeAll exposures).exposedValue? variableName
    = ((exposures.filter (·.1 = variableName)).map (·.2)).head?
  := by
  rw [exposedValue?, exposed_exposeAll, List.nil_append]
  induction exposures with
  | nil => rfl
  | cons exposure rest ih =>
      rw [lookup_cons_or, ih, List.filter_cons]
      by_cases hsame : exposure.1 = variableName
      · simp [hsame]
      · simp [hsame]

namespace CodeBody

/-- An assembled body has each part as the last of the calls for it left it: in particular, each
instruction has the position that was given to it last, and none if none was given, as in a table
of positions that grows on demand.  Two calls in a row for different parts can be swapped.  The
value of an exposed variable, in contrast, is that of its first exposure. -/
theorem assembled_answers (cfg : Cfg) (calls : List Call) :
  LeftBy calls cfg (assembled cfg calls) ∧
  (∀ i, (assembled cfg calls).position? i = (positionTable calls)[i.index]?.join) ∧
  (∀ before first second after, calls = before ++ first :: second :: after →
    first.part ≠ second.part →
    SameAnswers (assembled cfg calls) (assembled cfg (before ++ second :: first :: after))) ∧
  (∀ parents exposures variableName,
    (({ parents } : LexicalInfo).exposeAll exposures).exposedValue? variableName
      = ((exposures.filter (·.1 = variableName)).map (·.2)).head?)
  := by
  have hleft := leftBy_assembled cfg calls
  refine ⟨hleft, ?_, ?_, LexicalInfo.exposedValue?_exposeAll⟩
  · intro i
    rw [hleft.position?, slot_positionTable]
  · rintro before first second after rfl hparts
    apply sameAnswers_swap cfg before after hparts

/-- Positions from the last to the first, one of them given twice, and a block that catches
nothing. -/
def scattered : List Call :=
  [.position ⟨4⟩ ⟨10, 12⟩, .catches ⟨1⟩ [], .position ⟨2⟩ ⟨4, 9⟩, .position ⟨4⟩ ⟨20, 22⟩]

theorem assembled_answers_scattered :
  (assembled {} scattered).position? ⟨4⟩ = some ⟨20, 22⟩ ∧
  (assembled {} scattered).position? ⟨3⟩ = none ∧
  (assembled {} scattered).position? ⟨7⟩ = none ∧
  (assembled {} scattered).hasCatchBlock ∧
  (assembled {} scattered).caughtTypes ⟨1⟩ = [] ∧
  Call.part (.position ⟨2⟩ ⟨4, 9⟩) ≠ Call.part (.position ⟨4⟩ ⟨20, 22⟩) ∧
  SameAnswers (assembled {} scattered)
    (assembled {} [.position ⟨4⟩ ⟨10, 12⟩, .catches ⟨1⟩ [], .position ⟨4⟩ ⟨20, 22⟩,
      .position ⟨2⟩ ⟨4, 9⟩])
  := by
  obtain ⟨hleft, hslots, hswap, -⟩ := assembled_answers {} scattered
  have hparts : Call.part (.position ⟨2⟩ ⟨4, 9⟩) ≠ Call.part (.position ⟨4⟩ ⟨20, 22⟩) := by
    decide
  refine ⟨?_, ?_, ?_, ?_, ?_, hparts, ?_⟩
  · rw [hleft.position?]
    decide
  · rw [hslots]
    decide
  · rw [hslots]
    decide
  · apply hleft.hasCatchBlock.mpr
    use ⟨1⟩, []
    decide
  · rw [hleft.caughtTypes]
    decide
  · apply hswap [.position ⟨4⟩ ⟨10, 12⟩, .catches ⟨1⟩ []] _ _ [] rfl hparts

end CodeBody

end DialectIR
