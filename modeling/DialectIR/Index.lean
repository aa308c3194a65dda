/-!
# Value, block and instruction numbers

The numbers that a front end gives to the values, the basic blocks and the instructions
of a code body.
-/

namespace DialectIR

/-- The number of a value: every operand of an instruction is one. -/
structure ValueId where
  raw : UInt32
  deriving DecidableEq, Inhabited, Repr

/-- The number of a basic block of a code body. -/
structure BlockId where
  raw : UInt32
  deriving DecidableEq, Inhabited, Repr

/-- The position of an instruction in the instruction list of a code body. -/
structure InstrIndex where
  raw : UInt32
  deriving DecidableEq, Inhabited, Repr

instance : Ord ValueId := ⟨fun a b => compare a.raw b.raw⟩
instance : Ord BlockId := ⟨fun a b => compare a.raw b.raw⟩
instance : Ord InstrIndex := ⟨fun a b => compare a.raw b.raw⟩

/-- A value is written as its number after a `v`. -/
def ValueId.text (v : ValueId) : String := s!"v{v.raw}"

/-- The number of a value as a list position. -/
def ValueId.index (v : ValueId) : Nat := v.raw.toNat

/-- A block is written as its number after `bb`. -/
def BlockId.text (b : BlockId) : String := s!"bb{b.raw}"

/-- The number of a block as a list position. -/
def BlockId.index (b : BlockId) : Nat := b.raw.toNat

/-- An instruction position, for diagnostics. -/
def InstrIndex.debugText (i : InstrIndex) : String := s!"InstrIdx({i.raw})"

/-- The number of an instruction as a list position. -/
def InstrIndex.index (i : InstrIndex) : Nat := i.raw.toNat

end DialectIR
