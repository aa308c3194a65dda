/-!
# Names

The type `Name` of handles to interned texts.  A name is a 32-bit word: its low four
bits number the shard of the interner that holds the text, its high bits give the
position of the text within that shard.  The word `0` is the name of the empty text.
-/

namespace DialectIR

/-- A handle to an interned text, compared as a word. -/
structure Name where
  raw : UInt32
  deriving DecidableEq, Inhabited, Repr

namespace Name

/-- The order of names is the order of their words. -/
instance : Ord Name := ⟨fun m n => compare m.raw n.raw⟩

/-- The number of shards of an interner, which four bits tell apart. -/
abbrev shardCount : Nat := 16

/-- The largest position that fits into the other 28 bits. -/
def maxPosition : Nat := 0x0FFFFFFF

/-- The name of the empty text. -/
def empty : Name := ⟨0⟩

/-- The name of the text at `position` of `shard`. -/
def pack (shard : Fin shardCount) (position : Nat) : Name :=
  ⟨UInt32.ofNat (position * shardCount + shard.val)⟩

/-- The shard that holds the text. -/
def shard (n : Name) : Fin shardCount :=
  ⟨n.raw.toNat % shardCount, Nat.mod_lt _ (by decide)⟩

/-- The position of the text within its shard. -/
def position (n : Name) : Nat :=
  n.raw.toNat / shardCount

/-- Whether the name is that of the empty text. -/
def isEmpty (n : Name) : Bool :=
  n.raw == 0

/-- The name as shard and position, for diagnostics. -/
def debugText (n : Name) : String :=
  s!"Name({n.shard.val}:{n.position})"

theorem toNat_pack
    {position : Nat} (shard : Fin shardCount) (h : position ≤ maxPosition) :
  (pack shard position).raw.toNat = position * shardCount + shard.val
  := by
  have hshard := shard.isLt
  simp only [pack, UInt32.toNat_ofNat', maxPosition, shardCount] at *
  omega

theorem shard_pack
    {position : Nat} (shard : Fin shardCount) (h : position ≤ maxPosition) :
  (pack shard position).shard = shard
  := by
  have hshard := shard.isLt
  apply Fin.ext
  simp only [Name.shard, toNat_pack shard h, shardCount] at *
  omega

theorem position_pack
    {position : Nat} (shard : Fin shardCount) (h : position ≤ maxPosition) :
  (pack shard position).position = position
  := by
  have hshard := shard.isLt
  simp only [Name.position, toNat_pack shard h, shardCount] at *
  omega

theorem pack_shard_position (n : Name) :
  pack n.shard n.position = n
  := by
  obtain ⟨raw⟩ := n
  simp only [pack, shard, position, Nat.div_add_mod', UInt32.ofNat_toNat]

end Name

end DialectIR
