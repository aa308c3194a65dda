import DialectIR.Proofs.Instr.Translation
import Mathlib.Data.Nat.Bitwise

/-!
# Dialects that extend others

A dialect that has one more shape than another, and attaches the same exceptions, builds the
instructions of the other and besides them only those of the additional shape.  An instruction
without that shape is renumbered alike by both, from whichever of them it comes.  One that has
it is refused by the smaller dialect, under its own name.
-/

namespace DialectIR

/-! ### Sets of shapes -/

theorem Shape.mem_all (s : Shape) :
  s ∈ Shape.all
  := by
  cases s <;> decide

namespace ShapeSet

theorem toNat_bits_single (s : Shape) :
  (single s).bits.toNat = Nat.pow 2 s.bit.toNat
  := by
  cases s <;> rfl

/-- A shape is in a set if its bit is set in the word of the set. -/
theorem contains_eq_testBit (set : ShapeSet) (s : Shape) :
  set.contains s = set.bits.toNat.testBit s.bit.toNat
  := by
  rw [contains, includes, Bool.eq_iff_iff, beq_iff_eq, ← UInt32.toNat_inj, UInt32.toNat_and,
    toNat_bits_single, Nat.pow_eq, Nat.and_two_pow]
  cases set.bits.toNat.testBit s.bit.toNat with
  | false => simpa using (Nat.two_pow_pos s.bit.toNat).ne
  | true => simp

theorem contains_union (a b : ShapeSet) (s : Shape) :
  (a ∪ b).contains s = (a.contains s || b.contains s)
  := by
  have hbits : (a ∪ b).bits.toNat = a.bits.toNat ||| b.bits.toNat := UInt32.toNat_or _ _
  rw [contains_eq_testBit, contains_eq_testBit, contains_eq_testBit, hbits, Nat.testBit_or]

theorem contains_single (s t : Shape) :
  (single s).contains t ↔ t = s
  := by
  have hall : ∀ s ∈ Shape.all, ∀ t ∈ Shape.all, (single s).contains t ↔ t = s := by
    decide +kernel
  apply hall s s.mem_all t t.mem_all

end ShapeSet

/-! ### One more shape -/

namespace Dialect

/-- The second dialect has one shape more than the first, and attaches the same exceptions. -/
structure ExtendedBy (d : Dialect) (s : Shape) (e : Dialect) : Prop where
  lacks : ¬ d.has s
  has_iff (t : Shape) : e.has t ↔ d.has t ∨ t = s
  exceptionsOf (p : Payload) : e.exceptionsOf p = d.exceptionsOf p

/-- A dialect is extended by adding a shape to those that it has, under a name of its own. -/
theorem extendedBy_with {d : Dialect} {s : Shape} (hlacks : ¬ d.has s) (name : String) :
  d.ExtendedBy s { d with name, shapes := d.shapes ∪ .single s }
  := by
  constructor
  · apply hlacks
  · intro t
    rw [has, ShapeSet.contains_union, Bool.or_eq_true, ShapeSet.contains_single]
    rfl
  · intro p
    rfl

section

variable {d e : Dialect} {s : Shape} (h : d.ExtendedBy s e)

include h

theorem ExtendedBy.instr_eq (p : Payload) :
  e.instr p = d.instr p
  := by
  rw [instr, instr, h.exceptionsOf]

/-- The larger dialect admits what the smaller one does. -/
theorem ExtendedBy.admits {p : Payload} (hp : d.Admits p) :
  e.Admits p
  := by
  refine ⟨?_, hp.2⟩
  intro t ht
  apply (h.has_iff t).mpr
  left
  apply hp.1 t ht

/-- What the larger dialect admits belongs to the additional shape, or the smaller one admits
it. -/
theorem ExtendedBy.admits_or_shape {p : Payload} (hp : e.Admits p) :
  d.Admits p ∧ p.shape? ≠ some s ∨ p.shape? = some s
  := by
  by_cases hshape : p.shape? = some s
  · right
    apply hshape
  · left
    refine ⟨⟨?_, hp.2⟩, hshape⟩
    intro t ht
    rcases (h.has_iff t).mp (hp.1 t ht) with hhas | rfl
    · apply hhas
    · cases hshape ht

end

end Dialect

namespace Instr

variable {d e : Dialect} {s : Shape} (h : d.ExtendedBy s e) {op : Operation} {i : Instr}

include h

/-- An instruction of the smaller dialect is renumbered alike by both. -/
theorem renumber_extended (hbuild : d.build op = .ok i) (defs uses : Replacement) :
  ∃ j, i.renumber d defs uses = .ok j ∧ i.renumber e defs uses = .ok j
  := by
  obtain ⟨hadmits, -⟩ := Dialect.admits_of_build hbuild
  use d.instr (i.payload.replaced defs uses), hadmits.build_operation defs uses
  rw [← h.instr_eq]
  apply (h.admits hadmits).build_operation defs uses

/-- An instruction of the larger dialect is renumbered alike by both, unless it has the
additional shape. -/
theorem renumber_restricted (hbuild : e.build op = .ok i) (defs uses : Replacement) :
  ∃ j, i.renumber e defs uses = .ok j ∧ i.renumber d defs uses
    = if i.payload.shape? = some s then .error (i.payload.refusal d) else .ok j
  := by
  obtain ⟨hadmits, -⟩ := Dialect.admits_of_build hbuild
  use e.instr (i.payload.replaced defs uses), hadmits.build_operation defs uses
  rcases h.admits_or_shape hadmits with ⟨hsmaller, hshape⟩ | hshape
  · rw [if_neg hshape, h.instr_eq]
    apply hsmaller.build_operation defs uses
  · have hlacks : ¬ i.payload.shape?.all d.has := by
      rw [hshape]
      apply h.lacks
    rw [renumber, hadmits.2.build_operation, if_neg hlacks, if_pos hshape]

end Instr

end DialectIR
