import DialectIR.Instr.Basic

/-!
# Visitors

Consumers of instructions that handle some opcodes.  An instruction of another opcode is
an error, never skipped.
-/

namespace DialectIR

/-- A consumer of instructions with answers in `α`: a handler for each opcode that it
supports. -/
structure Visitor (α : Type) where
  handler : Opcode → Option (Instr → Except InstrError α)

/-- The answer of a visitor to an instruction. -/
def Instr.dispatch {α : Type} (i : Instr) (visitor : Visitor α) : Except InstrError α :=
  match visitor.handler i.opcode with
  | some handle => handle i
  | none => .error (.unsupportedVariant i.opcode)

end DialectIR
