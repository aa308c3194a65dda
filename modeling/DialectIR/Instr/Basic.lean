import DialectIR.Instr.Error
import DialectIR.Instr.Payload

/-!
# Instructions

An instruction is a payload together with the exceptions that its dialect attached to it.
Instructions come out of `Dialect.build` and never change.
-/

namespace DialectIR

/-- A payload and its exceptions: none for an instruction that cannot except, and the
types that it may raise for one that can, where no types means unknown ones. -/
structure Instr where
  payload : Payload
  exceptions : Option (List TypeRef)
  deriving DecidableEq, Inhabited, Repr

namespace Instr

/-- An instruction that cannot except. -/
def plain (payload : Payload) : Instr := ⟨payload, none⟩

/-- An instruction that may raise the given types. -/
def excepting (payload : Payload) (types : List TypeRef) : Instr := ⟨payload, some types⟩

/-- The kind of an instruction. -/
def opcode (i : Instr) : Opcode := i.payload.opcode

/-- The values that an instruction defines. -/
def defs (i : Instr) : List ValueId := i.payload.defs

/-- The values that an instruction uses. -/
def uses (i : Instr) : List ValueId := i.payload.uses

/-- The defined value at a position, if there is one. -/
def defAt? (i : Instr) (position : Nat) : Option ValueId := i.defs[position]?

/-- The used value at a position, if there is one. -/
def useAt? (i : Instr) (position : Nat) : Option ValueId := i.uses[position]?

/-- Whether an instruction may hand control to an exception handler. -/
def mayExcept (i : Instr) : Bool := i.exceptions.isSome

/-- The types that an instruction may raise.  The question does not apply to one that
cannot except. -/
def exceptionTypes (i : Instr) : Except InstrError (List TypeRef) :=
  match i.exceptions with
  | some types => .ok types
  | none => .error (.notApplicable "exception_types")

/-- Whether control may go on to the next instruction of the block. -/
def fallsThrough (i : Instr) : Bool := i.payload.fallsThrough

end Instr

end DialectIR
