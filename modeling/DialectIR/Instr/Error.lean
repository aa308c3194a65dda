import DialectIR.Instr.Opcode
import DialectIR.Reference

/-!
# Instruction errors

The ways in which building or querying an instruction fails, with their texts.
-/

namespace DialectIR

/-- An instruction cannot be built, or a query does not apply to it. -/
inductive InstrError where
  /-- A visitor has no handler for the opcode. -/
  | unsupportedVariant (opcode : Opcode)
  /-- The dialect lacks the shape that the operation builds. -/
  | unsupportedOperation (dialect operation : String)
  /-- The dialect has no conversions that check for overflow. -/
  | unsupportedConversion (dialect : String) (source target : TypeRef)
  /-- The query has no meaning for this instruction or code body. -/
  | notApplicable (query : String)
  /-- The operands do not make up what the operation builds. -/
  | malformed (operation reason : String)
  deriving DecidableEq, Repr

/-- The name of the kind of an instruction error. -/
def InstrError.kind : InstrError → String
  | .unsupportedVariant _ => "UnsupportedVariant"
  | .unsupportedOperation .. => "UnsupportedOperation"
  | .unsupportedConversion .. => "UnsupportedConversion"
  | .notApplicable _ => "NotApplicable"
  | .malformed .. => "MalformedShape"

/-- The text of an instruction error.  Types appear in it as their handles. -/
def InstrError.message : InstrError → String
  | .unsupportedVariant opcode =>
    "visitor does not handle `" ++ opcode.name ++ "` instructions"
  | .unsupportedOperation dialect operation =>
    "dialect `" ++ dialect ++ "` does not support `" ++ operation ++ "`"
  | .unsupportedConversion dialect source target =>
    "dialect `" ++ dialect ++ "` cannot build an overflow-checked conversion from `" ++
      source.debugText ++ "` to `" ++ target.debugText ++ "`"
  | .notApplicable query => "`" ++ query ++ "` is not applicable here"
  | .malformed operation reason => "malformed `" ++ operation ++ "`: " ++ reason

end DialectIR
