import DialectIR.Constant
import DialectIR.Index
import DialectIR.Instr.Opcode
import DialectIR.Operator
import DialectIR.Reference

/-!
# Instruction payloads

What an instruction does and to which values.  The values it defines and the values it
uses are listed in a fixed order for each kind of instruction; renumbering addresses
operands by their positions in these two lists.
-/

namespace DialectIR

/-- Access to one variable of an enclosing code body. -/
structure LexicalAccess where
  /-- The code body that defines the variable. -/
  definer : Name
  /-- The variable's name in the definer. -/
  variableName : Name
  /-- The value that is read into or written from. -/
  value : ValueId
  deriving DecidableEq, Inhabited, Repr

/-- The payload of an instruction.  A field access without an object is static, and a
call without a function value names its target in its site. -/
inductive Payload where
  | assign (result value : ValueId)
  /-- The merge of values at a join of control flow. -/
  | phi (result : ValueId) (params : List ValueId)
  /-- The refinement of a value on the edge from `block` to `successor`, justified by the
  instruction at `cause`. -/
  | pi (result value : ValueId) (block successor : BlockId) (cause : InstrIndex)
  | get (result : ValueId) (object : Option ValueId) (field : FieldRef)
  | put (object : Option ValueId) (value : ValueId) (field : FieldRef)
  | goto
  /-- A branch taken when `lhs op rhs` holds. -/
  | conditionalBranch (op : BranchOp) (operandType : TypeRef) (lhs rhs : ValueId)
  | switch (scrutinee : ValueId) (otherwise : BlockId) (cases : List (Int32 × BlockId))
  | ret (value : Option ValueId) (isPrimitive : Bool)
  | raise (exception : ValueId)
  /-- The binding of the exception that the handler `block` caught. -/
  | caughtException (result : ValueId) (block : BlockId)
  | invoke (results : List ValueId) (exception : ValueId) (function : Option ValueId)
      (params : List ValueId) (site : CallSite)
  | new (result : ValueId) (params : List ValueId) (site : AllocationSite)
  | unary (op : UnaryOp) (result value : ValueId)
  | binary (op : BinaryOp) (result lhs rhs : ValueId) (mayBeInteger : Bool)
  | comparison (op : ComparisonOp) (result lhs rhs : ValueId)
  | instanceOf (result value : ValueId) (ty : TypeRef)
  | checkCast (result value : ValueId) (ty : TypeRef)
  | conversion (result value : ValueId) (source target : TypeRef) (checkOverflow : Bool)
  | arrayLength (result array : ValueId)
  | arrayLoad (result array index : ValueId) (element : TypeRef)
  | arrayStore (array index value : ValueId) (element : TypeRef)
  | monitor (object : ValueId) (enter : Bool)
  /-- The load of what represents `token` at run time. -/
  | loadMetadata (result : ValueId) (entity : TypeRef) (token : Constant)
  | propertyRead (result object member : ValueId)
  | propertyWrite (object member value : ValueId)
  | lexicalRead (accesses : List LexicalAccess)
  | lexicalWrite (accesses : List LexicalAccess)
  | globalRead (result : ValueId) (slot : FieldRef)
  | globalWrite (slot : FieldRef) (value : ValueId)
  | isDefined (result object : ValueId) (fieldValue : Option ValueId)
      (field : Option FieldRef)
  | eachElementHasNext (result object : ValueId)
  | eachElementGet (result object : ValueId)
  | typeOf (result object : ValueId)
  | assertion (value : ValueId) (fromSpecification : Bool)
  | echo (values : List ValueId)
  /-- The start or the end of a region in which `object` resolves names. -/
  | scopedRegion (object : ValueId) (enter : Bool)
  | checkReference (value : ValueId)
  | dynamicInstanceOf (result object typeValue : ValueId)
  deriving DecidableEq, Inhabited, Repr

namespace Payload

/-- The kind of a payload. -/
def opcode : Payload → Opcode
  | .assign .. => .assign
  | .phi .. => .phi
  | .pi .. => .pi
  | .get .. => .get
  | .put .. => .put
  | .goto => .goto
  | .conditionalBranch .. => .conditionalBranch
  | .switch .. => .switch
  | .ret .. => .ret
  | .raise .. => .raise
  | .caughtException .. => .caughtException
  | .invoke .. => .invoke
  | .new .. => .new
  | .unary .. => .unary
  | .binary .. => .binary
  | .comparison .. => .comparison
  | .instanceOf .. => .instanceOf
  | .checkCast .. => .checkCast
  | .conversion .. => .conversion
  | .arrayLength .. => .arrayLength
  | .arrayLoad .. => .arrayLoad
  | .arrayStore .. => .arrayStore
  | .monitor .. => .monitor
  | .loadMetadata .. => .loadMetadata
  | .propertyRead .. => .propertyRead
  | .propertyWrite .. => .propertyWrite
  | .lexicalRead .. => .lexicalRead
  | .lexicalWrite .. => .lexicalWrite
  | .globalRead .. => .globalRead
  | .globalWrite .. => .globalWrite
  | .isDefined .. => .isDefined
  | .eachElementHasNext .. => .eachElementHasNext
  | .eachElementGet .. => .eachElementGet
  | .typeOf .. => .typeOf
  | .assertion .. => .assertion
  | .echo .. => .echo
  | .scopedRegion .. => .scopedRegion
  | .checkReference .. => .checkReference
  | .dynamicInstanceOf .. => .dynamicInstanceOf

/-- The values that an instruction defines.  A call defines its results and then its
exception. -/
def defs : Payload → List ValueId
  | .assign result _ => [result]
  | .phi result _ => [result]
  | .pi result _ _ _ _ => [result]
  | .get result _ _ => [result]
  | .caughtException result _ => [result]
  | .invoke results exception _ _ _ => results ++ [exception]
  | .new result _ _ => [result]
  | .unary _ result _ => [result]
  | .binary _ result _ _ _ => [result]
  | .comparison _ result _ _ => [result]
  | .instanceOf result _ _ => [result]
  | .checkCast result _ _ => [result]
  | .conversion result _ _ _ _ => [result]
  | .arrayLength result _ => [result]
  | .arrayLoad result _ _ _ => [result]
  | .loadMetadata result _ _ => [result]
  | .propertyRead result _ _ => [result]
  | .lexicalRead accesses => accesses.map (·.value)
  | .globalRead result _ => [result]
  | .isDefined result _ _ _ => [result]
  | .eachElementHasNext result _ => [result]
  | .eachElementGet result _ => [result]
  | .typeOf result _ => [result]
  | .dynamicInstanceOf result _ _ => [result]
  | .put .. | .goto | .conditionalBranch .. | .switch .. | .ret .. | .raise ..
  | .arrayStore .. | .monitor .. | .propertyWrite .. | .lexicalWrite .. | .globalWrite ..
  | .assertion .. | .echo .. | .scopedRegion .. | .checkReference .. => []

/-- The values that an instruction uses.  A call uses its function value before its
parameters. -/
def uses : Payload → List ValueId
  | .assign _ value => [value]
  | .phi _ params => params
  | .pi _ value _ _ _ => [value]
  | .get _ object _ => object.toList
  | .put object value _ => object.toList ++ [value]
  | .conditionalBranch _ _ lhs rhs => [lhs, rhs]
  | .switch scrutinee _ _ => [scrutinee]
  | .ret value _ => value.toList
  | .raise exception => [exception]
  | .invoke _ _ function params _ => function.toList ++ params
  | .new _ params _ => params
  | .unary _ _ value => [value]
  | .binary _ _ lhs rhs _ => [lhs, rhs]
  | .comparison _ _ lhs rhs => [lhs, rhs]
  | .instanceOf _ value _ => [value]
  | .checkCast _ value _ => [value]
  | .conversion _ value _ _ _ => [value]
  | .arrayLength _ array => [array]
  | .arrayLoad _ array index _ => [array, index]
  | .arrayStore array index value _ => [array, index, value]
  | .monitor object _ => [object]
  | .propertyRead _ object member => [object, member]
  | .propertyWrite object member value => [object, member, value]
  | .lexicalWrite accesses => accesses.map (·.value)
  | .globalWrite _ value => [value]
  | .isDefined _ object fieldValue _ => object :: fieldValue.toList
  | .eachElementHasNext _ object => [object]
  | .eachElementGet _ object => [object]
  | .typeOf _ object => [object]
  | .assertion value _ => [value]
  | .echo values => values
  | .scopedRegion object _ => [object]
  | .checkReference value => [value]
  | .dynamicInstanceOf _ object typeValue => [object, typeValue]
  | .goto | .caughtException .. | .loadMetadata .. | .lexicalRead .. | .globalRead .. => []

/-- Whether control may go on to the next instruction of the block.  A conditional branch
does so on its false edge. -/
def fallsThrough : Payload → Bool
  | .goto | .switch .. | .ret .. | .raise .. => false
  | _ => true

end Payload

end DialectIR
