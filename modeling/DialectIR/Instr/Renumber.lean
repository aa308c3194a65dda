import DialectIR.Instr.Operation

/-!
# Renumbering

The instruction with other value numbers in place of its operands.  Replacements are
given by position in `Instr.defs` and `Instr.uses`, and an operand without a replacement
stays as it is.  The new instruction is built by a dialect like any other, so that it has
the exceptions of that dialect.
-/

namespace DialectIR

/-- Replacements for a list of operands by position; the list may be absent, and shorter
or longer than the list of operands. -/
abbrev Replacement := Option (List ValueId)

namespace Replacement

/-- The value for a position that holds `operand`. -/
def pick (r : Replacement) (position : Nat) (operand : ValueId) : ValueId :=
  (r.bind (·[position]?)).getD operand

/-- The values for the positions of `operands`, the first of which is `start`. -/
def run (r : Replacement) (start : Nat) (operands : List ValueId) : List ValueId :=
  operands.mapIdx fun offset operand => r.pick (start + offset) operand

/-- The accesses with the values for their positions. -/
def accesses (r : Replacement) (operands : List LexicalAccess) : List LexicalAccess :=
  operands.mapIdx fun position access =>
    { access with value := r.pick position access.value }

end Replacement

/-- The operation that builds a payload with replaced operands.  An allocation without
arguments and the two kinds of calls, field accesses and returns have operations of their
own. -/
def Payload.operation (d u : Replacement) : Payload → Operation
  | .assign result value => .assign (d.pick 0 result) (u.pick 0 value)
  | .phi result params => .phi (d.pick 0 result) (u.run 0 params)
  | .pi result value block successor cause =>
    .pi (d.pick 0 result) (u.pick 0 value) block successor cause
  | .get result (some object) field => .get (d.pick 0 result) (u.pick 0 object) field
  | .get result none field => .getStatic (d.pick 0 result) field
  | .put (some object) value field => .put (u.pick 0 object) (u.pick 1 value) field
  | .put none value field => .putStatic (u.pick 0 value) field
  | .goto => .goto
  | .conditionalBranch op operandType lhs rhs =>
    .conditionalBranch op operandType (u.pick 0 lhs) (u.pick 1 rhs)
  | .switch scrutinee otherwise cases => .switch (u.pick 0 scrutinee) otherwise cases
  | .ret (some value) isPrimitive => .returnValue (u.pick 0 value) isPrimitive
  | .ret none _ => .returnVoid
  | .raise exception => .raise (u.pick 0 exception)
  | .caughtException result block => .caughtException (d.pick 0 result) block
  | .invoke results exception (some function) params site =>
    .invokeValue (d.run 0 results) (d.pick results.length exception) (u.pick 0 function)
      (u.run 1 params) site
  | .invoke results exception none params site =>
    .invoke (d.run 0 results) (d.pick results.length exception) (u.run 0 params) site
  | .new result [] site => .newObject (d.pick 0 result) site
  | .new result params site => .newWithArgs (d.pick 0 result) (u.run 0 params) site
  | .unary op result value => .unary op (d.pick 0 result) (u.pick 0 value)
  | .binary op result lhs rhs mayBeInteger =>
    .binary op (d.pick 0 result) (u.pick 0 lhs) (u.pick 1 rhs) mayBeInteger
  | .comparison op result lhs rhs =>
    .comparison op (d.pick 0 result) (u.pick 0 lhs) (u.pick 1 rhs)
  | .instanceOf result value ty => .instanceOf (d.pick 0 result) (u.pick 0 value) ty
  | .checkCast result value ty => .checkCast (d.pick 0 result) (u.pick 0 value) ty
  | .conversion result value source target checkOverflow =>
    .conversion (d.pick 0 result) (u.pick 0 value) source target checkOverflow
  | .arrayLength result array => .arrayLength (d.pick 0 result) (u.pick 0 array)
  | .arrayLoad result array index element =>
    .arrayLoad (d.pick 0 result) (u.pick 0 array) (u.pick 1 index) element
  | .arrayStore array index value element =>
    .arrayStore (u.pick 0 array) (u.pick 1 index) (u.pick 2 value) element
  | .monitor object enter => .monitor (u.pick 0 object) enter
  | .loadMetadata result entity token => .loadMetadata (d.pick 0 result) entity token
  | .propertyRead result object member =>
    .propertyRead (d.pick 0 result) (u.pick 0 object) (u.pick 1 member)
  | .propertyWrite object member value =>
    .propertyWrite (u.pick 0 object) (u.pick 1 member) (u.pick 2 value)
  | .lexicalRead accesses => .lexicalRead (d.accesses accesses)
  | .lexicalWrite accesses => .lexicalWrite (u.accesses accesses)
  | .globalRead result slot => .globalRead (d.pick 0 result) slot
  | .globalWrite slot value => .globalWrite slot (u.pick 0 value)
  | .isDefined result object fieldValue field =>
    .isDefined (d.pick 0 result) (u.pick 0 object) (fieldValue.map (u.pick 1)) field
  | .eachElementHasNext result object =>
    .eachElementHasNext (d.pick 0 result) (u.pick 0 object)
  | .eachElementGet result object => .eachElementGet (d.pick 0 result) (u.pick 0 object)
  | .typeOf result object => .typeOf (d.pick 0 result) (u.pick 0 object)
  | .assertion value fromSpecification => .assertion (u.pick 0 value) fromSpecification
  | .echo values => .echo (u.run 0 values)
  | .scopedRegion object enter => .scopedRegion (u.pick 0 object) enter
  | .checkReference value => .checkReference (u.pick 0 value)
  | .dynamicInstanceOf result object typeValue =>
    .dynamicInstanceOf (d.pick 0 result) (u.pick 0 object) (u.pick 1 typeValue)

/-- The instruction with replaced operands, built by a dialect. -/
def Instr.renumber (i : Instr) (dialect : Dialect) (d u : Replacement) :
    Except InstrError Instr :=
  dialect.build (i.payload.operation d u)

end DialectIR
