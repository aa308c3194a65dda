/-!
# Opcodes

The kinds of instructions, first those of the baseline and then the language extensions,
with the names that listings use.
-/

namespace DialectIR

/-- The kind of an instruction. -/
inductive Opcode where
  | assign | phi | pi | get | put | goto | conditionalBranch | switch | ret | raise
  | caughtException | invoke | new | unary | binary | comparison | instanceOf | checkCast
  | conversion | arrayLength | arrayLoad | arrayStore | monitor | loadMetadata
  | propertyRead | propertyWrite | lexicalRead | lexicalWrite | globalRead | globalWrite
  | isDefined | eachElementHasNext | eachElementGet | typeOf | assertion | echo
  | scopedRegion | checkReference | dynamicInstanceOf
  deriving DecidableEq, Inhabited, Repr

namespace Opcode

/-- The name of an opcode. -/
def name : Opcode → String
  | .assign => "assign"
  | .phi => "phi"
  | .pi => "pi"
  | .get => "get"
  | .put => "put"
  | .goto => "goto"
  | .conditionalBranch => "conditional_branch"
  | .switch => "switch"
  | .ret => "return"
  | .raise => "throw"
  | .caughtException => "get_caught_exception"
  | .invoke => "invoke"
  | .new => "new"
  | .unary => "unary_op"
  | .binary => "binary_op"
  | .comparison => "comparison"
  | .instanceOf => "instance_of"
  | .checkCast => "check_cast"
  | .conversion => "conversion"
  | .arrayLength => "array_length"
  | .arrayLoad => "array_load"
  | .arrayStore => "array_store"
  | .monitor => "monitor"
  | .loadMetadata => "load_metadata"
  | .propertyRead => "property_read"
  | .propertyWrite => "property_write"
  | .lexicalRead => "lexical_read"
  | .lexicalWrite => "lexical_write"
  | .globalRead => "global_read"
  | .globalWrite => "global_write"
  | .isDefined => "is_defined"
  | .eachElementHasNext => "each_element_has_next"
  | .eachElementGet => "each_element_get"
  | .typeOf => "type_of"
  | .assertion => "assert"
  | .echo => "echo"
  | .scopedRegion => "scoped_region"
  | .checkReference => "check_reference"
  | .dynamicInstanceOf => "dynamic_instance_of"

/-- Whether an opcode belongs to a language extension. -/
def isExtension : Opcode → Bool
  | .propertyRead | .propertyWrite | .lexicalRead | .lexicalWrite | .globalRead
  | .globalWrite | .isDefined | .eachElementHasNext | .eachElementGet | .typeOf
  | .assertion | .echo | .scopedRegion | .checkReference | .dynamicInstanceOf => true
  | _ => false

end Opcode

end DialectIR
