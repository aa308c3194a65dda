/-!
# Instruction shapes

The optional shapes of instructions that a dialect may have, and sets of them, kept as a
word with one bit for each shape.  What is not listed here every dialect has:
assignments, phis and pis, access to fields of an object, transfers of control, caught
exceptions, allocation without arguments, operators and unchecked conversions.
-/

namespace DialectIR

/-- The optional instruction shapes, first those of the baseline and then those of the
language extensions. -/
inductive Shape where
  /-- Length, load and store of arrays. -/
  | arrays
  /-- Field access without an object. -/
  | staticFields
  /-- Calls whose target the call site names. -/
  | typedInvoke
  /-- Calls through a function value. -/
  | functionInvoke
  /-- Allocation with arguments. -/
  | newWithArgs
  | checkCast
  /-- Tests against a type that the instruction names. -/
  | instanceOf
  | monitors
  /-- Loads of class literals and other metadata. -/
  | metadata
  /-- Conversions that check for overflow. -/
  | overflowConversion
  /-- Access to properties that a value names. -/
  | propertyAccess
  /-- Access to variables of enclosing code bodies. -/
  | lexical
  | globals
  | isDefined
  /-- Enumeration of the elements of an object. -/
  | eachElement
  | typeOf
  | assertion
  | echo
  /-- Regions in which an object resolves names. -/
  | scopedRegion
  | checkReference
  /-- Tests against a type that a value holds. -/
  | dynamicInstanceOf
  deriving DecidableEq, Inhabited, Repr

namespace Shape

/-- The name of a shape. -/
def name : Shape → String
  | .arrays => "ARRAYS"
  | .staticFields => "STATIC_FIELDS"
  | .typedInvoke => "TYPED_INVOKE"
  | .functionInvoke => "FUNCTION_INVOKE"
  | .newWithArgs => "NEW_WITH_ARGS"
  | .checkCast => "CHECK_CAST"
  | .instanceOf => "INSTANCE_OF"
  | .monitors => "MONITORS"
  | .metadata => "METADATA"
  | .overflowConversion => "OVERFLOW_CONVERSION"
  | .propertyAccess => "PROPERTY_ACCESS"
  | .lexical => "LEXICAL"
  | .globals => "GLOBALS"
  | .isDefined => "IS_DEFINED"
  | .eachElement => "EACH_ELEMENT"
  | .typeOf => "TYPE_OF"
  | .assertion => "ASSERT"
  | .echo => "ECHO"
  | .scopedRegion => "SCOPED_REGION"
  | .checkReference => "CHECK_REFERENCE"
  | .dynamicInstanceOf => "DYNAMIC_INSTANCE_OF"

/-- The bit of a shape in the word of a set: the baseline starts at bit 0 and the
extensions at bit 16. -/
def bit : Shape → UInt32
  | .arrays => 0
  | .staticFields => 1
  | .typedInvoke => 2
  | .functionInvoke => 3
  | .newWithArgs => 4
  | .checkCast => 5
  | .instanceOf => 6
  | .monitors => 7
  | .metadata => 8
  | .overflowConversion => 9
  | .propertyAccess => 16
  | .lexical => 17
  | .globals => 18
  | .isDefined => 19
  | .eachElement => 20
  | .typeOf => 21
  | .assertion => 22
  | .echo => 23
  | .scopedRegion => 24
  | .checkReference => 25
  | .dynamicInstanceOf => 26

/-- The shapes of the baseline in the order of their bits. -/
def baseline : List Shape :=
  [.arrays, .staticFields, .typedInvoke, .functionInvoke, .newWithArgs, .checkCast,
    .instanceOf, .monitors, .metadata, .overflowConversion]

/-- The shapes of the language extensions in the order of their bits. -/
def extensions : List Shape :=
  [.propertyAccess, .lexical, .globals, .isDefined, .eachElement, .typeOf, .assertion,
    .echo, .scopedRegion, .checkReference, .dynamicInstanceOf]

/-- The shapes in the order of their bits. -/
def all : List Shape := baseline ++ extensions

end Shape

/-- A set of shapes. -/
structure ShapeSet where
  bits : UInt32
  deriving DecidableEq, Inhabited, Repr

namespace ShapeSet

/-- The set of no shapes. -/
def empty : ShapeSet := ⟨0⟩

/-- The set of one shape. -/
def single (s : Shape) : ShapeSet := ⟨1 <<< s.bit⟩

instance : Union ShapeSet := ⟨fun a b => ⟨a.bits ||| b.bits⟩⟩

instance : SDiff ShapeSet := ⟨fun a b => ⟨a.bits &&& ~~~b.bits⟩⟩

/-- The set of the listed shapes. -/
def ofList (shapes : List Shape) : ShapeSet :=
  shapes.foldl (fun set s => set ∪ single s) empty

/-- Whether every shape of `b` is in `a`. -/
def includes (a b : ShapeSet) : Bool :=
  a.bits &&& b.bits == b.bits

/-- Whether a shape is in the set. -/
def contains (set : ShapeSet) (s : Shape) : Bool :=
  set.includes (single s)

/-- The shapes of a set in the order of their bits. -/
def toList (set : ShapeSet) : List Shape :=
  Shape.all.filter set.contains

/-- All shapes of the baseline. -/
def baseline : ShapeSet := ofList Shape.baseline

/-- All shapes of the language extensions. -/
def extensions : ShapeSet := ofList Shape.extensions

end ShapeSet

end DialectIR
