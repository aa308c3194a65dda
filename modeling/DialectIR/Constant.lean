import DialectIR.Interner
import DialectIR.Decimal.Positional
import DialectIR.Text.Quoted

/-!
# Constants

The constant values of code bodies and metadata loads.  Floating-point constants are kept
as words, so that constants are equal exactly when they have the same bits.
-/

namespace DialectIR

/-- A constant value. -/
inductive Constant where
  | null
  | bool (value : Bool)
  | int (value : Int32)
  | long (value : Int64)
  /-- A floating-point number of 32 bits. -/
  | float (word : UInt32)
  /-- A floating-point number of 64 bits. -/
  | double (word : UInt64)
  | string (text : Name)
  deriving DecidableEq, Inhabited, Repr

/-- The kinds of constants. -/
inductive ConstantKind where
  | null | bool | int | long | float | double | string
  deriving DecidableEq, Inhabited, Repr

namespace ConstantKind

/-- The name of a kind of constants. -/
def name : ConstantKind → String
  | .null => "null"
  | .bool => "boolean"
  | .int => "int"
  | .long => "long"
  | .float => "float"
  | .double => "double"
  | .string => "string"

/-- The kinds in order. -/
def all : List ConstantKind := [.null, .bool, .int, .long, .float, .double, .string]

/-- Kinds are ordered as they are listed. -/
instance : Ord ConstantKind := ⟨fun a b => compare (all.idxOf a) (all.idxOf b)⟩

/-- Whether the constants of a kind are integers or floating-point numbers. -/
def isNumeric : ConstantKind → Bool
  | .int | .long | .float | .double => true
  | _ => false

end ConstantKind

namespace Constant

/-- The kind of a constant. -/
def kind : Constant → ConstantKind
  | .null => .null
  | .bool _ => .bool
  | .int _ => .int
  | .long _ => .long
  | .float _ => .float
  | .double _ => .double
  | .string _ => .string

/-- A constant in a listing.  Long integers end in `L`, short floating-point numbers in
`f`, and texts are quoted; a text that the interner does not hold has no listing. -/
def text? (names : Interner) : Constant → Option String
  | .null => some "null"
  | .bool value => some (if value then "true" else "false")
  | .int value => some (toString value.toInt)
  | .long value => some (toString value.toInt ++ "L")
  | .float word => some (BinaryFormat.single.text word.toNat ++ "f")
  | .double word => some (BinaryFormat.double.text word.toNat)
  | .string name => (names.lookup? name).map Text.quoted

end Constant

end DialectIR
