/-!
# Operators

The operators of unary, binary, comparison and branch instructions, with their names.
-/

namespace DialectIR

/-- Binary arithmetic, bitwise and shift operators. -/
inductive BinaryOp where
  | add | sub | mul | div | rem | and | or | xor | shl | shr
  /-- The right shift that fills with zeros. -/
  | ushr
  deriving DecidableEq, Inhabited, Repr

namespace BinaryOp

/-- The name of a binary operator. -/
def name : BinaryOp → String
  | .add => "add"
  | .sub => "sub"
  | .mul => "mul"
  | .div => "div"
  | .rem => "rem"
  | .and => "and"
  | .or => "or"
  | .xor => "xor"
  | .shl => "shl"
  | .shr => "shr"
  | .ushr => "ushr"

/-- Whether the operator traps on integers with a zero divisor. -/
def mayTrap : BinaryOp → Bool
  | .div | .rem => true
  | _ => false

/-- The binary operators in order. -/
def all : List BinaryOp :=
  [.add, .sub, .mul, .div, .rem, .and, .or, .xor, .shl, .shr, .ushr]

end BinaryOp

/-- Unary operators. -/
inductive UnaryOp where
  | neg
  /-- Logical negation. -/
  | not
  /-- Bitwise complement. -/
  | bitNot
  deriving DecidableEq, Inhabited, Repr

namespace UnaryOp

/-- The name of a unary operator. -/
def name : UnaryOp → String
  | .neg => "neg"
  | .not => "not"
  | .bitNot => "bitnot"

/-- The unary operators in order. -/
def all : List UnaryOp := [.neg, .not, .bitNot]

end UnaryOp

/-- Comparisons that produce a value: the first three are the three-way comparisons of
bytecode, the others give a boolean. -/
inductive ComparisonOp where
  | cmp | cmpl | cmpg | eq | ne | lt | le | gt | ge | strictEq | strictNe
  deriving DecidableEq, Inhabited, Repr

namespace ComparisonOp

/-- The name of a comparison. -/
def name : ComparisonOp → String
  | .cmp => "cmp"
  | .cmpl => "cmpl"
  | .cmpg => "cmpg"
  | .eq => "eq"
  | .ne => "ne"
  | .lt => "lt"
  | .le => "le"
  | .gt => "gt"
  | .ge => "ge"
  | .strictEq => "stricteq"
  | .strictNe => "strictne"

/-- The comparisons in order. -/
def all : List ComparisonOp :=
  [.cmp, .cmpl, .cmpg, .eq, .ne, .lt, .le, .gt, .ge, .strictEq, .strictNe]

end ComparisonOp

/-- Predicates of conditional branches. -/
inductive BranchOp where
  | eq | ne | lt | ge | gt | le
  deriving DecidableEq, Inhabited, Repr

namespace BranchOp

/-- The name of a branch predicate. -/
def name : BranchOp → String
  | .eq => "eq"
  | .ne => "ne"
  | .lt => "lt"
  | .ge => "ge"
  | .gt => "gt"
  | .le => "le"

/-- The predicate that holds on the other edge. -/
def negate : BranchOp → BranchOp
  | .eq => .ne
  | .ne => .eq
  | .lt => .ge
  | .ge => .lt
  | .gt => .le
  | .le => .gt

/-- The branch predicates in order. -/
def all : List BranchOp := [.eq, .ne, .lt, .ge, .gt, .le]

@[simp] theorem negate_negate (op : BranchOp) : op.negate.negate = op := by
  cases op <;> rfl

end BranchOp

end DialectIR
