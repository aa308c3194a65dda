import DialectIR.Constant
import DialectIR.Index

/-!
# Symbol tables

The values of a code body that are parameters or hold constants, and the highest value
number recorded so far, above which fresh values are reserved.
-/

namespace DialectIR

/-- The value numbers of a code body. -/
structure SymbolTable where
  /-- The constants that values hold, the latest first. -/
  constants : List (ValueId × Constant) := []
  params : List ValueId := []
  /-- The highest value number recorded so far. -/
  highest : Option ValueId := none
  deriving DecidableEq, Inhabited, Repr

namespace SymbolTable

/-- The table that records a value. -/
def note (t : SymbolTable) (value : ValueId) : SymbolTable :=
  match t.highest with
  | some highest =>
    if value.raw ≤ highest.raw then t else { t with highest := some value }
  | none => { t with highest := some value }

/-- The table of a code body with parameters. -/
def ofParams (params : List ValueId) : SymbolTable :=
  { params.foldl note {} with params }

/-- The table in which a value holds a constant, in place of any that it held. -/
def setConstant (t : SymbolTable) (value : ValueId) (constant : Constant) : SymbolTable :=
  let noted := t.note value
  { noted with constants := (value, constant) :: noted.constants }

/-- The constant that a value holds. -/
def constant? (t : SymbolTable) (value : ValueId) : Option Constant :=
  t.constants.lookup value

/-- Whether a value holds a constant. -/
def isConstant (t : SymbolTable) (value : ValueId) : Bool :=
  (t.constant? value).isSome

/-- A fresh value, one above the highest recorded, and the table that records it. -/
def newValue (t : SymbolTable) : ValueId × SymbolTable :=
  let next : ValueId :=
    match t.highest with
    | some highest => ⟨highest.raw + 1⟩
    | none => ⟨0⟩
  (next, { t with highest := some next })

end SymbolTable

end DialectIR
