import DialectIR.Reference
import DialectIR.Shape

/-!
# Dialects

What distinguishes the instructions of one language from those of another: the optional
shapes that exist in it, and the exceptions that its instructions may raise.
-/

namespace DialectIR

/-- The instruction policy of a language. -/
structure Dialect where
  name : String
  /-- The root of the type hierarchy; fields given by bare name are declared on it. -/
  root : TypeRef
  shapes : ShapeSet := .empty
  /-- Raised by access to a field of an object; such access never excepts if absent. -/
  fieldAccess : Option (List TypeRef) := none
  /-- Raised by a throw; none listed means any. -/
  raised : List TypeRef := []
  /-- Raised by calls. -/
  invoke : List TypeRef := []
  /-- Raised by allocations. -/
  allocation : List TypeRef := []
  /-- Raised by access to properties and globals and by reference checks. -/
  dynamicAccess : List TypeRef := []
  /-- Raised by integer division and remainder; they never except if absent. -/
  arithmetic : Option (List TypeRef) := none
  /-- Raised by access to arrays. -/
  array : List TypeRef := []
  /-- Raised by casts. -/
  cast : List TypeRef := []
  /-- Raised by monitors. -/
  monitor : List TypeRef := []
  deriving DecidableEq, Inhabited, Repr

namespace Dialect

/-- Whether a dialect has a shape. -/
def has (d : Dialect) (s : Shape) : Bool :=
  d.shapes.contains s

/-- Whether a dialect has every shape of a set. -/
def supports (d : Dialect) (shapes : ShapeSet) : Bool :=
  d.shapes.includes shapes

/-- The field of a given name that the root declares, with the root as its type. -/
def rootField (d : Dialect) (name : Name) : FieldRef :=
  ⟨d.root, name, d.root⟩

end Dialect

end DialectIR
