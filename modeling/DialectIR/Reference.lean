import DialectIR.Interner

/-!
# Symbolic references

Instructions name the types, fields and methods they mention by loader and name.  A
registry resolves such a reference when it is asked, so that code can be built before
the classes that it mentions exist.

A reference has a text under the interners that hold the names in it.
-/

namespace DialectIR

/-- A type: the loader that owns it and its name within that loader. -/
structure TypeRef where
  loader : Name
  name : Name
  deriving DecidableEq, Inhabited, Repr

namespace TypeRef

/-- Types are ordered by loader and then by name. -/
instance : Ord TypeRef :=
  ⟨fun a b => (compare a.loader b.loader).then (compare a.name b.name)⟩

/-- A type is written as loader, colon and name. -/
def text? (names : Interner) (ty : TypeRef) : Option String := do
  return (← names.lookup? ty.loader) ++ ":" ++ (← names.lookup? ty.name)

/-- The two handles of a type, for diagnostics. -/
def debugText (ty : TypeRef) : String :=
  "TypeRef \x7b loader: " ++ ty.loader.debugText ++ ", name: " ++ ty.name.debugText ++ " \x7d"

end TypeRef

/-- A field, a global, or a named property slot. -/
structure FieldRef where
  /-- The type that declares the field. -/
  declaring : TypeRef
  name : Name
  /-- The declared type of the field. -/
  ty : TypeRef
  deriving DecidableEq, Inhabited, Repr

/-- A field is written as its declaring type, a dot and its name. -/
def FieldRef.text? (names : Interner) (field : FieldRef) : Option String := do
  return (← field.declaring.text? names) ++ "." ++ (← names.lookup? field.name)

/-- A method: the type that declares it and its selector. -/
structure MethodRef where
  declaring : TypeRef
  selector : Name
  deriving DecidableEq, Inhabited, Repr

/-- A method is written as its declaring type, a dot and its selector. -/
def MethodRef.text? (names : Interner) (method : MethodRef) : Option String := do
  return (← method.declaring.text? names) ++ "." ++ (← names.lookup? method.selector)

/-- How a call site selects the method it calls. -/
inductive Dispatch where
  /-- By the type of the receiver. -/
  | virtual
  /-- Without a receiver. -/
  | static
  /-- Exactly the named target. -/
  | special
  /-- Through an interface type. -/
  | interface
  /-- Through a function value. -/
  | dynamic
  deriving DecidableEq, Inhabited, Repr

namespace Dispatch

/-- Whether a call has no receiver. -/
def isStatic : Dispatch → Bool
  | .static => true
  | _ => false

/-- The name of a kind of dispatch. -/
def name : Dispatch → String
  | .virtual => "virtual"
  | .static => "static"
  | .special => "special"
  | .interface => "interface"
  | .dynamic => "dynamic"

end Dispatch

/-- A call site: program counter, declared target and dispatch. -/
structure CallSite where
  pc : UInt32
  target : MethodRef
  dispatch : Dispatch
  deriving DecidableEq, Inhabited, Repr

/-- An allocation site: program counter and allocated type. -/
structure AllocationSite where
  pc : UInt32
  ty : TypeRef
  deriving DecidableEq, Inhabited, Repr

end DialectIR
