import DialectIR.Reference
import DialectIR.Span

/-!
# Classes

The classes that a loader owns, of whatever shape, with the definitions that front ends
give for them.
-/

namespace DialectIR

/-- The position of a class in its registry. -/
structure ClassId where
  index : Nat
  deriving DecidableEq, Inhabited, Repr

/-- The position of a method in its registry. -/
structure MethodId where
  index : Nat
  deriving DecidableEq, Inhabited, Repr

/-- The shape of a class. -/
inductive ClassKind where
  | plain
  /-- A class whose objects accept fields that are named at run time. -/
  | dynamicProperty
  /-- A function or script, and its method once one is bound to it. -/
  | codeBody (body : Option MethodId)
  deriving DecidableEq, Inhabited, Repr

/-- The kind with its method removed. -/
def ClassKind.unbound : ClassKind → ClassKind
  | .codeBody _ => .codeBody none
  | kind => kind

/-- The lifecycle of a class. -/
inductive ClassState where
  /-- The name is taken and the attributes are set. -/
  | declared
  /-- The superclass and the interfaces were found. -/
  | hierarchyResolved
  /-- A method is bound. -/
  | bodyBound
  deriving DecidableEq, Inhabited, Repr

/-- The name of a state. -/
def ClassState.name : ClassState → String
  | .declared => "Declared"
  | .hierarchyResolved => "HierarchyResolved"
  | .bodyBound => "BodyBound"

/-- The state after the hierarchy was found; later states stay. -/
def ClassState.resolve : ClassState → ClassState
  | .declared => .hierarchyResolved
  | state => state

/-- The flags of a class. -/
structure ClassFlags where
  isInterface : Bool := false
  isAbstract : Bool := false
  /-- No input module backs the class. -/
  isSynthetic : Bool := false
  deriving DecidableEq, Inhabited, Repr

/-- The names of the flags that are set. -/
def ClassFlags.names (f : ClassFlags) : List String :=
  ([(f.isInterface, "INTERFACE"), (f.isAbstract, "ABSTRACT"),
    (f.isSynthetic, "SYNTHETIC")].filter (·.1)).map (·.2)

/-- The flags that one of two sets has. -/
def ClassFlags.union (a b : ClassFlags) : ClassFlags where
  isInterface := a.isInterface || b.isInterface
  isAbstract := a.isAbstract || b.isAbstract
  isSynthetic := a.isSynthetic || b.isSynthetic

/-- What defines a class.  The superclass may belong to another loader. -/
structure ClassDef where
  name : Name
  kind : ClassKind
  superclass : Option TypeRef := none
  interfaces : List TypeRef := []
  flags : ClassFlags := {}
  span : Span := .dummy
  deriving DecidableEq, Inhabited, Repr

/-- A class of a loader. -/
structure Class where
  /-- The loader and the name of the class. -/
  ty : TypeRef
  kind : ClassKind
  /-- The declared superclass; only roots have none. -/
  superclass : Option TypeRef
  interfaces : List TypeRef
  flags : ClassFlags
  span : Span
  state : ClassState
  deriving DecidableEq, Inhabited, Repr

namespace Class

/-- The name of a class. -/
def name (c : Class) : Name := c.ty.name

/-- The loader of a class. -/
def loader (c : Class) : Name := c.ty.loader

/-- Whether a class backs a function or script. -/
def isCodeBody (c : Class) : Bool :=
  match c.kind with
  | .codeBody _ => true
  | _ => false

/-- Whether the objects of a class accept fields that are named at run time. -/
def supportsDynamicProperties (c : Class) : Bool :=
  match c.kind with
  | .dynamicProperty => true
  | _ => false

/-- The method bound to a class. -/
def body? (c : Class) : Option MethodId :=
  match c.kind with
  | .codeBody body => body
  | _ => none

/-- The class in the state after its hierarchy was found. -/
def resolved (c : Class) : Class :=
  { c with state := c.state.resolve }

/-- The class with a method bound to it. -/
def bind (c : Class) (method : MethodId) : Class :=
  { c with kind := .codeBody (some method), state := .bodyBound }

end Class

end DialectIR
