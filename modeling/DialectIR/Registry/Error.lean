import DialectIR.Class

/-!
# Registry errors

The ways in which a request to a registry fails, with their texts.  Classes, loaders and
types appear as their names where these are interned, and as text where they need not be.
An error has a text under the interners that hold the names in it.
-/

namespace DialectIR

/-- Why the hierarchy above a class cannot be resolved. -/
inductive HierarchyFault where
  /-- The superclass chain does not end. -/
  | cycle
  /-- A name in the loader of the class is not defined. -/
  | undefinedName (name : Name)
  /-- A type of another loader is not defined. -/
  | undefinedType (ty : TypeRef)
  deriving DecidableEq, Repr

/-- The text of a hierarchy fault. -/
def HierarchyFault.message? (names : Interner) : HierarchyFault → Option String
  | .cycle => some "superclass chain is cyclic"
  | .undefinedName name => do return "`" ++ (← names.lookup? name) ++ "` is not defined"
  | .undefinedType ty => do return "`" ++ (← ty.text? names) ++ "` is not defined"

/-- A request that a registry cannot meet. -/
inductive RegistryError where
  | duplicateType (loader name : Name)
  | alreadyBound (name : String)
  | unknownClass (loader : Name) (name : String)
  | notACodeBody (name : String)
  /-- The loader knows no parent types of functions and scripts. -/
  | noCodeBodyTypes (loader : Name)
  | hierarchy (className : Name) (fault : HierarchyFault)
  | unknownMethod (loader : Name) (method : MethodId)
  /-- A scoping parent of a method has no bound code body. -/
  | missingLexicalParent (method parent : Name)
  /-- The position is not that of a class. -/
  | noSuchClass (loader : Name) (id : ClassId)
  /-- The interner has no room for a name that is needed. -/
  | noRoom (error : InternError)
  deriving DecidableEq, Repr

/-- The name of the kind of a registry error. -/
def RegistryError.kind : RegistryError → String
  | .duplicateType .. => "DuplicateTypeDefinition"
  | .alreadyBound _ => "AlreadyBound"
  | .unknownClass .. => "UnknownClass"
  | .notACodeBody _ => "NotACodeBody"
  | .noCodeBodyTypes _ => "NoCodeBodyTypes"
  | .hierarchy .. => "HierarchyError"
  | .unknownMethod .. => "UnknownMethod"
  | .missingLexicalParent .. => "MissingLexicalParent"
  | .noSuchClass .. => "NoSuchClass"
  | .noRoom _ => "NoRoom"

/-- The text of a registry error. -/
def RegistryError.message? (names : Interner) : RegistryError → Option String
  | .duplicateType loader name => do
    return "type `" ++ (← names.lookup? name) ++ "` is already defined in loader `" ++
      (← names.lookup? loader) ++ "`"
  | .alreadyBound name => some ("code body `" ++ name ++ "` is already bound")
  | .unknownClass loader name => do
    return "no class named `" ++ name ++ "` in loader `" ++ (← names.lookup? loader) ++ "`"
  | .notACodeBody name => some ("class `" ++ name ++ "` is not a code body")
  | .noCodeBodyTypes loader => do
    return "loader `" ++ (← names.lookup? loader) ++ "` has no function or script types"
  | .hierarchy className fault => do
    return "cannot resolve the hierarchy of `" ++ (← names.lookup? className) ++ "`: " ++
      (← fault.message? names)
  | .unknownMethod loader method => do
    return "no method #" ++ toString method.index ++ " in loader `" ++
      (← names.lookup? loader) ++ "`"
  | .missingLexicalParent method parent => do
    return "code body `" ++ (← names.lookup? method) ++ "` names lexical parent `" ++
      (← names.lookup? parent) ++ "`, which has no bound code body"
  | .noSuchClass loader id => do
    return "no class #" ++ toString id.index ++ " in loader `" ++
      (← names.lookup? loader) ++ "`"
  | .noRoom error => some error.message

/-- Whether an interner holds the names in a registry error, so that it can be told. -/
def RegistryError.canBeTold (names : Interner) (e : RegistryError) : Bool :=
  (e.message? names).isSome

end DialectIR
