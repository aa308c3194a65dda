import DialectIR.Class
import DialectIR.Constant
import DialectIR.Dialect

/-!
# Languages

A source language: the types of its constants and primitives, the dialect of its
instructions, and the classes with which every loader of the language starts.
-/

namespace DialectIR

/-- A class with which loaders of a language start. -/
structure ClassTemplate where
  ty : TypeRef
  kind : ClassKind := .plain
  superclass : Option TypeRef := none
  flags : ClassFlags := {}
  interfaces : List TypeRef := []
  deriving DecidableEq, Inhabited, Repr

/-- The parent types of the code bodies of a language. -/
structure CodeBodyTypes where
  /-- The common supertype of functions and scripts. -/
  base : TypeRef
  function : TypeRef
  script : TypeRef
  deriving DecidableEq, Inhabited, Repr

/-- A question to a language that it has no answer to. -/
inductive LanguageError where
  | unclassifiableConstant (language : String) (kind : ConstantKind)
  | unknownPrimitiveType (language name : String)
  | notApplicable (language query : String)
  /-- The catalog has a language of that name. -/
  | duplicateLanguage (language : String)
  /-- The interner has no room for a name that is needed. -/
  | noRoom (error : InternError)
  deriving DecidableEq, Repr

/-- The name of the kind of a language error. -/
def LanguageError.kind : LanguageError → String
  | .unclassifiableConstant .. => "UnclassifiableConstant"
  | .unknownPrimitiveType .. => "UnknownPrimitiveType"
  | .notApplicable .. => "NotApplicable"
  | .duplicateLanguage _ => "DuplicateLanguage"
  | .noRoom _ => "NoRoom"

/-- The text of a language error. -/
def LanguageError.message : LanguageError → String
  | .unclassifiableConstant language kind =>
    "language `" ++ language ++ "` has no type for " ++ kind.name ++ " constants"
  | .unknownPrimitiveType language name =>
    "language `" ++ language ++ "` has no primitive type named `" ++ name ++ "`"
  | .notApplicable language query =>
    "`" ++ query ++ "` is not applicable to language `" ++ language ++ "`"
  | .duplicateLanguage language =>
    "language `" ++ language ++ "` is already in the catalog"
  | .noRoom error => error.message

/-- A source language.  Of two entries of a table for one key the later counts. -/
structure Language where
  name : String
  /-- The loader that owns the classes of the template. -/
  home : Name
  dialect : Dialect
  /-- The root of the types that can be thrown. -/
  throwable : TypeRef := dialect.root
  /-- The types of constants by kind. -/
  constants : List (ConstantKind × TypeRef) := []
  /-- The primitive types by source name. -/
  primitives : List (Name × TypeRef) := []
  nullTypes : List TypeRef := []
  stringTypes : List TypeRef := []
  doubleTypes : List TypeRef := []
  floatTypes : List TypeRef := []
  intTypes : List TypeRef := []
  longTypes : List TypeRef := []
  /-- The types that any call may raise. -/
  invokeExceptions : List TypeRef := []
  /-- The interfaces of every array type. -/
  arrayInterfaces : List TypeRef := []
  /-- The type of what a metadata load gives. -/
  metadataToken : Option TypeRef := none
  codeBodyTypes : Option CodeBodyTypes := none
  /-- The classes that bootstrap defines, in order. -/
  template : List ClassTemplate := []
  deriving DecidableEq, Inhabited, Repr

namespace Language

/-- The root of the type hierarchy. -/
def root (l : Language) : TypeRef := l.dialect.root

/-- The type of a constant. -/
def constantType (l : Language) (constant : Constant) : Except LanguageError TypeRef :=
  match l.constants.reverse.lookup constant.kind with
  | some ty => .ok ty
  | none => .error (.unclassifiableConstant l.name constant.kind)

/-- The type of the primitive of a source name. -/
def primitive? (l : Language) (n : Name) : Option TypeRef :=
  l.primitives.reverse.lookup n

/-- The type of the primitive of a source name, which need not be interned. -/
def lookupPrimitive (l : Language) (names : Interner) (name : String) :
    Except LanguageError TypeRef :=
  match (names.get? name).bind l.primitive? with
  | some ty => .ok ty
  | none => .error (.unknownPrimitiveType l.name name)

/-- The primitive types with their source names, in the order of the names. -/
def primitiveTypes (l : Language) (names : Interner) : List (String × TypeRef) :=
  let entries := (l.primitives.map (·.1)).eraseDups.filterMap fun n => do
    return (← names.lookup? n, ← l.primitive? n)
  entries.mergeSort fun a b => a.1 ≤ b.1

/-- The types that a call of a method may raise.  They do not depend on the method, as
callees are not resolved when call sites are built. -/
def inferInvokeExceptions (l : Language) (_ : MethodRef) : List TypeRef :=
  l.invokeExceptions

/-- The type of what a metadata load gives. -/
def metadataTokenType (l : Language) : Except LanguageError TypeRef :=
  match l.metadataToken with
  | some ty => .ok ty
  | none => .error (.notApplicable l.name "metadata_token_type")

/-- The classes of the template that a loader owns, in order. -/
def templateOf (l : Language) (loader : Name) : List ClassTemplate :=
  l.template.filter (·.ty.loader == loader)

end Language

end DialectIR
