import DialectIR.Language

/-!
# The ecma language

A dynamic script language.  Every value is an object below `Root`, numbers of all widths
have one type, values name properties, and functions and scripts are classes below
`CodeBody`.

The language is described under a naming of its vocabulary, so that what holds of it does
not depend on how texts are interned.
-/

namespace DialectIR.Ecma

/-- The name of the language. -/
def languageName : String := "ecma"

/-- The loader that owns the classes of the template. -/
def loaderName : String := "Ecma"

/-- The classes directly below the root, in the order of the template. -/
def rootChildren : List String :=
  ["Undefined", "Primitives", "FakeRoot", "String", "Null", "Array", "Object", "TypeError",
    "CodeBody", "Boolean", "Number", "Date", "RegExp"]

/-- The parent types of code bodies, below their common supertype. -/
def codeBodyChildren : List String := ["Function", "Script"]

/-- The objects that wrap primitive values, below `Object`. -/
def objectChildren : List String :=
  ["BooleanObject", "NumberObject", "DateObject", "RegExpObject", "StringObject"]

/-- The types that are primitive under their own names. -/
def primitiveNames : List String := ["Boolean", "Number", "String", "Date", "RegExp"]

/-- The texts that the dialect mentions, as it comes to them. -/
def dialectVocabulary : List String := [loaderName, "TypeError", "Root"]

/-- The texts that the language mentions, as it comes to them.  Some come more than once. -/
def vocabulary : List String :=
  [loaderName, "Root", "Number"] ++ dialectVocabulary ++
    ["Null", "Boolean", "String", "Undefined", "StringObject", "NumberObject", "CodeBody"] ++
    codeBodyChildren ++ primitiveNames ++ rootChildren ++ objectChildren

/-- A type of the loader. -/
def ty (naming : String → Name) (name : String) : TypeRef :=
  ⟨naming loaderName, naming name⟩

/-- The dialect under a naming: every extension, and calls through function values.
Allocation and access to properties raise type errors, calls raise anything, and access
to fields and arithmetic never except. -/
def dialectOf (naming : String → Name) : Dialect where
  name := languageName
  root := ty naming "Root"
  shapes := .extensions ∪ .single .functionInvoke
  invoke := [ty naming "Root"]
  allocation := [ty naming "TypeError"]
  dynamicAccess := [ty naming "TypeError"]

/-- The classes of the template under a naming. -/
def templateOf (naming : String → Name) : List ClassTemplate :=
  let t := ty naming
  [{ ty := t "Root", kind := .dynamicProperty }] ++
  rootChildren.map (fun name =>
    { ty := t name, superclass := some (t "Root")
      kind := if name = "Object" then .dynamicProperty else .plain }) ++
  codeBodyChildren.map (fun name => { ty := t name, superclass := some (t "CodeBody") }) ++
  objectChildren.map fun name => { ty := t name, superclass := some (t "Object") }

/-- The language under a naming. -/
def languageOf (naming : String → Name) : Language where
  name := languageName
  home := naming loaderName
  dialect := dialectOf naming
  constants :=
    [(.null, ty naming "Null"), (.bool, ty naming "Boolean"), (.string, ty naming "String"),
      (.int, ty naming "Number"), (.long, ty naming "Number"), (.float, ty naming "Number"),
      (.double, ty naming "Number")]
  primitives := primitiveNames.map fun name => (naming name, ty naming name)
  nullTypes := [ty naming "Undefined", ty naming "Null"]
  stringTypes := [ty naming "String", ty naming "StringObject"]
  doubleTypes := [ty naming "Number", ty naming "NumberObject"]
  invokeExceptions := [ty naming "Root"]
  codeBodyTypes := some ⟨ty naming "CodeBody", ty naming "Function", ty naming "Script"⟩
  template := templateOf naming

/-- The dialect, with the texts it mentions interned. -/
def dialect : InternM (Except InternError Dialect) :=
  Except.map dialectOf <$> InternM.naming dialectVocabulary

/-- The language, with the texts it mentions interned. -/
def language : InternM (Except InternError Language) :=
  Except.map languageOf <$> InternM.naming vocabulary

end DialectIR.Ecma
