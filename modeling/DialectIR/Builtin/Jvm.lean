import DialectIR.Language

/-!
# The jvm languages

Bytecode and source of one typed language with numbers of several widths, integer
division that traps, and null checks on fields, arrays and monitors.  Source adds
assertions, and its loader is one of its own; both start with the same classes, which
belong to the primordial loader.

The languages are described under a naming of their vocabulary, so that what holds of
them does not depend on how texts are interned.
-/

namespace DialectIR.Jvm

/-- The name of the bytecode language. -/
def languageName : String := "jvm"

/-- The name of the source language. -/
def sourceLanguageName : String := "jvm-source"

/-- The loader that owns the classes of the template. -/
def primordialLoader : String := "Primordial"

/-- The customary loader of application classes. -/
def applicationLoader : String := "Application"

/-- The loader of classes that come from source. -/
def sourceLoader : String := "Source"

/-- The primitive types: source keyword and descriptor. -/
def primitives : List (String × String) :=
  [("boolean", "Z"), ("byte", "B"), ("char", "C"), ("short", "S"), ("int", "I"),
    ("long", "J"), ("float", "F"), ("double", "D"), ("void", "V")]

/-- The classes below the root and strings, each with its superclass, in the order of the
template. -/
def hierarchy : List (String × String) :=
  [("Ljava/lang/Class", "Ljava/lang/Object"),
    ("Ljava/lang/Throwable", "Ljava/lang/Object"),
    ("Ljava/lang/Exception", "Ljava/lang/Throwable"),
    ("Ljava/lang/RuntimeException", "Ljava/lang/Exception"),
    ("Ljava/lang/Error", "Ljava/lang/Throwable"),
    ("Ljava/lang/NullPointerException", "Ljava/lang/RuntimeException"),
    ("Ljava/lang/ArithmeticException", "Ljava/lang/RuntimeException"),
    ("Ljava/lang/ClassCastException", "Ljava/lang/RuntimeException"),
    ("Ljava/lang/ArrayIndexOutOfBoundsException", "Ljava/lang/RuntimeException"),
    ("Ljava/lang/OutOfMemoryError", "Ljava/lang/Error"),
    ("null", "Ljava/lang/Object")]

/-- The interfaces of the template. -/
def interfaces : List String := ["Ljava/lang/Cloneable", "Ljava/io/Serializable"]

/-- The texts that the dialects mention, as they come to them. -/
def dialectVocabulary : List String :=
  [primordialLoader, "Ljava/lang/NullPointerException", "Ljava/lang/Object",
    "Ljava/lang/RuntimeException", "Ljava/lang/Error", "Ljava/lang/OutOfMemoryError",
    "Ljava/lang/ArithmeticException", "Ljava/lang/ClassCastException",
    "Ljava/lang/ArrayIndexOutOfBoundsException"]

/-- The texts that the languages mention besides, as they come to them.  Some come more than
once. -/
def describedVocabulary : List String :=
  ["Ljava/lang/Object", "Ljava/io/Serializable", "Ljava/lang/Throwable", "null", "Z", "I", "J",
    "F", "D", "Ljava/lang/String", "Ljava/lang/Cloneable", "Ljava/lang/Class"] ++
    primitives.flatMap (fun (keyword, descriptor) => [descriptor, keyword]) ++
    hierarchy.map (·.1) ++ interfaces

/-- The texts that the bytecode language mentions. -/
def vocabulary : List String :=
  dialectVocabulary ++ describedVocabulary

/-- The texts that the source language mentions. -/
def sourceVocabulary : List String :=
  dialectVocabulary ++ sourceLoader :: describedVocabulary

/-- A type of the primordial loader. -/
def ty (naming : String → Name) (name : String) : TypeRef :=
  ⟨naming primordialLoader, naming name⟩

/-- The shapes and exceptions that the two dialects share, under a naming. -/
def commonDialect (naming : String → Name) (name : String) : Dialect :=
  let t := ty naming
  { name
    root := t "Ljava/lang/Object"
    shapes := .baseline \ .single .overflowConversion
    fieldAccess := some [t "Ljava/lang/NullPointerException"]
    invoke := [t "Ljava/lang/RuntimeException", t "Ljava/lang/Error"]
    allocation := [t "Ljava/lang/OutOfMemoryError"]
    arithmetic := some [t "Ljava/lang/ArithmeticException"]
    cast := [t "Ljava/lang/ClassCastException"]
    array := [t "Ljava/lang/NullPointerException", t "Ljava/lang/ArrayIndexOutOfBoundsException"]
    monitor := [t "Ljava/lang/NullPointerException"] }

/-- The bytecode dialect under a naming. -/
def dialectOf (naming : String → Name) : Dialect :=
  commonDialect naming languageName

/-- The source dialect under a naming: bytecode with assertions. -/
def sourceDialectOf (naming : String → Name) : Dialect :=
  let d := commonDialect naming sourceLanguageName
  { d with shapes := d.shapes ∪ .single .assertion }

/-- The classes of the template under a naming. -/
def templateOf (naming : String → Name) : List ClassTemplate :=
  let t := ty naming
  [{ ty := t "Ljava/lang/Object" },
    { ty := t "Ljava/lang/String", superclass := some (t "Ljava/lang/Object")
      interfaces := [t "Ljava/io/Serializable"] }] ++
  hierarchy.map (fun (name, superclass) =>
    { ty := t name, superclass := some (t superclass) }) ++
  interfaces.map fun name =>
    { ty := t name, superclass := some (t "Ljava/lang/Object")
      flags := { isInterface := true, isAbstract := true } }

/-- The language of a name, home loader and dialect under a naming. -/
def describe (naming : String → Name) (name : String) (home : Name) (dialect : Dialect) :
    Language :=
  let t := ty naming
  { name
    home
    dialect
    throwable := t "Ljava/lang/Throwable"
    constants :=
      [(.null, t "null"), (.bool, t "Z"), (.int, t "I"), (.long, t "J"), (.float, t "F"),
        (.double, t "D"), (.string, t "Ljava/lang/String")]
    primitives := primitives.map fun (keyword, descriptor) => (naming keyword, t descriptor)
    nullTypes := [t "null"]
    stringTypes := [t "Ljava/lang/String"]
    doubleTypes := [t "D"]
    floatTypes := [t "F"]
    intTypes := [t "I"]
    longTypes := [t "J"]
    invokeExceptions := [t "Ljava/lang/RuntimeException", t "Ljava/lang/Error"]
    arrayInterfaces := interfaces.map t
    metadataToken := some (t "Ljava/lang/Class")
    template := templateOf naming }

/-- The bytecode language under a naming. -/
def languageOf (naming : String → Name) : Language :=
  describe naming languageName (naming primordialLoader) (dialectOf naming)

/-- The source language under a naming. -/
def sourceLanguageOf (naming : String → Name) : Language :=
  describe naming sourceLanguageName (naming sourceLoader) (sourceDialectOf naming)

/-- The bytecode dialect, with the texts it mentions interned. -/
def dialect : InternM (Except InternError Dialect) :=
  Except.map dialectOf <$> InternM.naming dialectVocabulary

/-- The bytecode language, with the texts it mentions interned. -/
def language : InternM (Except InternError Language) :=
  Except.map languageOf <$> InternM.naming vocabulary

/-- The source language, with the texts it mentions interned. -/
def sourceLanguage : InternM (Except InternError Language) :=
  Except.map sourceLanguageOf <$> InternM.naming sourceVocabulary

end DialectIR.Jvm
