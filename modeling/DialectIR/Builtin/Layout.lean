import DialectIR.Builtin.Ecma
import DialectIR.Builtin.Jvm
import DialectIR.Catalog
import DialectIR.Scope.Initialization

/-!
# The built-in languages and their layouts

The catalog of the built-in languages, and the loaders with which a scope for one of them
customarily starts.
-/

namespace DialectIR

/-- The catalog of the built-in languages. -/
def builtinCatalog : InternM (Except LanguageError Catalog) := do
  match ← Ecma.language with
  | .error e => return .error (.noRoom e)
  | .ok ecma =>
    match ← Jvm.language with
    | .error e => return .error (.noRoom e)
    | .ok bytecode =>
      match ← Jvm.sourceLanguage with
      | .error e => return .error (.noRoom e)
      | .ok source => Catalog.ofList [ecma, bytecode, source]

/-- A loader of a layout: its name, the name of its language, and its base. -/
structure LayoutEntry where
  loader : String
  language : String
  base : Option String := none
  synthetic : Bool := false
  deriving DecidableEq, Repr

/-- The loaders of a scope in order. -/
abbrev Layout := List LayoutEntry

namespace Layout

/-- The single loader of the ecma language. -/
def ecma : Layout :=
  [{ loader := Ecma.loaderName, language := Ecma.languageName }]

/-- The primordial loader, the application loader and a loader for source, each on top of
the one before. -/
def jvmSource : Layout :=
  [{ loader := Jvm.primordialLoader, language := Jvm.languageName },
    { loader := Jvm.applicationLoader, language := Jvm.languageName,
      base := some Jvm.primordialLoader },
    { loader := Jvm.sourceLoader, language := Jvm.sourceLanguageName,
      base := some Jvm.applicationLoader, synthetic := true }]

/-- What an entry adds to a scope, in terms of a catalog. -/
def spec (c : Catalog) (names : Interner) (e : LayoutEntry) : Except ScopeError LoaderSpec :=
  match c.get? names e.language with
  | some language => .ok { name := e.loader, language, base := e.base, synthetic := e.synthetic }
  | none => .error (.unknownLanguage e.language)

/-- The scope with more loaders, up to the first that cannot be added. -/
def addEach (s : Scope) : List LoaderSpec → InternM (Except ScopeError Scope)
  | [] => return .ok s
  | spec :: rest => do
    match ← s.addLanguage spec with
    | (_, .error e) => return .error e
    | (s, .ok _) => addEach s rest

/-- The scope with the loaders of a layout, all initialized. -/
def build (layout : Layout) (c : Catalog) : InternM (Except ScopeError Scope) := do
  match layout.mapM (spec c (← get)) with
  | .error e => return .error e
  | .ok specs =>
    match ← addEach {} specs with
    | .error e => return .error e
    | .ok s =>
      match s.initializeAll (← get) with
      | (_, .error e) => return .error e
      | (s, .ok ()) => return .ok s

end Layout

end DialectIR
