import DialectIR.Language

/-!
# Catalogs

The languages known to a process, in the order of registration, with distinct names.
-/

namespace DialectIR

/-- Languages and the index of their names. -/
structure Catalog where
  languages : List Language := []
  /-- The places of languages by name. -/
  index : List (Name × Nat) := []
  deriving DecidableEq, Inhabited, Repr

namespace Catalog

/-- The catalog with one more language, whose name must be new. -/
def add (c : Catalog) (l : Language) : InternM (Except LanguageError Catalog) := do
  match ← InternM.intern l.name with
  | .error e => return .error (.noRoom e)
  | .ok n =>
    match c.index.lookup n with
    | some _ => return .error (.duplicateLanguage l.name)
    | none =>
      return .ok
        { languages := c.languages ++ [l], index := (n, c.languages.length) :: c.index }

/-- The catalog with more languages, up to the first whose name is not new. -/
def addAll (c : Catalog) : List Language → InternM (Except LanguageError Catalog)
  | [] => return .ok c
  | l :: rest => do
    match ← c.add l with
    | .ok c => c.addAll rest
    | .error e => return .error e

/-- The catalog of a list of languages. -/
def ofList (languages : List Language) : InternM (Except LanguageError Catalog) :=
  addAll {} languages

/-- The language of a name, which need not be interned. -/
def get? (c : Catalog) (names : Interner) (name : String) : Option Language := do
  let n ← names.get? name
  let place ← c.index.lookup n
  c.languages[place]?

/-- The number of languages. -/
def size (c : Catalog) : Nat := c.languages.length

/-- Whether a catalog has no languages. -/
def isEmpty (c : Catalog) : Bool := c.languages.isEmpty

end Catalog

end DialectIR
