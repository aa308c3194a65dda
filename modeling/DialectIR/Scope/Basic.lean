import DialectIR.Registry.Bootstrap
import DialectIR.Scope.Error

/-!
# Scopes

The loaders of one analysis, in the order in which they were added, each with its
registry.  A loader may name a base loader, which need not be part of the scope yet.
-/

namespace DialectIR

/-- What adds a loader to a scope. -/
structure LoaderSpec where
  name : String
  language : Language
  /-- The loader to which lookups are delegated first. -/
  base : Option String := none
  /-- Whether no input module backs the classes of the loader. -/
  synthetic : Bool := false
  deriving DecidableEq, Inhabited, Repr

/-- A loader of a scope. -/
structure Loader where
  name : Name
  language : Language
  base : Option Name
  registry : Registry
  initialized : Bool
  deriving DecidableEq, Inhabited, Repr

/-- The loaders of one analysis. -/
structure Scope where
  loaders : Array Loader := #[]
  /-- The positions of loaders by name, the latest first. -/
  index : List (Name × LoaderHandle) := []
  deriving DecidableEq, Inhabited, Repr

namespace Scope

/-- The number of loaders. -/
def size (s : Scope) : Nat := s.loaders.size

/-- Whether a scope has no loaders. -/
def isEmpty (s : Scope) : Bool := s.loaders.isEmpty

/-- The loader at a position. -/
def loader? (s : Scope) (h : LoaderHandle) : Option Loader := s.loaders[h.index]?

/-- The position of the loader of a name. -/
def handle? (s : Scope) (n : Name) : Option LoaderHandle := s.index.lookup n

/-- The positions of the loaders in order. -/
def handles (s : Scope) : List LoaderHandle := (List.range s.size).map LoaderHandle.mk

/-- The position of the loader of a name, which need not be interned. -/
def getLoader (s : Scope) (names : Interner) (name : String) :
    Except ScopeError LoaderHandle :=
  match (names.get? name).bind s.handle? with
  | some h => .ok h
  | none => .error (.unknownLoader name)

/-- Whether a loader is initialized. -/
def isInitialized (s : Scope) (h : LoaderHandle) : Bool :=
  ((s.loader? h).map (·.initialized)).getD false

/-- The base of a loader, if it names one that is part of the scope. -/
def base? (s : Scope) (h : LoaderHandle) : Option LoaderHandle := do
  let l ← s.loader? h
  let base ← l.base
  s.handle? base

/-- The scope with one more loader. -/
def push (s : Scope) (l : Loader) : Scope :=
  { loaders := s.loaders.push l, index := (l.name, ⟨s.size⟩) :: s.index }

/-- The scope with one more loader, whose name must be new.  Its registry is empty until
the loader is initialized. -/
def addLanguage (s : Scope) (spec : LoaderSpec) :
    InternM (Scope × Except ScopeError LoaderHandle) := do
  match ← InternM.intern spec.name with
  | .error e => return (s, .error (.noRoom e))
  | .ok n =>
    match s.handle? n with
    | some _ => return (s, .error (.duplicateLoader spec.name))
    | none =>
      let l : Loader :=
        { name := n, language := spec.language, base := none
          registry := .empty n spec.synthetic, initialized := false }
      match spec.base with
      | none => return (s.push l, .ok ⟨s.size⟩)
      | some base =>
        match ← InternM.intern base with
        | .error e => return (s, .error (.noRoom e))
        | .ok b => return (s.push { l with base := some b }, .ok ⟨s.size⟩)

/-- The scope with another registry for a loader. -/
def setRegistry (s : Scope) (h : LoaderHandle) (r : Registry) : Scope :=
  { s with loaders := s.loaders.modify h.index fun l => { l with registry := r } }

end Scope

end DialectIR
