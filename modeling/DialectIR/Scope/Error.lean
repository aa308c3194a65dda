import DialectIR.Registry.Error

/-!
# Scope errors

The ways in which a request to a scope fails, with their texts.  An error has a text under
the interners that hold the names in it.
-/

namespace DialectIR

/-- The position of a loader in its scope. -/
structure LoaderHandle where
  index : Nat
  deriving DecidableEq, Inhabited, Repr

/-- A request that a scope cannot meet. -/
inductive ScopeError where
  /-- A loader needs another that is not initialized yet. -/
  | uninitializedBaseLoader (loader base : Name)
  | unknownLoader (name : String)
  /-- A loader names a base that is not part of the scope. -/
  | unknownBase (base : Name)
  | unknownLanguage (name : String)
  | duplicateLoader (name : String)
  /-- The registry of a loader cannot meet the request. -/
  | registry (error : RegistryError)
  /-- The position is not that of a loader. -/
  | noSuchLoader (handle : LoaderHandle)
  /-- The interner has no room for a name that is needed. -/
  | noRoom (error : InternError)
  deriving DecidableEq, Repr

/-- The name of the kind of a scope error. -/
def ScopeError.kind : ScopeError → String
  | .uninitializedBaseLoader .. => "UninitializedBaseLoader"
  | .unknownLoader _ | .unknownBase _ => "UnknownLoader"
  | .unknownLanguage _ => "UnknownLanguage"
  | .duplicateLoader _ => "DuplicateLoader"
  | .registry error => "Registry." ++ error.kind
  | .noSuchLoader _ => "NoSuchLoader"
  | .noRoom _ => "NoRoom"

/-- The text of a scope error. -/
def ScopeError.message? (names : Interner) : ScopeError → Option String
  | .uninitializedBaseLoader loader base => do
    return "loader `" ++ (← names.lookup? loader) ++ "` depends on `" ++
      (← names.lookup? base) ++ "`, which has not been initialized"
  | .unknownLoader name => some ("no loader named `" ++ name ++ "`")
  | .unknownBase base => do return "no loader named `" ++ (← names.lookup? base) ++ "`"
  | .unknownLanguage name => some ("no language named `" ++ name ++ "` in the catalog")
  | .duplicateLoader name => some ("loader `" ++ name ++ "` is already part of the scope")
  | .registry error => error.message? names
  | .noSuchLoader handle => some ("no loader #" ++ toString handle.index)
  | .noRoom error => some error.message

/-- Whether an interner holds the names in a scope error, so that it can be told. -/
def ScopeError.canBeTold (names : Interner) (e : ScopeError) : Bool :=
  (e.message? names).isSome

end DialectIR
