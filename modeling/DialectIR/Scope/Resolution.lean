import DialectIR.Scope.Basic

/-!
# Resolution across loaders

A class that is looked up from a loader is searched for in the bases of the loader first,
outermost base before all others, and in the loader itself last.  A superclass that names
another loader is looked up from there, provided that loader is initialized.
-/

namespace DialectIR.Scope

/-- A loader and its bases, innermost first, without those in `seen` and at most `fuel`
of them. -/
def chainFrom (s : Scope) : Nat → List LoaderHandle → LoaderHandle → List LoaderHandle
  | 0, _, _ => []
  | fuel + 1, seen, h =>
    if h ∈ seen then []
    else
      match s.base? h with
      | some base => h :: s.chainFrom fuel (h :: seen) base
      | none => [h]

/-- A loader and its bases, innermost first.  The chain ends at a base that is not part of
the scope and before a loader that is on it already. -/
def delegationChain (s : Scope) (h : LoaderHandle) : List LoaderHandle :=
  s.chainFrom s.size [] h

/-- The class of a name in one loader. -/
def classIn? (s : Scope) (n : Name) (h : LoaderHandle) : Option (LoaderHandle × ClassId) := do
  let l ← s.loader? h
  let id ← l.registry.classId? n
  return (h, id)

/-- The class of a name that is visible from a loader: that of the outermost loader on its
chain that defines the name. -/
def lookupName? (s : Scope) (h : LoaderHandle) (n : Name) :
    Option (LoaderHandle × ClassId) :=
  (s.delegationChain h).reverse.findSome? (s.classIn? n)

/-- The class of a name that is visible from a loader; the name need not be interned. -/
def lookupClass? (s : Scope) (names : Interner) (h : LoaderHandle) (name : String) :
    Option (LoaderHandle × ClassId) :=
  (names.get? name).bind (s.lookupName? h)

/-- The class that a type names, as seen from the type's loader. -/
def lookupType? (s : Scope) (ty : TypeRef) : Option (LoaderHandle × ClassId) := do
  let h ← s.handle? ty.loader
  s.lookupName? h ty.name

/-- Whether a name is that of a loader which is part of the scope and not initialized. -/
def isPending (s : Scope) (n : Name) : Bool :=
  match s.handle? n with
  | some h => !s.isInitialized h
  | none => false

/-- The superclass of a class, in whatever loader it lies, and none for a root.  It fails
where the hierarchy within the loader does, and if the superclass belongs to a loader
that is not initialized or that has no class of its name. -/
def resolveSuperclass (s : Scope) (h : LoaderHandle) (id : ClassId) :
    Except ScopeError (Option (LoaderHandle × ClassId)) :=
  match s.loader? h with
  | none => .error (.noSuchLoader h)
  | some l =>
    match l.registry.superclassOf id with
    | .error e => .error (.registry e)
    | .ok (some superclass) => .ok (some (h, superclass))
    | .ok none =>
      match l.registry.class? id with
      | none => .error (.registry (.noSuchClass l.registry.loader id))
      | some c =>
        match c.superclass with
        | none => .ok none
        | some superclass =>
          if superclass.loader = l.registry.loader then .ok none
          else if s.isPending superclass.loader then
            .error (.uninitializedBaseLoader l.registry.loader superclass.loader)
          else
            match s.lookupType? superclass with
            | some found => .ok (some found)
            | none => .error (.registry (.hierarchy c.name (.undefinedType superclass)))

end DialectIR.Scope
