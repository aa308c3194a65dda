import DialectIR.Scope.Resolution

/-!
# Initializing loaders

A loader is initialized by bootstrapping its registry, after its base and only if the
superclasses of all its classes can then be resolved.  If the bootstrap fails or one cannot
be, the registry is taken back to what it was, unless the failure cannot be told: that leaves
what there is.
-/

namespace DialectIR.Scope

/-- The error that keeps a loader from being initialized on account of its base: the base
is not part of the scope, or not initialized. -/
def baseError? (s : Scope) (l : Loader) : Option ScopeError :=
  match l.base with
  | none => none
  | some base =>
    match s.handle? base with
    | none => some (.unknownBase base)
    | some h => if s.isInitialized h then none else some (.uninitializedBaseLoader l.name base)

/-- The first error in resolving the superclasses of the listed classes of a loader. -/
def unresolved? (s : Scope) (h : LoaderHandle) (ids : List ClassId) : Option ScopeError :=
  ids.findSome? fun id =>
    match s.resolveSuperclass h id with
    | .error e => some e
    | .ok _ => none

/-- The scope in which a loader is marked as initialized. -/
def markInitialized (s : Scope) (h : LoaderHandle) : Scope :=
  { s with loaders := s.loaders.modify h.index fun l => { l with initialized := true } }

/-- The scope in which the registry of a loader is taken back to a checkpoint. -/
def rollbackLoader (s : Scope) (h : LoaderHandle) (point : Checkpoint) : Scope :=
  { s with
    loaders := s.loaders.modify h.index fun l =>
      { l with registry := l.registry.rollback point } }

/-- The scope after the registry of a loader was bootstrapped and the superclasses of its
classes were looked up, as far as that goes. -/
def bootstrapLoader (s : Scope) (names : Interner) (h : LoaderHandle) (l : Loader) :
    Scope × Except ScopeError Unit :=
  match l.registry.bootstrap names l.language with
  | (failed, .error e) => (s.setRegistry h failed, .error (.registry e))
  | (started, .ok ()) =>
    let t := s.setRegistry h started
    match t.unresolved? h started.classIds with
    | some e => (t, .error e)
    | none => (t, .ok ())

/-- The scope after a loader was initialized, or after the attempt failed.  A loader that
is initialized already stays as it is. -/
def initializeLoader (s : Scope) (names : Interner) (h : LoaderHandle) :
    Scope × Except ScopeError Unit :=
  match s.loader? h with
  | none => (s, .error (.noSuchLoader h))
  | some l =>
    if l.initialized then (s, .ok ())
    else
      match s.baseError? l with
      | some e => (s, .error e)
      | none =>
        match s.bootstrapLoader names h l with
        | (t, .error e) =>
          (if e.canBeTold names then t.rollbackLoader h l.registry.checkpoint else t, .error e)
        | (t, .ok ()) => (t.markInitialized h, .ok ())

/-- The scope after the listed loaders were initialized in order, up to the first that
cannot be. -/
def initializeEach (s : Scope) (names : Interner) :
    List LoaderHandle → Scope × Except ScopeError Unit
  | [] => (s, .ok ())
  | h :: rest =>
    match s.initializeLoader names h with
    | (t, .error e) => (t, .error e)
    | (t, .ok ()) => t.initializeEach names rest

/-- The scope after all loaders were initialized in the order in which they were added,
up to the first that cannot be. -/
def initializeAll (s : Scope) (names : Interner) : Scope × Except ScopeError Unit :=
  s.initializeEach names s.handles

end DialectIR.Scope
