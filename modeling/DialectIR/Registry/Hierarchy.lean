import DialectIR.Registry.Basic

/-!
# Class hierarchies

Superclasses and interfaces are names that are looked up when they are asked for.  Only
the part of a hierarchy within one loader is resolved here: a superclass of another
loader ends the chain.  A chain of more steps than there are classes has a cycle, so that
the walk along it takes at most that many.
-/

namespace DialectIR.Registry

/-- The class that the superclass of a class names, if it is one of this loader. -/
def localSuperclass (r : Registry) (c : Class) : Except HierarchyFault (Option ClassId) :=
  match c.superclass with
  | none => .ok none
  | some superclass =>
    if superclass.loader = r.loader then
      match r.classId? superclass.name with
      | some id => .ok (some id)
      | none => .error (.undefinedName superclass.name)
    else
      .ok none

/-- The first interface of a class that is named in this loader and not defined. -/
def missingInterface? (r : Registry) (c : Class) : Option Name :=
  (c.interfaces.find? fun interface =>
    interface.loader = r.loader && (r.classId? interface.name).isNone).map (·.name)

/-- The fault on the chain from `current` upwards within `fuel` steps, if there is one: a
name that is not defined, a return to `start`, or no end. -/
def chainFault? (r : Registry) (start : ClassId) : Nat → ClassId → Option HierarchyFault
  | 0, _ => some .cycle
  | fuel + 1, current =>
    if current = start then some .cycle
    else
      match (r.class? current).map r.localSuperclass with
      | some (.ok (some next)) => r.chainFault? start fuel next
      | some (.error fault) => some fault
      | some (.ok none) | none => none

/-- The superclass of a class within this loader, and none for a root and below another
loader.  It fails if an interface of the class, or a class on the chain above it, is not
defined, and if the chain does not end. -/
def superclassOf (r : Registry) (id : ClassId) : Except RegistryError (Option ClassId) :=
  match r.class? id with
  | none => .error (.noSuchClass r.loader id)
  | some c =>
    match r.missingInterface? c with
    | some n => .error (.hierarchy c.name (.undefinedName n))
    | none =>
      match r.localSuperclass c with
      | .error fault => .error (.hierarchy c.name fault)
      | .ok none => .ok none
      | .ok (some superclass) =>
        match r.chainFault? id r.size superclass with
        | some fault => .error (.hierarchy c.name fault)
        | none => .ok (some superclass)

/-- The superclass of a class, and the registry in which the class is marked as
resolved. -/
def resolveSuperclass (r : Registry) (id : ClassId) :
    Registry × Except RegistryError (Option ClassId) :=
  match r.superclassOf id with
  | .error e => (r, .error e)
  | .ok superclass =>
    ({ r with classes := r.classes.modify id.index Class.resolved }, .ok superclass)

/-- The registry after the superclasses of the listed classes were resolved, up to the
first that cannot be. -/
def resolveEach (r : Registry) : List ClassId → Registry × Except RegistryError Unit
  | [] => (r, .ok ())
  | id :: rest =>
    match r.resolveSuperclass id with
    | (unresolved, .error e) => (unresolved, .error e)
    | (resolved, .ok _) => resolved.resolveEach rest

/-- The registry after the superclasses of all classes were resolved in order, up to the
first that cannot be. -/
def resolveHierarchy (r : Registry) : Registry × Except RegistryError Unit :=
  r.resolveEach r.classIds

end DialectIR.Registry
