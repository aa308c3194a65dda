import DialectIR.Registry.Hierarchy

/-!
# Bootstrap

A loader starts with the classes that its language's template gives to it.  If one of
them cannot be defined, or if the hierarchy cannot be resolved afterwards, the classes of
the template are removed again.  Only a failure that cannot be told, because it concerns
a name that the interner never gave out, leaves everything as it was when it arose.
-/

namespace DialectIR

/-- The sizes of a registry at a time, to which it can be taken back. -/
structure Checkpoint where
  classes : Nat
  methods : Nat
  codeBodyTypes : Option CodeBodyTypes
  deriving DecidableEq, Inhabited, Repr

/-- The definition that a template gives for a class. -/
def ClassTemplate.definition (t : ClassTemplate) : ClassDef where
  name := t.ty.name
  kind := t.kind
  superclass := t.superclass
  interfaces := t.interfaces
  flags := t.flags

namespace Registry

/-- The sizes of a registry now. -/
def checkpoint (r : Registry) : Checkpoint :=
  ⟨r.classes.size, r.methods.size, r.codeBodyTypes⟩

/-- The registry without the classes and methods that came after a checkpoint. -/
def rollback (r : Registry) (c : Checkpoint) : Registry :=
  { r with
    classes := r.classes.take c.classes
    index := r.index.filter (·.2.index < c.classes)
    methods := r.methods.take c.methods
    codeBodyTypes := c.codeBodyTypes }

/-- The registry with the listed classes defined in order, up to the first that cannot
be. -/
def defineEach (r : Registry) : List ClassDef → Registry × Except RegistryError Unit
  | [] => (r, .ok ())
  | d :: rest =>
    match r.define d with
    | (undefined, .error e) => (undefined, .error e)
    | (defined, .ok _) => defined.defineEach rest

/-- The registry after the template of a language was defined and the hierarchy resolved,
as far as that goes. -/
def defineTemplate (r : Registry) (l : Language) : Registry × Except RegistryError Unit :=
  match r.defineEach ((l.templateOf r.loader).map ClassTemplate.definition) with
  | (defined, .error e) => (defined, .error e)
  | (defined, .ok ()) => { defined with codeBodyTypes := l.codeBodyTypes }.resolveHierarchy

/-- The registry after the template of a language was defined and the hierarchy resolved;
on a failure that can be told the classes of the template are removed. -/
def bootstrap (r : Registry) (names : Interner) (l : Language) :
    Registry × Except RegistryError Unit :=
  match r.defineTemplate l with
  | (started, .ok ()) => (started, .ok ())
  | (started, .error e) =>
    (if e.canBeTold names then started.rollback r.checkpoint else started, .error e)

end Registry

end DialectIR
