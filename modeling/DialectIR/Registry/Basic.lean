import DialectIR.Code.Body
import DialectIR.Language
import DialectIR.Registry.Error

/-!
# Registries

The classes and methods of one loader.  Classes lie in the order of their definition, and
an index leads from their names to their positions.  A definition is refused if its name
is taken, and otherwise appends one class; what was defined before keeps its position.

Definitions by text intern the texts first, so that the interner may grow even when the
definition is refused.  The answer to a request stands beside the registry that the request
leaves, whether it was met or not.
-/

namespace DialectIR

/-- The classes and methods of a loader. -/
structure Registry where
  loader : Name
  /-- Whether no input module backs the classes of the loader. -/
  synthetic : Bool := false
  classes : Array Class := #[]
  /-- The positions of classes by name, the latest first. -/
  index : List (Name × ClassId) := []
  methods : Array Method := #[]
  /-- The parent types of code bodies, known after bootstrap. -/
  codeBodyTypes : Option CodeBodyTypes := none
  deriving DecidableEq, Inhabited, Repr

namespace Registry

/-- The registry of a loader before anything is defined in it. -/
def empty (loader : Name) (synthetic : Bool) : Registry := { loader, synthetic }

/-- The number of classes. -/
def size (r : Registry) : Nat := r.classes.size

/-- Whether a registry has no classes. -/
def isEmpty (r : Registry) : Bool := r.classes.isEmpty

/-! ## Looking up -/

/-- The position of the class of a name. -/
def classId? (r : Registry) (n : Name) : Option ClassId := r.index.lookup n

/-- The class at a position. -/
def class? (r : Registry) (id : ClassId) : Option Class := r.classes[id.index]?

/-- The class of a name. -/
def classNamed? (r : Registry) (n : Name) : Option Class := (r.classId? n).bind r.class?

/-- The position of the class of a name, which need not be interned. -/
def lookupClass? (r : Registry) (names : Interner) (name : String) : Option ClassId :=
  (names.get? name).bind r.classId?

/-- The method at a position. -/
def method? (r : Registry) (id : MethodId) : Option Method := r.methods[id.index]?

/-- The method bound to the class of a name, which need not be interned. -/
def codeBody? (r : Registry) (names : Interner) (name : String) : Option Method := do
  let id ← r.lookupClass? names name
  let c ← r.class? id
  let body ← c.body?
  r.method? body

/-- The positions of the classes in order. -/
def classIds (r : Registry) : List ClassId := (List.range r.size).map ClassId.mk

/-! ## Defining -/

/-- The class that a definition makes in a registry: it starts as declared, and a code
body starts unbound. -/
def classOf (r : Registry) (d : ClassDef) : Class where
  ty := ⟨r.loader, d.name⟩
  kind := d.kind.unbound
  superclass := d.superclass
  interfaces := d.interfaces
  flags := d.flags.union { isSynthetic := r.synthetic }
  span := d.span
  state := .declared

/-- The registry with one more class, if its name is not taken. -/
def define (r : Registry) (d : ClassDef) : Registry × Except RegistryError ClassId :=
  match r.classId? d.name with
  | some _ => (r, .error (.duplicateType r.loader d.name))
  | none =>
    let id : ClassId := ⟨r.size⟩
    ({ r with
        classes := r.classes.push (r.classOf d)
        index := (d.name, id) :: r.index }, .ok id)

/-- The registry with one more class, whose superclass is given by its name in this
loader. -/
def defineClass (r : Registry) (name : String) (superName : Option String)
    (kind : ClassKind) (span : Span) :
    InternM (Registry × Except RegistryError ClassId) := do
  match ← InternM.intern name with
  | .error e => return (r, .error (.noRoom e))
  | .ok n =>
    match superName with
    | none => return r.define { name := n, kind, span }
    | some superName =>
      match ← InternM.intern superName with
      | .error e => return (r, .error (.noRoom e))
      | .ok s => return r.define { name := n, kind, superclass := some ⟨r.loader, s⟩, span }

/-- The registry with one more code body, whose superclass is given by its name in this
loader. -/
def defineCodeBody (r : Registry) (name parent : String) (span : Span) :
    InternM (Registry × Except RegistryError ClassId) :=
  r.defineClass name (some parent) (.codeBody none) span

/-- The registry with one more code body below one of the parent types of the loader's
language. -/
def defineBelow (r : Registry) (parent : CodeBodyTypes → TypeRef) (name : String)
    (span : Span) : InternM (Registry × Except RegistryError ClassId) :=
  match r.codeBodyTypes with
  | none => return (r, .error (.noCodeBodyTypes r.loader))
  | some types => do
    match ← InternM.intern name with
    | .error e => return (r, .error (.noRoom e))
    | .ok n =>
      return r.define
        { name := n, kind := .codeBody none, superclass := some (parent types), span }

/-- The registry with one more function. -/
def defineFunctionType (r : Registry) (name : String) (span : Span) :
    InternM (Registry × Except RegistryError ClassId) :=
  r.defineBelow (·.function) name span

/-- The registry with one more script. -/
def defineScriptType (r : Registry) (name : String) (span : Span) :
    InternM (Registry × Except RegistryError ClassId) :=
  r.defineBelow (·.script) name span

end Registry

end DialectIR
