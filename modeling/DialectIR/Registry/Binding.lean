import DialectIR.Registry.Hierarchy

/-!
# Binding code bodies

A class for a function or script gets its method once, after its hierarchy was resolved.
A method finds the methods of its enclosing code bodies through the classes they are
bound to.
-/

namespace DialectIR

/-- An enclosing code body: the name of its class and its method. -/
structure LexicalParent where
  name : Name
  method : MethodId
  deriving DecidableEq, Inhabited, Repr

namespace Registry

/-- The registry in which a code body is bound to an unbound class, and the position of
the method.  The class must be defined, be unbound, be one for code bodies, and have a
hierarchy that can be resolved; the first of these that fails is reported.  The class is
marked as resolved first, then the method is added, and last the class is marked as bound. -/
def bindCodeBody (r : Registry) (className : String) (body : CodeBody) :
    InternM (Registry × Except RegistryError MethodId) := do
  let names ← get
  match r.lookupClass? names className with
  | none => return (r, .error (.unknownClass r.loader className))
  | some id =>
    match r.class? id with
    | none => return (r, .error (.noSuchClass r.loader id))
    | some c =>
      match c.kind with
      | .codeBody (some _) => return (r, .error (.alreadyBound className))
      | .plain | .dynamicProperty => return (r, .error (.notACodeBody className))
      | .codeBody none =>
        match r.resolveSuperclass id with
        | (unresolved, .error e) => return (unresolved, .error e)
        | (resolved, .ok _) =>
          let method : MethodId := ⟨resolved.methods.size⟩
          match ← InternM.intern codeBodySelector with
          | .error e => return (resolved, .error (.noRoom e))
          | .ok selector =>
            let added :=
              { resolved with methods := resolved.methods.push ⟨id, ⟨c.ty, selector⟩, body⟩ }
            return ({ added with classes := added.classes.modify id.index (·.bind method) },
              .ok method)

/-- The error for a scoping parent of a method that has no bound code body. -/
def missingParent (r : Registry) (m : Method) (parent : Name) : RegistryError :=
  match r.class? m.owner with
  | some c => .missingLexicalParent c.name parent
  | none => .noSuchClass r.loader m.owner

/-- The enclosing code bodies of a method, innermost first.  Each must be the name of a
class with a bound code body. -/
def lexicalParents (r : Registry) (id : MethodId) :
    Except RegistryError (List LexicalParent) :=
  match r.method? id with
  | none => .error (.unknownMethod r.loader id)
  | some m =>
    m.scopingParents.mapM fun parent =>
      match (r.classNamed? parent).bind Class.body? with
      | some method => .ok ⟨parent, method⟩
      | none => .error (r.missingParent m parent)

end Registry

end DialectIR
