import DialectIR.Instr.Renumber
import DialectIR.Proofs.Instr.Building
import Mathlib.Tactic.Use

/-!
# Renumbered instructions

Renumbering replaces the operands of an instruction at their positions and changes nothing
else.  All that a dialect looks at when it builds an instruction lies outside the values
of the operands, so that the dialect of an instruction builds the renumbered one as well,
with the same exceptions.
-/

namespace DialectIR

/-! ### Replacements -/

namespace Replacement

theorem run_nil (r : Replacement) (start : Nat) :
  r.run start [] = []
  := rfl

@[simp]
theorem run_cons (r : Replacement) (start : Nat) (v : ValueId) (vs : List ValueId) :
  r.run start (v :: vs) = r.pick start v :: r.run (start + 1) vs
  := by
  simp [run, List.mapIdx_cons, Nat.add_assoc, Nat.add_comm 1]

theorem run_append (r : Replacement) (start : Nat) (vs ws : List ValueId) :
  r.run start (vs ++ ws) = r.run start vs ++ r.run (start + vs.length) ws
  := by
  simp [run, List.mapIdx_append, Nat.add_assoc, Nat.add_comm vs.length]

@[simp]
theorem length_run (r : Replacement) (start : Nat) (vs : List ValueId) :
  (r.run start vs).length = vs.length
  := by
  simp [run]

/-- The operand at a position is the one that was given for it, or the one there before. -/
theorem getElem?_run (r : Replacement) (vs : List ValueId) {k : Nat} (hk : k < vs.length) :
  (r.run 0 vs)[k]? = (r.bind (·[k]?)).or vs[k]?
  := by
  rw [run, List.getElem?_mapIdx, List.getElem?_eq_getElem hk, Option.map_some, Nat.zero_add,
    pick]
  cases r.bind (·[k]?) with
  | none => rfl
  | some v => rfl

/-- Without replacements every operand stays. -/
theorem run_none (start : Nat) (vs : List ValueId) :
  run none start vs = vs
  := by
  induction vs generalizing start with
  | nil => rfl
  | cons v vs ih =>
      rw [run_cons, ih]
      rfl

end Replacement

/-! ### Payloads without their values -/

/-- The access with another value. -/
def LexicalAccess.mapValue (f : ValueId → ValueId) (access : LexicalAccess) : LexicalAccess :=
  { access with value := f access.value }

namespace Payload

/-- The payload with every value that occurs in it replaced by its image. -/
def mapValues (f : ValueId → ValueId) : Payload → Payload
  | .assign result value => .assign (f result) (f value)
  | .phi result params => .phi (f result) (params.map f)
  | .pi result value block successor cause => .pi (f result) (f value) block successor cause
  | .get result object field => .get (f result) (object.map f) field
  | .put object value field => .put (object.map f) (f value) field
  | .goto => .goto
  | .conditionalBranch op operandType lhs rhs =>
    .conditionalBranch op operandType (f lhs) (f rhs)
  | .switch scrutinee otherwise cases => .switch (f scrutinee) otherwise cases
  | .ret value isPrimitive => .ret (value.map f) isPrimitive
  | .raise exception => .raise (f exception)
  | .caughtException result block => .caughtException (f result) block
  | .invoke results exception function params site =>
    .invoke (results.map f) (f exception) (function.map f) (params.map f) site
  | .new result params site => .new (f result) (params.map f) site
  | .unary op result value => .unary op (f result) (f value)
  | .binary op result lhs rhs mayBeInteger => .binary op (f result) (f lhs) (f rhs) mayBeInteger
  | .comparison op result lhs rhs => .comparison op (f result) (f lhs) (f rhs)
  | .instanceOf result value ty => .instanceOf (f result) (f value) ty
  | .checkCast result value ty => .checkCast (f result) (f value) ty
  | .conversion result value source target checkOverflow =>
    .conversion (f result) (f value) source target checkOverflow
  | .arrayLength result array => .arrayLength (f result) (f array)
  | .arrayLoad result array index element => .arrayLoad (f result) (f array) (f index) element
  | .arrayStore array index value element => .arrayStore (f array) (f index) (f value) element
  | .monitor object enter => .monitor (f object) enter
  | .loadMetadata result entity token => .loadMetadata (f result) entity token
  | .propertyRead result object member => .propertyRead (f result) (f object) (f member)
  | .propertyWrite object member value => .propertyWrite (f object) (f member) (f value)
  | .lexicalRead accesses => .lexicalRead (accesses.map (·.mapValue f))
  | .lexicalWrite accesses => .lexicalWrite (accesses.map (·.mapValue f))
  | .globalRead result slot => .globalRead (f result) slot
  | .globalWrite slot value => .globalWrite slot (f value)
  | .isDefined result object fieldValue field =>
    .isDefined (f result) (f object) (fieldValue.map f) field
  | .eachElementHasNext result object => .eachElementHasNext (f result) (f object)
  | .eachElementGet result object => .eachElementGet (f result) (f object)
  | .typeOf result object => .typeOf (f result) (f object)
  | .assertion value fromSpecification => .assertion (f value) fromSpecification
  | .echo values => .echo (values.map f)
  | .scopedRegion object enter => .scopedRegion (f object) enter
  | .checkReference value => .checkReference (f value)
  | .dynamicInstanceOf result object typeValue =>
    .dynamicInstanceOf (f result) (f object) (f typeValue)

/-- Two payloads differ in the values of their operands only. -/
def SameShape (p q : Payload) : Prop :=
  ∀ v, p.mapValues (fun _ => v) = q.mapValues (fun _ => v)

theorem opcode_mapValues (f : ValueId → ValueId) (p : Payload) :
  (p.mapValues f).opcode = p.opcode
  := by
  cases p <;> rfl

theorem shape?_mapValues (f : ValueId → ValueId) (p : Payload) :
  (p.mapValues f).shape? = p.shape?
  := by
  cases p with
  | get result object field => cases object <;> rfl
  | put object value field => cases object <;> rfl
  | invoke results exception function params site => cases function <;> rfl
  | new result params site => cases params <;> rfl
  | conversion result value source target checkOverflow => cases checkOverflow <;> rfl
  | _ => rfl

theorem wellFormed_mapValues (f : ValueId → ValueId) (p : Payload) :
  (p.mapValues f).WellFormed ↔ p.WellFormed
  := by
  cases p with
  | phi result params => simp [mapValues, WellFormed]
  | ret value isPrimitive => cases value <;> rfl
  | invoke results exception function params site =>
      cases function <;> simp [mapValues, WellFormed]
  | lexicalRead accesses => simp [mapValues, WellFormed]
  | lexicalWrite accesses => simp [mapValues, WellFormed]
  | _ => rfl

theorem exceptionsOf_mapValues (d : Dialect) (f : ValueId → ValueId) (p : Payload) :
  d.exceptionsOf (p.mapValues f) = d.exceptionsOf p
  := by
  cases p with
  | get result object field => cases object <;> rfl
  | put object value field => cases object <;> rfl
  | _ => rfl

theorem SameShape.opcode {p q : Payload} (h : p.SameShape q) :
  p.opcode = q.opcode
  := by
  rw [← opcode_mapValues (fun _ => default), h, opcode_mapValues]

theorem SameShape.shape? {p q : Payload} (h : p.SameShape q) :
  p.shape? = q.shape?
  := by
  rw [← shape?_mapValues (fun _ => default), h, shape?_mapValues]

theorem SameShape.wellFormed {p q : Payload} (h : p.SameShape q) :
  p.WellFormed ↔ q.WellFormed
  := by
  rw [← wellFormed_mapValues (fun _ => default), h, wellFormed_mapValues]

theorem SameShape.exceptionsOf {p q : Payload} (h : p.SameShape q) (d : Dialect) :
  d.exceptionsOf p = d.exceptionsOf q
  := by
  rw [← exceptionsOf_mapValues d (fun _ => default), h, exceptionsOf_mapValues]

end Payload

/-! ### Replaced operands -/

namespace Replacement

theorem map_value_accesses (r : Replacement) (accesses : List LexicalAccess) :
  (r.accesses accesses).map (·.value) = r.run 0 (accesses.map (·.value))
  := by
  apply List.ext_getElem?
  intro k
  simp [Replacement.accesses, run, Function.comp_def]

theorem map_accesses_const (r : Replacement) (accesses : List LexicalAccess) (v : ValueId) :
  (r.accesses accesses).map (·.mapValue fun _ => v) = accesses.map (·.mapValue fun _ => v)
  := by
  apply List.ext_getElem?
  intro k
  simp [Replacement.accesses, LexicalAccess.mapValue, Function.comp_def]

theorem accesses_none (accesses : List LexicalAccess) :
  Replacement.accesses none accesses = accesses
  := by
  apply List.ext_getElem?
  intro k
  simp [Replacement.accesses, pick]

end Replacement

namespace Payload

/-- The payload with replaced operands. -/
def replaced (d u : Replacement) (p : Payload) : Payload :=
  (p.operation d u).payload default

/-- The operation that replaces operands names its fields in full. -/
theorem payload_operation (root : TypeRef) (d u : Replacement) (p : Payload) :
  (p.operation d u).payload root = p.replaced d u
  := by
  cases p with
  | get result object field => cases object <;> rfl
  | put object value field => cases object <;> rfl
  | ret value isPrimitive => cases value <;> rfl
  | invoke results exception function params site => cases function <;> rfl
  | new result params site => cases params <;> rfl
  | _ => rfl

theorem shape?_operation (root : TypeRef) (d u : Replacement) (p : Payload) :
  (p.operation d u).shape? root = (p.replaced d u).shape?
  := by
  cases p with
  | get result object field => cases object <;> rfl
  | put object value field => cases object <;> rfl
  | ret value isPrimitive => cases value <;> rfl
  | invoke results exception function params site => cases function <;> rfl
  | new result params site =>
      cases params with
      | nil => rfl
      | cons param params =>
          simp [operation, replaced, Operation.shape?, Operation.payload, shape?]
  | _ => rfl

theorem defs_replaced (d u : Replacement) (p : Payload) :
  (p.replaced d u).defs = d.run 0 p.defs
  := by
  cases p with
  | get result object field => cases object <;> rfl
  | put object value field => cases object <;> rfl
  | ret value isPrimitive => cases value <;> rfl
  | new result params site => cases params <;> rfl
  | invoke results exception function params site =>
      cases function <;>
        simp [replaced, operation, Operation.payload, defs, Replacement.run_append,
          Replacement.run_nil]
  | lexicalRead accesses => apply Replacement.map_value_accesses
  | _ => rfl

theorem uses_replaced (d u : Replacement) (p : Payload) :
  (p.replaced d u).uses = u.run 0 p.uses
  := by
  cases p with
  | get result object field => cases object <;> rfl
  | put object value field => cases object <;> rfl
  | ret value isPrimitive => cases value <;> rfl
  | new result params site => cases params <;> rfl
  | invoke results exception function params site =>
      cases function <;>
        simp [replaced, operation, Operation.payload, uses]
  | lexicalWrite accesses => apply Replacement.map_value_accesses
  | isDefined result object fieldValue field => cases fieldValue <;> rfl
  | _ => rfl

/-- Nothing but the values of operands is replaced. -/
theorem sameShape_replaced {p : Payload} (h : p.WellFormed) (d u : Replacement) :
  (p.replaced d u).SameShape p
  := by
  intro v
  cases p with
  | phi result params =>
      simp [replaced, operation, Operation.payload, mapValues, List.map_const']
  | get result object field => cases object <;> rfl
  | put object value field => cases object <;> rfl
  | ret value isPrimitive =>
      cases value with
      | none => cases h; rfl
      | some value => rfl
  | new result params site =>
      cases params with
      | nil => rfl
      | cons param params =>
          simp [replaced, operation, Operation.payload, mapValues, List.map_const']
  | invoke results exception function params site =>
      cases function <;>
        simp [replaced, operation, Operation.payload, mapValues, List.map_const']
  | lexicalRead accesses =>
      simp [replaced, operation, Operation.payload, mapValues,
        Replacement.map_accesses_const]
  | lexicalWrite accesses =>
      simp [replaced, operation, Operation.payload, mapValues,
        Replacement.map_accesses_const]
  | isDefined result object fieldValue field => cases fieldValue <;> rfl
  | echo values =>
      simp [replaced, operation, Operation.payload, mapValues, List.map_const']
  | _ => rfl

/-- Without replacements a payload stays as it is. -/
theorem replaced_none {p : Payload} (h : p.WellFormed) :
  p.replaced none none = p
  := by
  cases p with
  | phi result params =>
      simp [replaced, operation, Operation.payload, Replacement.run_none, Replacement.pick]
  | get result object field => cases object <;> rfl
  | put object value field => cases object <;> rfl
  | ret value isPrimitive =>
      cases value with
      | none => cases h; rfl
      | some value => rfl
  | new result params site =>
      cases params with
      | nil => rfl
      | cons param params =>
          simp [replaced, operation, Operation.payload, Replacement.run_none,
            Replacement.pick]
  | invoke results exception function params site =>
      cases function <;>
        simp [replaced, operation, Operation.payload, Replacement.run_none,
          Replacement.pick]
  | lexicalRead accesses =>
      simp [replaced, operation, Operation.payload, Replacement.accesses_none]
  | lexicalWrite accesses =>
      simp [replaced, operation, Operation.payload, Replacement.accesses_none]
  | isDefined result object fieldValue field => cases fieldValue <;> rfl
  | echo values => simp [replaced, operation, Operation.payload, Replacement.run_none]
  | _ => rfl

end Payload

/-! ### Renumbering -/

/-- A dialect that admits a payload builds it with replaced operands. -/
theorem Dialect.Admits.build_operation {dialect : Dialect} {p : Payload}
    (h : dialect.Admits p) (d u : Replacement) :
  dialect.build (p.operation d u) = .ok (dialect.instr (p.replaced d u))
  := by
  have hsame := Payload.sameShape_replaced h.2 d u
  apply Dialect.build_eq_ok.mpr
  rw [Dialect.Permits, Payload.shape?_operation, Payload.payload_operation, hsame.shape?]
  refine ⟨⟨h.1, ?_⟩, rfl⟩
  apply hsame.wellFormed.mpr h.2

namespace Instr

/-- An instruction that a dialect built can be built again with other operands, and keeps
its exceptions. -/
theorem renumber_eq_ok {dialect : Dialect} {op : Operation} {i : Instr}
    (h : dialect.build op = .ok i) (d u : Replacement) :
  i.renumber dialect d u = .ok ⟨i.payload.replaced d u, i.exceptions⟩
  := by
  obtain ⟨hadmits, hinstr⟩ := Dialect.admits_of_build h
  have hexceptions : dialect.exceptionsOf (i.payload.replaced d u) = i.exceptions := by
    rw [(Payload.sameShape_replaced hadmits.2 d u).exceptionsOf, ← hinstr]
    rfl
  rw [renumber, hadmits.build_operation, Dialect.instr, hexceptions]

/-- An instruction that a dialect built is renumbered by it to an instruction of the same
kind and the same numbers of operands.  At each position stands the value that was given
for it, or else the one that stood there; all else that makes up the payload stays, and so
do the exceptions.  Without replacements nothing changes. -/
theorem renumber_build
    {dialect : Dialect} {op : Operation} {i : Instr} (h : dialect.build op = .ok i)
    (d u : Replacement) :
  (∃ j, i.renumber dialect d u = .ok j ∧ j.opcode = i.opcode ∧
    j.defs.length = i.defs.length ∧ j.uses.length = i.uses.length ∧
    (∀ k < i.defs.length, j.defAt? k = (d.bind (·[k]?)).or (i.defAt? k)) ∧
    (∀ k < i.uses.length, j.useAt? k = (u.bind (·[k]?)).or (i.useAt? k)) ∧
    (∀ v, j.payload.mapValues (fun _ => v) = i.payload.mapValues (fun _ => v)) ∧
    j.exceptions = i.exceptions) ∧
  i.renumber dialect none none = .ok i
  := by
  obtain ⟨hadmits, -⟩ := Dialect.admits_of_build h
  have hsame := Payload.sameShape_replaced hadmits.2 d u
  constructor
  · use ⟨i.payload.replaced d u, i.exceptions⟩, renumber_eq_ok h d u, hsame.opcode
    refine ⟨?_, ?_, ?_, ?_, hsame, rfl⟩
    · rw [defs, Payload.defs_replaced, Replacement.length_run, defs]
    · rw [uses, Payload.uses_replaced, Replacement.length_run, uses]
    · intro k hk
      rw [defAt?, defs, Payload.defs_replaced]
      apply d.getElem?_run _ hk
    · intro k hk
      rw [useAt?, uses, Payload.uses_replaced]
      apply u.getElem?_run _ hk
  · rw [renumber_eq_ok h, Payload.replaced_none hadmits.2]

/-- A dialect with calls of function values. -/
def functional : Dialect where
  name := "functional"
  root := default
  shapes := .single .functionInvoke
  invoke := [default]

/-- A call with two results and two parameters. -/
def call : Operation :=
  .invokeValue [⟨0⟩, ⟨1⟩] ⟨2⟩ ⟨3⟩ [⟨4⟩, ⟨5⟩] ⟨0, default, .dynamic⟩

/-- The call with another first result, function value and parameters; the replacement of
its uses is longer than they are. -/
theorem renumber_build_call :
  ∃ i j, functional.build call = .ok i ∧
    i.renumber functional (some [⟨10⟩]) (some [⟨13⟩, ⟨14⟩, ⟨15⟩, ⟨16⟩]) = .ok j ∧
    j.defAt? 0 = some ⟨10⟩ ∧ j.defAt? 2 = some ⟨2⟩ ∧ j.useAt? 0 = some ⟨13⟩ ∧
    j.uses.length = 3 ∧ j.exceptions = some [default]
  := by
  have h : functional.build call = .ok (functional.instr (call.payload default)) := rfl
  obtain ⟨⟨j, hj, -, -, hlength, hdefs, huses, -, hexceptions⟩, -⟩ := renumber_build h
    (some [⟨10⟩]) (some [⟨13⟩, ⟨14⟩, ⟨15⟩, ⟨16⟩])
  use functional.instr (call.payload default), j, h, hj
  rw [hdefs 0 (by decide), hdefs 2 (by decide), huses 0 (by decide), hlength, hexceptions]
  decide

end Instr

end DialectIR
