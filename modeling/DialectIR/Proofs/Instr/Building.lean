import DialectIR.Instr.Operation
import Mathlib.Logic.Basic

/-!
# What dialects build

An operation describes a payload.  A dialect builds it if it has the shape that the
operation needs and if the payload is well formed, and attaches the exceptions that the
dialect has for the payload.  So the operation through which a payload comes about leaves
no trace in the instruction.
-/

namespace DialectIR

/-! ### Payloads -/

namespace Payload

/-- The optional shape that a payload belongs to; what belongs to none exists in every
dialect. -/
def shape? : Payload → Option Shape
  | .get _ none _ | .put none _ _ => some .staticFields
  | .invoke _ _ none _ _ => some .typedInvoke
  | .invoke _ _ (some _) _ _ => some .functionInvoke
  | .new _ (_ :: _) _ => some .newWithArgs
  | .instanceOf .. => some .instanceOf
  | .checkCast .. => some .checkCast
  | .conversion _ _ _ _ true => some .overflowConversion
  | .arrayLength .. | .arrayLoad .. | .arrayStore .. => some .arrays
  | .monitor .. => some .monitors
  | .loadMetadata .. => some .metadata
  | .propertyRead .. | .propertyWrite .. => some .propertyAccess
  | .lexicalRead _ | .lexicalWrite _ => some .lexical
  | .globalRead .. | .globalWrite .. => some .globals
  | .isDefined .. => some .isDefined
  | .eachElementHasNext .. | .eachElementGet .. => some .eachElement
  | .typeOf .. => some .typeOf
  | .assertion .. => some .assertion
  | .echo _ => some .echo
  | .scopedRegion .. => some .scopedRegion
  | .checkReference _ => some .checkReference
  | .dynamicInstanceOf .. => some .dynamicInstanceOf
  | _ => none

/-- The parts of a payload fit together: a phi merges something, the values of cases are
distinct, a return without a value is not of a primitive, a call that names its target
has a receiver unless it is static, and lexical accesses are at least one. -/
def WellFormed : Payload → Prop
  | .phi _ params => params ≠ []
  | .switch _ _ cases => (cases.map (·.1)).Nodup
  | .ret none isPrimitive => isPrimitive = false
  | .invoke _ _ none params site =>
    site.dispatch ≠ .dynamic ∧ (site.dispatch = .static ∨ params ≠ [])
  | .lexicalRead accesses | .lexicalWrite accesses => accesses ≠ []
  | _ => True

/-- The first reason for which the parts of a payload do not fit together.  A return
without a value that is of a primitive has none, as no operation describes it. -/
def flaw? : Payload → Option String
  | .phi _ [] => some "a phi needs at least one incoming value"
  | .switch _ _ cases =>
    if (cases.map (·.1)).Nodup then none else some "duplicate case value"
  | .invoke _ _ none params site =>
    if site.dispatch = .dynamic then some "dynamic dispatch needs a function value"
    else if site.dispatch = .static ∨ params ≠ [] then none
    else some "missing receiver"
  | .lexicalRead [] | .lexicalWrite [] => some "no accesses"
  | _ => none

end Payload

namespace Dialect

/-- The exceptions that a dialect attaches to a payload. -/
def exceptionsOf (d : Dialect) : Payload → Option (List TypeRef)
  | .get _ (some _) _ | .put (some _) _ _ => d.fieldAccess
  | .raise _ => some d.raised
  | .invoke .. => some d.invoke
  | .new .. => some d.allocation
  | .binary op _ _ _ mayBeInteger => if mayBeInteger && op.mayTrap then d.arithmetic else none
  | .checkCast .. => some d.cast
  | .arrayLength .. | .arrayLoad .. | .arrayStore .. => some d.array
  | .monitor .. => some d.monitor
  | .propertyRead .. | .propertyWrite .. | .globalRead .. | .globalWrite ..
  | .checkReference _ => some d.dynamicAccess
  | _ => none

/-- The instruction of a payload in a dialect. -/
def instr (d : Dialect) (p : Payload) : Instr := ⟨p, d.exceptionsOf p⟩

end Dialect

/-! ### Operations -/

namespace Operation

/-- The payload that an operation describes; `root` is the root of the dialect. -/
def payload (root : TypeRef) : Operation → Payload
  | .assign result value => .assign result value
  | .phi result params => .phi result params
  | .pi result value block successor cause => .pi result value block successor cause
  | .get result object field => .get result (some object) field
  | .getStatic result field => .get result none field
  | .getNamed result object field => .get result (some object) ⟨root, field, root⟩
  | .put object value field => .put (some object) value field
  | .putStatic value field => .put none value field
  | .putNamed object value field => .put (some object) value ⟨root, field, root⟩
  | .goto => .goto
  | .conditionalBranch op operandType lhs rhs => .conditionalBranch op operandType lhs rhs
  | .switch scrutinee otherwise cases => .switch scrutinee otherwise cases
  | .returnVoid => .ret none false
  | .returnValue value isPrimitive => .ret (some value) isPrimitive
  | .raise exception => .raise exception
  | .caughtException result block => .caughtException result block
  | .invoke results exception params site => .invoke results exception none params site
  | .invokeValue results exception function params site =>
    .invoke results exception (some function) params site
  | .newObject result site => .new result [] site
  | .newWithArgs result params site => .new result params site
  | .unary op result value => .unary op result value
  | .binary op result lhs rhs mayBeInteger => .binary op result lhs rhs mayBeInteger
  | .comparison op result lhs rhs => .comparison op result lhs rhs
  | .instanceOf result value ty => .instanceOf result value ty
  | .checkCast result value ty => .checkCast result value ty
  | .conversion result value source target checkOverflow =>
    .conversion result value source target checkOverflow
  | .arrayLength result array => .arrayLength result array
  | .arrayLoad result array index element => .arrayLoad result array index element
  | .arrayStore array index value element => .arrayStore array index value element
  | .monitor object enter => .monitor object enter
  | .loadMetadata result entity token => .loadMetadata result entity token
  | .propertyRead result object member => .propertyRead result object member
  | .propertyWrite object member value => .propertyWrite object member value
  | .lexicalRead accesses => .lexicalRead accesses
  | .lexicalReadOne result definer variableName =>
    .lexicalRead [⟨definer, variableName, result⟩]
  | .lexicalWrite accesses => .lexicalWrite accesses
  | .lexicalWriteOne definer variableName value =>
    .lexicalWrite [⟨definer, variableName, value⟩]
  | .globalRead result slot => .globalRead result slot
  | .globalWrite slot value => .globalWrite slot value
  | .isDefined result object fieldValue field => .isDefined result object fieldValue field
  | .eachElementHasNext result object => .eachElementHasNext result object
  | .eachElementGet result object => .eachElementGet result object
  | .typeOf result object => .typeOf result object
  | .assertion value fromSpecification => .assertion value fromSpecification
  | .echo values => .echo values
  | .scopedRegion object enter => .scopedRegion object enter
  | .checkReference value => .checkReference value
  | .dynamicInstanceOf result object typeValue => .dynamicInstanceOf result object typeValue

/-- The optional shape that an operation needs: that of its payload, but that of
allocations with arguments also if there are none. -/
def shape? (root : TypeRef) : Operation → Option Shape
  | .newWithArgs .. => some .newWithArgs
  | op => (op.payload root).shape?

/-- The name of an operation in errors: that of the kind of its payload, unless it is one
of two operations for payloads of that kind. -/
def name : Operation → String
  | .getStatic .. => "get_static"
  | .putStatic .. => "put_static"
  | .invokeValue .. => "invoke_value"
  | .newWithArgs .. => "new_with_args"
  | op => (op.payload default).opcode.name

/-- The error of an operation in a dialect that lacks the shape it needs. -/
def unsupported (d : Dialect) : Operation → InstrError
  | .conversion _ _ source target _ => .unsupportedConversion d.name source target
  | op => .unsupportedOperation d.name op.name

end Operation

/-! ### Building -/

theorem hasEqualNeighbours_cons_cons (first second : Int32) (rest : List Int32) :
  hasEqualNeighbours (first :: second :: rest)
    = (first == second || hasEqualNeighbours (second :: rest))
  := rfl

/-- A sorted list in which no neighbours are equal has every value once. -/
theorem hasEqualNeighbours_eq_false_iff {values : List Int32} (h : values.Pairwise (· ≤ ·)) :
  hasEqualNeighbours values = false ↔ values.Nodup
  := by
  induction values with
  | nil => simp [hasEqualNeighbours]
  | cons first rest ih =>
      cases rest with
      | nil => simp [hasEqualNeighbours]
      | cons second rest =>
          obtain ⟨hfirst, hrest⟩ := List.pairwise_cons.mp h
          rw [hasEqualNeighbours_cons_cons, Bool.or_eq_false_iff, ih hrest, beq_eq_false_iff_ne]
          constructor
          · rintro ⟨hne, hnodup⟩
            apply List.nodup_cons.mpr ⟨?_, hnodup⟩
            intro hagain
            rcases List.mem_cons.mp hagain with hsame | hlater
            · apply hne hsame
            · -- The second value lies between two occurrences of the first.
              have hbelow := hfirst second List.mem_cons_self
              have habove := (List.pairwise_cons.mp hrest).1 first hlater
              apply hne (Int32.le_antisymm hbelow habove)
          · intro hnodup
            obtain ⟨hnew, hnodup⟩ := List.nodup_cons.mp hnodup
            refine ⟨?_, hnodup⟩
            rintro rfl
            apply hnew List.mem_cons_self

theorem hasRepeat_eq_false_iff (values : List Int32) :
  hasRepeat values = false ↔ values.Nodup
  := by
  have htrans : ∀ a b c : Int32, decide (a ≤ b) → decide (b ≤ c) → decide (a ≤ c) := by
    intro a b c hab hbc
    simp only [decide_eq_true_iff] at hab hbc ⊢
    apply Int32.le_trans hab hbc
  have htotal : ∀ a b : Int32, decide (a ≤ b) || decide (b ≤ a) := by
    intro a b
    simpa using Int32.le_total a b
  have hsorted : (values.mergeSort fun first second => first ≤ second).Pairwise (· ≤ ·) := by
    simpa using List.pairwise_mergeSort htrans htotal values
  rw [hasRepeat, hasEqualNeighbours_eq_false_iff hsorted]
  apply (List.mergeSort_perm values _).nodup_iff

namespace Operation

/-- The parts of the payload of an operation fit together if they have no flaw. -/
theorem wellFormed_payload_iff (op : Operation) (root : TypeRef) :
  (op.payload root).WellFormed ↔ (op.payload root).flaw? = none
  := by
  cases op with
  | phi result params => cases params <;> simp [payload, Payload.WellFormed, Payload.flaw?]
  | invoke results exception params site =>
      by_cases hdynamic : site.dispatch = .dynamic
      · simp [payload, Payload.WellFormed, Payload.flaw?, hdynamic]
      · by_cases hreceiver : site.dispatch = .static ∨ params ≠ []
        · simp only [payload, Payload.WellFormed, Payload.flaw?, hreceiver]
          simp [hdynamic]
        · simp only [payload, Payload.WellFormed, Payload.flaw?, hreceiver]
          simp [hdynamic]
  | lexicalRead accesses =>
      cases accesses <;> simp [payload, Payload.WellFormed, Payload.flaw?]
  | lexicalWrite accesses =>
      cases accesses <;> simp [payload, Payload.WellFormed, Payload.flaw?]
  | _ => simp [payload, Payload.WellFormed, Payload.flaw?]

end Operation

namespace Dialect

/-- What a dialect answers to an operation: it asks first for the shape that the operation
needs, and then for a flaw of the payload. -/
def verdict (d : Dialect) (op : Operation) : Except InstrError Instr :=
  if (op.shape? d.root).all d.has then
    match (op.payload d.root).flaw? with
    | some reason => .error (.malformed op.name reason)
    | none => .ok (d.instr (op.payload d.root))
  else .error (op.unsupported d)

/-- Every operation is answered in this way. -/
theorem build_eq_verdict (d : Dialect) (op : Operation) :
  d.build op = d.verdict op
  := by
  cases op with
  | phi result params => cases params <;> rfl
  | switch scrutinee otherwise cases =>
      by_cases hnodup : (cases.map (·.1)).Nodup
      · have hrepeat := (hasRepeat_eq_false_iff _).mpr hnodup
        simp only [build, verdict, Operation.shape?, Operation.payload, Payload.shape?,
          Payload.flaw?, hnodup, hrepeat]
        rfl
      · have hrepeat : hasRepeat (cases.map (·.1)) = true := by
          rw [← Bool.not_eq_false, hasRepeat_eq_false_iff]
          apply hnodup
        simp only [build, verdict, Operation.shape?, Operation.payload, Payload.shape?,
          Payload.flaw?, hnodup, hrepeat]
        rfl
  | invoke results exception params site =>
      rcases site with ⟨pc, method, dispatch⟩
      cases dispatch <;> cases params <;> rfl
  | conversion result value source target checkOverflow =>
      cases checkOverflow with
      | false => rfl
      | true =>
          cases hshape : d.has .overflowConversion <;>
            simp [build, verdict, Operation.shape?, Operation.payload, Payload.shape?,
              Payload.flaw?, hshape, instr, exceptionsOf, Instr.plain, Operation.unsupported]
  | lexicalRead accesses => cases accesses <;> rfl
  | lexicalWrite accesses => cases accesses <;> rfl
  | _ => rfl

/-- A dialect permits an operation if it has the shape that the operation needs and if
the payload is well formed. -/
def Permits (d : Dialect) (op : Operation) : Prop :=
  (∀ s, op.shape? d.root = some s → d.has s) ∧ (op.payload d.root).WellFormed

/-- A dialect builds what it permits, and attaches the exceptions of the payload. -/
theorem build_eq_ok {d : Dialect} {op : Operation} {i : Instr} :
  d.build op = .ok i ↔ d.Permits op ∧ d.instr (op.payload d.root) = i
  := by
  rw [build_eq_verdict, verdict, Permits, ← Option.all_eq_true, op.wellFormed_payload_iff]
  cases (op.shape? d.root).all d.has with
  | false => simp
  | true => cases (op.payload d.root).flaw? <;> simp

/-- A dialect admits a payload if it has the shape that the payload belongs to and if the
payload is well formed. -/
def Admits (d : Dialect) (p : Payload) : Prop :=
  (∀ s, p.shape? = some s → d.has s) ∧ p.WellFormed

/-- An operation needs at least the shape of its payload. -/
theorem shape?_of_payload {root : TypeRef} {op : Operation} {s : Shape}
    (h : (op.payload root).shape? = some s) :
  op.shape? root = some s
  := by
  cases op with
  | newWithArgs result params site =>
      cases params with
      | nil => cases h
      | cons param params => apply h
  | _ => apply h

/-- What a dialect built is the instruction of a payload that it admits. -/
theorem admits_of_build {d : Dialect} {op : Operation} {i : Instr}
    (h : d.build op = .ok i) :
  d.Admits i.payload ∧ d.instr i.payload = i
  := by
  obtain ⟨⟨hshape, hwf⟩, rfl⟩ := build_eq_ok.mp h
  refine ⟨⟨?_, hwf⟩, rfl⟩
  intro s hs
  apply hshape s (shape?_of_payload hs)

end Dialect

end DialectIR
