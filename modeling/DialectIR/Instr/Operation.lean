import DialectIR.Dialect
import DialectIR.Instr.Basic

/-!
# Building instructions

The operations that build instructions, with their arguments, and what a dialect makes of
each.  An operation whose shape the dialect lacks, or whose operands do not fit together,
builds nothing.  Instructions of one payload can come from several operations; the
dialect attaches the exceptions.
-/

namespace DialectIR

/-- A request for an instruction. -/
inductive Operation where
  | assign (result value : ValueId)
  | phi (result : ValueId) (params : List ValueId)
  | pi (result value : ValueId) (block successor : BlockId) (cause : InstrIndex)
  | get (result object : ValueId) (field : FieldRef)
  | getStatic (result : ValueId) (field : FieldRef)
  /-- Reads a field of the dialect's root. -/
  | getNamed (result object : ValueId) (field : Name)
  | put (object value : ValueId) (field : FieldRef)
  | putStatic (value : ValueId) (field : FieldRef)
  /-- Writes a field of the dialect's root. -/
  | putNamed (object value : ValueId) (field : Name)
  | goto
  | conditionalBranch (op : BranchOp) (operandType : TypeRef) (lhs rhs : ValueId)
  | switch (scrutinee : ValueId) (otherwise : BlockId) (cases : List (Int32 × BlockId))
  | returnVoid
  | returnValue (value : ValueId) (isPrimitive : Bool)
  | raise (exception : ValueId)
  | caughtException (result : ValueId) (block : BlockId)
  /-- Calls what the site names; the receiver, if any, is the first parameter. -/
  | invoke (results : List ValueId) (exception : ValueId) (params : List ValueId)
      (site : CallSite)
  /-- Calls the function that a value holds. -/
  | invokeValue (results : List ValueId) (exception function : ValueId)
      (params : List ValueId) (site : CallSite)
  | newObject (result : ValueId) (site : AllocationSite)
  | newWithArgs (result : ValueId) (params : List ValueId) (site : AllocationSite)
  | unary (op : UnaryOp) (result value : ValueId)
  | binary (op : BinaryOp) (result lhs rhs : ValueId) (mayBeInteger : Bool)
  | comparison (op : ComparisonOp) (result lhs rhs : ValueId)
  | instanceOf (result value : ValueId) (ty : TypeRef)
  | checkCast (result value : ValueId) (ty : TypeRef)
  | conversion (result value : ValueId) (source target : TypeRef) (checkOverflow : Bool)
  | arrayLength (result array : ValueId)
  | arrayLoad (result array index : ValueId) (element : TypeRef)
  | arrayStore (array index value : ValueId) (element : TypeRef)
  | monitor (object : ValueId) (enter : Bool)
  | loadMetadata (result : ValueId) (entity : TypeRef) (token : Constant)
  | propertyRead (result object member : ValueId)
  | propertyWrite (object member value : ValueId)
  | lexicalRead (accesses : List LexicalAccess)
  | lexicalReadOne (result : ValueId) (definer variableName : Name)
  | lexicalWrite (accesses : List LexicalAccess)
  | lexicalWriteOne (definer variableName : Name) (value : ValueId)
  | globalRead (result : ValueId) (slot : FieldRef)
  | globalWrite (slot : FieldRef) (value : ValueId)
  | isDefined (result object : ValueId) (fieldValue : Option ValueId)
      (field : Option FieldRef)
  | eachElementHasNext (result object : ValueId)
  | eachElementGet (result object : ValueId)
  | typeOf (result object : ValueId)
  | assertion (value : ValueId) (fromSpecification : Bool)
  | echo (values : List ValueId)
  | scopedRegion (object : ValueId) (enter : Bool)
  | checkReference (value : ValueId)
  | dynamicInstanceOf (result object typeValue : ValueId)
  deriving DecidableEq, Inhabited, Repr

/-- Whether two neighbours in a list are equal. -/
def hasEqualNeighbours (values : List Int32) : Bool :=
  (values.zip values.tail).any fun (first, second) => first == second

/-- Whether a value occurs more than once.  Its occurrences are neighbours in a sorted copy of
the list. -/
def hasRepeat (values : List Int32) : Bool :=
  hasEqualNeighbours (values.mergeSort fun first second => first ≤ second)

namespace Dialect

/-- The result of an operation that needs a shape. -/
def gate (d : Dialect) (shape : Shape) (operation : String)
    (result : Except InstrError Instr) : Except InstrError Instr :=
  if d.has shape then result else .error (.unsupportedOperation d.name operation)

/-- The reads of lexical variables: at least one. -/
def buildLexicalRead (d : Dialect) (accesses : List LexicalAccess) :
    Except InstrError Instr :=
  d.gate .lexical "lexical_read" <|
    if accesses.isEmpty then .error (.malformed "lexical_read" "no accesses")
    else .ok (.plain (.lexicalRead accesses))

/-- The writes of lexical variables: at least one. -/
def buildLexicalWrite (d : Dialect) (accesses : List LexicalAccess) :
    Except InstrError Instr :=
  d.gate .lexical "lexical_write" <|
    if accesses.isEmpty then .error (.malformed "lexical_write" "no accesses")
    else .ok (.plain (.lexicalWrite accesses))

/-- The instruction that an operation builds in a dialect.  A missing shape is reported
before operands that do not fit. -/
def build (d : Dialect) : Operation → Except InstrError Instr
  | .assign result value => .ok (.plain (.assign result value))
  | .phi result params =>
    if params.isEmpty then
      .error (.malformed "phi" "a phi needs at least one incoming value")
    else .ok (.plain (.phi result params))
  | .pi result value block successor cause =>
    .ok (.plain (.pi result value block successor cause))
  | .get result object field => .ok ⟨.get result (some object) field, d.fieldAccess⟩
  | .getStatic result field =>
    d.gate .staticFields "get_static" <| .ok (.plain (.get result none field))
  | .getNamed result object field =>
    .ok ⟨.get result (some object) (d.rootField field), d.fieldAccess⟩
  | .put object value field => .ok ⟨.put (some object) value field, d.fieldAccess⟩
  | .putStatic value field =>
    d.gate .staticFields "put_static" <| .ok (.plain (.put none value field))
  | .putNamed object value field =>
    .ok ⟨.put (some object) value (d.rootField field), d.fieldAccess⟩
  | .goto => .ok (.plain .goto)
  | .conditionalBranch op operandType lhs rhs =>
    .ok (.plain (.conditionalBranch op operandType lhs rhs))
  | .switch scrutinee otherwise cases =>
    if hasRepeat (cases.map (·.1)) then .error (.malformed "switch" "duplicate case value")
    else .ok (.plain (.switch scrutinee otherwise cases))
  | .returnVoid => .ok (.plain (.ret none false))
  | .returnValue value isPrimitive => .ok (.plain (.ret (some value) isPrimitive))
  | .raise exception => .ok (.excepting (.raise exception) d.raised)
  | .caughtException result block => .ok (.plain (.caughtException result block))
  | .invoke results exception params site =>
    d.gate .typedInvoke "invoke" <|
      if site.dispatch = .dynamic then
        .error (.malformed "invoke" "dynamic dispatch needs a function value")
      else if !site.dispatch.isStatic && params.isEmpty then
        .error (.malformed "invoke" "missing receiver")
      else .ok (.excepting (.invoke results exception none params site) d.invoke)
  | .invokeValue results exception function params site =>
    d.gate .functionInvoke "invoke_value" <|
      .ok (.excepting (.invoke results exception (some function) params site) d.invoke)
  | .newObject result site => .ok (.excepting (.new result [] site) d.allocation)
  | .newWithArgs result params site =>
    d.gate .newWithArgs "new_with_args" <|
      .ok (.excepting (.new result params site) d.allocation)
  | .unary op result value => .ok (.plain (.unary op result value))
  | .binary op result lhs rhs mayBeInteger =>
    .ok ⟨.binary op result lhs rhs mayBeInteger,
      if mayBeInteger && op.mayTrap then d.arithmetic else none⟩
  | .comparison op result lhs rhs => .ok (.plain (.comparison op result lhs rhs))
  | .instanceOf result value ty =>
    d.gate .instanceOf "instance_of" <| .ok (.plain (.instanceOf result value ty))
  | .checkCast result value ty =>
    d.gate .checkCast "check_cast" <| .ok (.excepting (.checkCast result value ty) d.cast)
  | .conversion result value source target checkOverflow =>
    if checkOverflow && !d.has .overflowConversion then
      .error (.unsupportedConversion d.name source target)
    else .ok (.plain (.conversion result value source target checkOverflow))
  | .arrayLength result array =>
    d.gate .arrays "array_length" <| .ok (.excepting (.arrayLength result array) d.array)
  | .arrayLoad result array index element =>
    d.gate .arrays "array_load" <|
      .ok (.excepting (.arrayLoad result array index element) d.array)
  | .arrayStore array index value element =>
    d.gate .arrays "array_store" <|
      .ok (.excepting (.arrayStore array index value element) d.array)
  | .monitor object enter =>
    d.gate .monitors "monitor" <| .ok (.excepting (.monitor object enter) d.monitor)
  | .loadMetadata result entity token =>
    d.gate .metadata "load_metadata" <| .ok (.plain (.loadMetadata result entity token))
  | .propertyRead result object member =>
    d.gate .propertyAccess "property_read" <|
      .ok (.excepting (.propertyRead result object member) d.dynamicAccess)
  | .propertyWrite object member value =>
    d.gate .propertyAccess "property_write" <|
      .ok (.excepting (.propertyWrite object member value) d.dynamicAccess)
  | .lexicalRead accesses => d.buildLexicalRead accesses
  | .lexicalReadOne result definer variableName =>
    d.buildLexicalRead [⟨definer, variableName, result⟩]
  | .lexicalWrite accesses => d.buildLexicalWrite accesses
  | .lexicalWriteOne definer variableName value =>
    d.buildLexicalWrite [⟨definer, variableName, value⟩]
  | .globalRead result slot =>
    d.gate .globals "global_read" <|
      .ok (.excepting (.globalRead result slot) d.dynamicAccess)
  | .globalWrite slot value =>
    d.gate .globals "global_write" <|
      .ok (.excepting (.globalWrite slot value) d.dynamicAccess)
  | .isDefined result object fieldValue field =>
    d.gate .isDefined "is_defined" <|
      .ok (.plain (.isDefined result object fieldValue field))
  | .eachElementHasNext result object =>
    d.gate .eachElement "each_element_has_next" <|
      .ok (.plain (.eachElementHasNext result object))
  | .eachElementGet result object =>
    d.gate .eachElement "each_element_get" <| .ok (.plain (.eachElementGet result object))
  | .typeOf result object =>
    d.gate .typeOf "type_of" <| .ok (.plain (.typeOf result object))
  | .assertion value fromSpecification =>
    d.gate .assertion "assert" <| .ok (.plain (.assertion value fromSpecification))
  | .echo values => d.gate .echo "echo" <| .ok (.plain (.echo values))
  | .scopedRegion object enter =>
    d.gate .scopedRegion "scoped_region" <| .ok (.plain (.scopedRegion object enter))
  | .checkReference value =>
    d.gate .checkReference "check_reference" <|
      .ok (.excepting (.checkReference value) d.dynamicAccess)
  | .dynamicInstanceOf result object typeValue =>
    d.gate .dynamicInstanceOf "dynamic_instance_of" <|
      .ok (.plain (.dynamicInstanceOf result object typeValue))

end Dialect

end DialectIR
