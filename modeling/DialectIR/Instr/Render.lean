import DialectIR.Instr.Basic

/-!
# Listings

The text of an instruction: the values it defines and an equals sign, its opcode, what it
carries besides operands, the values it uses, and the types that it may raise.  Each part
is left out when it is empty.  An instruction has a listing under the interners that hold
the names in it.
-/

namespace DialectIR

/-- Values in a row, separated by commas. -/
def ValueId.listText (values : List ValueId) : String :=
  ", ".intercalate (values.map ValueId.text)

/-- Lexical accesses in a row, each as definer and variable. -/
def LexicalAccess.listText? (names : Interner) (accesses : List LexicalAccess) :
    Option String := do
  let texts ← accesses.mapM fun access => do
    return (← names.lookup? access.definer) ++ "::" ++ (← names.lookup? access.variableName)
  return "[" ++ ", ".intercalate texts ++ "]"

/-- What a payload carries besides operands, as the words that its kind shows. -/
def Payload.details? (names : Interner) : Payload → Option (List String)
  | .pi _ _ block successor cause =>
    some [block.text ++ "->" ++ successor.text, "@" ++ toString cause.raw]
  | .get _ _ field => do return [← field.text? names]
  | .put _ _ field => do return [← field.text? names]
  | .globalRead _ slot => do return [← slot.text? names]
  | .globalWrite slot _ => do return [← slot.text? names]
  | .conditionalBranch op operandType _ _ => do
    return [op.name, ← operandType.text? names]
  | .switch _ otherwise cases =>
    let labels := cases.map fun (value, target) => toString value.toInt ++ ": " ++ target.text
    some ["[" ++ ", ".intercalate (labels ++ ["default: " ++ otherwise.text]) ++ "]"]
  | .caughtException _ block => some [block.text]
  | .invoke _ _ _ _ site => do return [← site.target.text? names]
  | .new _ _ site => do return [← site.ty.text? names]
  | .unary op _ _ => some [op.name]
  | .binary op _ _ _ _ => some [op.name]
  | .comparison op _ _ _ => some [op.name]
  | .instanceOf _ _ ty => do return [← ty.text? names]
  | .checkCast _ _ ty => do return [← ty.text? names]
  | .conversion _ _ source target checkOverflow => do
    return [← source.text? names, "->", ← target.text? names] ++
      if checkOverflow then ["checked"] else []
  | .arrayLoad _ _ _ element => do return [← element.text? names]
  | .arrayStore _ _ _ element => do return [← element.text? names]
  | .monitor _ enter => some [if enter then "enter" else "exit"]
  | .scopedRegion _ enter => some [if enter then "enter" else "exit"]
  | .loadMetadata _ entity token => do return [← entity.text? names, ← token.text? names]
  | .lexicalRead accesses => do return [← LexicalAccess.listText? names accesses]
  | .lexicalWrite accesses => do return [← LexicalAccess.listText? names accesses]
  | .isDefined _ _ _ (some field) => do return [← field.text? names]
  | .assertion _ true => some ["specification"]
  | _ => some []

namespace Instr

/-- The part of a listing in front of the opcode. -/
def definitionText (i : Instr) : String :=
  if i.defs.isEmpty then "" else ValueId.listText i.defs ++ " = "

/-- The details of a listing, each after a space. -/
def detailText? (names : Interner) (i : Instr) : Option String := do
  return String.join ((← i.payload.details? names).map (" " ++ ·))

/-- The used values of a listing, after a space. -/
def useText (i : Instr) : String :=
  if i.uses.isEmpty then "" else " " ++ ValueId.listText i.uses

/-- The exceptions of a listing. -/
def exceptionText? (names : Interner) (i : Instr) : Option String :=
  match i.exceptions with
  | some types => do
    return " throws [" ++ ", ".intercalate (← types.mapM (TypeRef.text? names)) ++ "]"
  | none => some ""

/-- The listing of an instruction. -/
def text? (names : Interner) (i : Instr) : Option String := do
  let details ← i.detailText? names
  let raised ← i.exceptionText? names
  return i.definitionText ++ i.opcode.name ++ details ++ i.useText ++ raised

end Instr

end DialectIR
