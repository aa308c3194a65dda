import DialectIR.Class
import DialectIR.Code.Cfg
import DialectIR.Code.Symbols

/-!
# Code bodies

What a front end supplies for a function or script: its control-flow graph, its symbols,
the exceptions that its handlers catch, the variables that it shares with other code
bodies, and the positions of its instructions.  Code bodies are register based, so that
questions about an operand stack do not apply to them.
-/

namespace DialectIR

/-- The qualifiers of a method. -/
structure Qualifiers where
  isPublic : Bool := false
  isFinal : Bool := false
  isStatic : Bool := false
  deriving DecidableEq, Inhabited, Repr

/-- The names of the qualifiers that are set. -/
def Qualifiers.names (q : Qualifiers) : List String :=
  ([(q.isPublic, "PUBLIC"), (q.isFinal, "FINAL"), (q.isStatic, "STATIC")].filter (·.1)).map (·.2)

/-- What a code body shares with others. -/
structure LexicalInfo where
  /-- The enclosing code bodies by class name, innermost first. -/
  parents : List Name := []
  /-- The variables that nested code bodies may access, in the order of exposure. -/
  exposed : List (Name × ValueId) := []
  deriving DecidableEq, Inhabited, Repr

namespace LexicalInfo

/-- The information with one more exposed variable. -/
def expose (info : LexicalInfo) (variableName : Name) (value : ValueId) : LexicalInfo :=
  { info with exposed := info.exposed ++ [(variableName, value)] }

/-- The value of an exposed variable, by its first exposure. -/
def exposedValue? (info : LexicalInfo) (variableName : Name) : Option ValueId :=
  info.exposed.lookup variableName

end LexicalInfo

/-- A code body. -/
structure CodeBody where
  cfg : Cfg
  symbols : SymbolTable := {}
  /-- The types that handler blocks catch, the latest first. -/
  caught : List (BlockId × List TypeRef) := []
  lexical : LexicalInfo := {}
  /-- The positions of instructions, the latest first. -/
  positions : List (InstrIndex × Span) := []
  qualifiers : Qualifiers := { isPublic := true, isFinal := true }
  deriving DecidableEq, Inhabited, Repr

namespace CodeBody

/-- The body with other symbols. -/
def withSymbols (b : CodeBody) (symbols : SymbolTable) : CodeBody :=
  { b with symbols }

/-- The body in which a block catches the given types, in place of any it caught. -/
def catching (b : CodeBody) (block : BlockId) (types : List TypeRef) : CodeBody :=
  { b with caught := (block, types) :: b.caught }

/-- The body with other lexical information. -/
def withLexical (b : CodeBody) (lexical : LexicalInfo) : CodeBody :=
  { b with lexical }

/-- The body in which an instruction has a position, in place of any it had. -/
def placing (b : CodeBody) (i : InstrIndex) (span : Span) : CodeBody :=
  { b with positions := (i, span) :: b.positions }

/-- The body with other qualifiers. -/
def withQualifiers (b : CodeBody) (qualifiers : Qualifiers) : CodeBody :=
  { b with qualifiers }

/-- Whether some block was made a handler. -/
def hasCatchBlock (b : CodeBody) : Bool :=
  !b.caught.isEmpty

/-- The types that a block catches; a block that is no handler catches none. -/
def caughtTypes (b : CodeBody) (block : BlockId) : List TypeRef :=
  (b.caught.lookup block).getD []

/-- The position of an instruction. -/
def position? (b : CodeBody) (i : InstrIndex) : Option Span :=
  b.positions.lookup i

/-- The height of the operand stack. -/
def maxStackHeight (_ : CodeBody) : Except InstrError UInt32 :=
  .error (.notApplicable "max_stack_height")

/-- The number of local slots. -/
def maxLocals (_ : CodeBody) : Except InstrError UInt32 :=
  .error (.notApplicable "max_locals")

/-- The source name of a value at an instruction. -/
def localVariableName (_ : CodeBody) (_ : InstrIndex) (_ : ValueId) :
    Except InstrError Name :=
  .error (.notApplicable "local_variable_name")

end CodeBody

/-- A code body bound to its class. -/
structure Method where
  /-- The class that the body is bound to. -/
  owner : ClassId
  reference : MethodRef
  body : CodeBody
  deriving DecidableEq, Inhabited, Repr

namespace Method

/-- The enclosing code bodies by class name, innermost first. -/
def scopingParents (m : Method) : List Name := m.body.lexical.parents

/-- Whether a method has no receiver. -/
def isStatic (m : Method) : Bool := m.body.qualifiers.isStatic

end Method

end DialectIR
