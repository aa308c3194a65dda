import DialectIR.Instr.Basic

/-!
# Control-flow graphs

A list of instructions and a list of basic blocks, each of which is a run of the
instruction list.  The front end numbers the blocks by their places in the block list.
-/

namespace DialectIR

/-- A basic block: the instructions from `start` up to and without `stop`. -/
structure BasicBlock where
  id : BlockId
  start : InstrIndex
  stop : InstrIndex
  successors : List BlockId := []
  /-- The blocks that handle exceptions of this one. -/
  handlers : List BlockId := []
  deriving DecidableEq, Inhabited, Repr

/-- A control-flow graph. -/
structure Cfg where
  instrs : List Instr := []
  blocks : List BasicBlock := []
  deriving DecidableEq, Inhabited, Repr

namespace Cfg

/-- The graph with all instructions in one block. -/
def singleBlock (instrs : List Instr) : Cfg :=
  let stop := UInt32.ofNat (min instrs.length (UInt32.size - 1))
  { instrs, blocks := [⟨⟨0⟩, ⟨0⟩, ⟨stop⟩, [], []⟩] }

/-- The instruction at a position. -/
def instr? (cfg : Cfg) (i : InstrIndex) : Option Instr :=
  cfg.instrs[i.index]?

/-- The block of a number. -/
def block? (cfg : Cfg) (id : BlockId) : Option BasicBlock :=
  cfg.blocks[id.index]?

/-- The instructions of a block.  A run that is reversed or ends after the last
instruction has none. -/
def blockInstrs (cfg : Cfg) (block : BasicBlock) : List Instr :=
  let start := block.start.index
  let stop := block.stop.index
  if start ≤ stop ∧ stop ≤ cfg.instrs.length then
    (cfg.instrs.drop start).take (stop - start)
  else
    []

end Cfg

end DialectIR
