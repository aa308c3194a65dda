import DialectIR.Code.Cfg
import Mathlib.Tactic.Use

/-!
# Blocks and their instructions

A block has the instructions of its run, if the run lies within the instruction list, and none
at all otherwise.  So blocks whose runs follow one another from the first instruction to the
last divide the instruction list among them, in order.
-/

namespace DialectIR

/-- The run of a block is not reversed and ends within a number of instructions. -/
def BasicBlock.Within (count : Nat) (block : BasicBlock) : Prop :=
  block.start.index ≤ block.stop.index ∧ block.stop.index ≤ count

/-- The runs of blocks follow one another: the first starts at the one end, each starts where the
one before it stops, and the last stops at the other end.  Some may be empty, but none goes
backwards. -/
def Consecutive : Nat → Nat → List BasicBlock → Prop
  | start, stop, [] => start = stop
  | start, stop, block :: rest =>
    block.start.index = start ∧ start ≤ block.stop.index ∧
      Consecutive block.stop.index stop rest

/-- Why no run may go backwards: three instructions and blocks with the runs 0 to 2, 2 to 1 and
1 to 3, each of which starts where the one before it stops.  The second is empty, and the
instruction in the middle comes twice. -/
example :
  let instrs : List Instr :=
    [.plain (.assign ⟨1⟩ ⟨0⟩), .plain (.assign ⟨2⟩ ⟨1⟩), .plain .goto]
  let blocks : List BasicBlock :=
    [⟨⟨0⟩, ⟨0⟩, ⟨2⟩, [], []⟩, ⟨⟨1⟩, ⟨2⟩, ⟨1⟩, [], []⟩, ⟨⟨2⟩, ⟨1⟩, ⟨3⟩, [], []⟩]
  blocks.flatMap (Cfg.blockInstrs { instrs, blocks })
    = [.plain (.assign ⟨1⟩ ⟨0⟩), .plain (.assign ⟨2⟩ ⟨1⟩), .plain (.assign ⟨2⟩ ⟨1⟩), .plain .goto]
  := by
  decide

theorem Consecutive.le {start stop : Nat} {blocks : List BasicBlock}
    (h : Consecutive start stop blocks) :
  start ≤ stop
  := by
  induction blocks generalizing start with
  | nil => apply Nat.le_of_eq h
  | cons block rest ih =>
      obtain ⟨-, hrun, hrest⟩ := h
      apply Nat.le_trans hrun (ih hrest)

/-- Two runs of a list, the second of which starts where the first stops, are one run. -/
theorem run_append_run {α : Type} (l : List α) {start middle stop : Nat} (h : start ≤ middle)
    (h' : middle ≤ stop) :
  (l.drop start).take (middle - start) ++ (l.drop middle).take (stop - middle)
    = (l.drop start).take (stop - start)
  := by
  have hlength : stop - start = (middle - start) + (stop - middle) := by omega
  rw [hlength, List.take_add, List.drop_drop, Nat.add_sub_cancel' h]

namespace Cfg

theorem blockInstrs_of_within {cfg : Cfg} {block : BasicBlock}
    (h : block.Within cfg.instrs.length) :
  cfg.blockInstrs block
    = (cfg.instrs.drop block.start.index).take (block.stop.index - block.start.index)
  := if_pos h

theorem blockInstrs_of_not_within {cfg : Cfg} {block : BasicBlock}
    (h : ¬ block.Within cfg.instrs.length) :
  cfg.blockInstrs block = []
  := if_neg h

/-- A block whose run lies within the instruction list has all instructions of the run. -/
theorem length_blockInstrs {cfg : Cfg} {block : BasicBlock}
    (h : block.Within cfg.instrs.length) :
  (cfg.blockInstrs block).length = block.stop.index - block.start.index
  := by
  obtain ⟨hrun, hstop⟩ := h
  rw [blockInstrs_of_within ⟨hrun, hstop⟩, List.length_take, List.length_drop]
  omega

/-- They come in the order of the instruction list. -/
theorem getElem?_blockInstrs {cfg : Cfg} {block : BasicBlock}
    (h : block.Within cfg.instrs.length) {k : Nat}
    (hk : k < block.stop.index - block.start.index) :
  (cfg.blockInstrs block)[k]? = cfg.instrs[block.start.index + k]?
  := by
  rw [blockInstrs_of_within h, List.getElem?_take_of_lt hk, List.getElem?_drop]

/-- The instructions of consecutive blocks are one run of the instruction list. -/
theorem flatMap_blockInstrs {cfg : Cfg} {start stop : Nat} {blocks : List BasicBlock}
    (h : Consecutive start stop blocks) (hstop : stop ≤ cfg.instrs.length) :
  blocks.flatMap cfg.blockInstrs = (cfg.instrs.drop start).take (stop - start)
  := by
  induction blocks generalizing start with
  | nil =>
      obtain rfl : start = stop := h
      simp
  | cons block rest ih =>
      obtain ⟨rfl, hrun, hrest⟩ := h
      have hwithin : block.Within cfg.instrs.length := ⟨hrun, Nat.le_trans hrest.le hstop⟩
      rw [List.flatMap_cons, ih hrest, blockInstrs_of_within hwithin,
        run_append_run _ hrun hrest.le]

/-- As long as instructions can be numbered, a single block takes in all of them. -/
theorem consecutive_singleBlock {instrs : List Instr} (h : instrs.length < UInt32.size) :
  Consecutive 0 instrs.length (singleBlock instrs).blocks
  := by
  have hstop : (UInt32.ofNat (min instrs.length (UInt32.size - 1))).toNat = instrs.length := by
    rw [Nat.min_eq_left (Nat.le_sub_one_of_lt h), UInt32.toNat_ofNat_of_lt' h]
  exact ⟨rfl, Nat.zero_le _, hstop⟩

/-- Blocks whose runs follow one another over the whole instruction list have its instructions
between them, in order; a graph with a single block is a case of this.  Any block has exactly the
instructions of its run if the run lies within the list, and none if not. -/
theorem blocks_divide_instrs (instrs : List Instr) :
  (∀ blocks, Consecutive 0 instrs.length blocks →
    blocks.flatMap (blockInstrs { instrs, blocks }) = instrs) ∧
  (instrs.length < UInt32.size →
    (singleBlock instrs).instrs = instrs ∧
    Consecutive 0 instrs.length (singleBlock instrs).blocks ∧
    (singleBlock instrs).blocks.flatMap (singleBlock instrs).blockInstrs = instrs) ∧
  (∀ blocks block,
    (block.Within instrs.length →
      (blockInstrs { instrs, blocks } block).length = block.stop.index - block.start.index ∧
      ∀ k < block.stop.index - block.start.index,
        (blockInstrs { instrs, blocks } block)[k]? = instrs[block.start.index + k]?) ∧
    (¬ block.Within instrs.length → blockInstrs { instrs, blocks } block = []))
  := by
  have hdivide : ∀ blocks, Consecutive 0 instrs.length blocks →
      blocks.flatMap (blockInstrs { instrs, blocks }) = instrs := by
    intro blocks hblocks
    rw [flatMap_blockInstrs hblocks (Nat.le_refl _), Nat.sub_zero, List.drop_zero,
      List.take_length]
  refine ⟨hdivide, ?_, ?_⟩
  · intro hnumbered
    have hblocks := consecutive_singleBlock hnumbered
    exact ⟨rfl, hblocks, hdivide _ hblocks⟩
  · intro blocks block
    constructor
    · intro hwithin
      use length_blockInstrs hwithin
      intro k hk
      apply getElem?_blockInstrs hwithin hk
    · intro hbeyond
      apply blockInstrs_of_not_within hbeyond

/-- Three instructions. -/
def straight : List Instr :=
  [.plain (.assign ⟨1⟩ ⟨0⟩), .plain (.assign ⟨2⟩ ⟨1⟩), .plain .goto]

/-- Blocks of them, some of which are empty, also at the end. -/
def pieces : List BasicBlock :=
  [⟨⟨0⟩, ⟨0⟩, ⟨0⟩, [], []⟩, ⟨⟨1⟩, ⟨0⟩, ⟨2⟩, [], []⟩, ⟨⟨2⟩, ⟨2⟩, ⟨2⟩, [], []⟩,
    ⟨⟨3⟩, ⟨2⟩, ⟨3⟩, [], []⟩, ⟨⟨4⟩, ⟨3⟩, ⟨3⟩, [], []⟩]

theorem blocks_divide_instrs_pieces :
  Consecutive 0 straight.length pieces ∧
  pieces.flatMap (blockInstrs { instrs := straight, blocks := pieces }) = straight ∧
  straight.length < UInt32.size ∧
  (singleBlock straight).blocks.flatMap (singleBlock straight).blockInstrs = straight ∧
  BasicBlock.Within straight.length ⟨⟨0⟩, ⟨1⟩, ⟨3⟩, [], []⟩ ∧
  (blockInstrs { instrs := straight, blocks := pieces } ⟨⟨0⟩, ⟨1⟩, ⟨3⟩, [], []⟩).length = 2 ∧
  ¬ BasicBlock.Within straight.length ⟨⟨0⟩, ⟨1⟩, ⟨4⟩, [], []⟩ ∧
  blockInstrs { instrs := straight, blocks := pieces } ⟨⟨0⟩, ⟨1⟩, ⟨4⟩, [], []⟩ = [] ∧
  ¬ BasicBlock.Within straight.length ⟨⟨0⟩, ⟨2⟩, ⟨1⟩, [], []⟩ ∧
  blockInstrs { instrs := straight, blocks := pieces } ⟨⟨0⟩, ⟨2⟩, ⟨1⟩, [], []⟩ = []
  := by
  obtain ⟨hdivide, hsingle, hruns⟩ := blocks_divide_instrs straight
  have hpieces : Consecutive 0 straight.length pieces := by
    simp only [straight, pieces, Consecutive]
    decide
  have hnumbered : straight.length < UInt32.size := by decide
  have hwithin : BasicBlock.Within straight.length ⟨⟨0⟩, ⟨1⟩, ⟨3⟩, [], []⟩ :=
    ⟨by decide, by decide⟩
  have hbeyond : ¬ BasicBlock.Within straight.length ⟨⟨0⟩, ⟨1⟩, ⟨4⟩, [], []⟩ :=
    fun h => absurd h.2 (by decide)
  have hreversed : ¬ BasicBlock.Within straight.length ⟨⟨0⟩, ⟨2⟩, ⟨1⟩, [], []⟩ :=
    fun h => absurd h.1 (by decide)
  exact ⟨hpieces, hdivide pieces hpieces, hnumbered, (hsingle hnumbered).2.2, hwithin,
    ((hruns pieces _).1 hwithin).1, hbeyond, (hruns pieces _).2 hbeyond, hreversed,
    (hruns pieces _).2 hreversed⟩

end Cfg

end DialectIR
