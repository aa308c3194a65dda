import DialectIR.Proofs.Instr.Renumbering

/-!
# Where instructions come from

The payloads that a dialect builds are those which it admits: each is described by some
operation that the dialect permits, and an operation that is refused is so for the shape
it needs or for a flaw of its payload.

An instruction that was built may be renumbered by one dialect after the other.  Each of
them builds it anew, so that only the last has a part in its exceptions, and payload and
dialect together determine the instruction.
-/

namespace DialectIR

namespace Dialect

/-! ### Payloads that are built -/

/-- A payload that a dialect admits is built by the operation that describes it. -/
theorem Admits.exists_build {d : Dialect} {p : Payload} (h : d.Admits p) :
  ∃ op, d.build op = .ok (d.instr p)
  := by
  use p.operation none none
  rw [h.build_operation, Payload.replaced_none h.2]

/-- A dialect builds a payload through some operation exactly when it admits the payload.
It answers every operation by the first of these that applies: it lacks the shape that the
operation needs, the payload has a flaw, or here is the instruction of the payload. -/
theorem builds_exactly_admitted (d : Dialect) :
  (∀ p, (∃ op i, d.build op = .ok i ∧ i.payload = p) ↔ d.Admits p) ∧
  (∀ op, d.build op = d.verdict op)
  := by
  constructor
  · intro p
    constructor
    · rintro ⟨op, i, hbuild, rfl⟩
      obtain ⟨hadmits, -⟩ := admits_of_build hbuild
      apply hadmits
    · intro hadmits
      obtain ⟨op, hbuild⟩ := hadmits.exists_build
      use op, d.instr p, hbuild
      rfl
  · apply d.build_eq_verdict

end Dialect

namespace Instr

/-! ### Instructions that come about -/

/-- The instructions that come about by building and then renumbering any number of times;
the dialect is that of the last step. -/
inductive Made : Dialect → Instr → Prop where
  | built {d : Dialect} {op : Operation} {i : Instr} (hbuild : d.build op = .ok i) : Made d i
  | renumbered {earlier d : Dialect} {i j : Instr} (hmade : Made earlier i)
    {defs uses : Replacement} (hrenumber : i.renumber d defs uses = .ok j) : Made d j

/-- Whatever dialects had a part in an instruction, it is the one of its payload in the
last. -/
theorem Made.eq_instr {d : Dialect} {i : Instr} (h : Made d i) :
  i = d.instr i.payload
  := by
  cases h with
  | built hbuild => apply (Dialect.admits_of_build hbuild).2.symm
  | renumbered hmade hrenumber => apply (Dialect.admits_of_build hrenumber).2.symm

theorem exceptionTypes_eq_ok {i : Instr} {types : List TypeRef} :
  i.exceptionTypes = .ok types ↔ i.exceptions = some types
  := by
  rw [exceptionTypes]
  cases i.exceptions with
  | none => simp
  | some listed => simp

/-- The exceptions of an instruction that comes about are those which the last dialect has
for its payload: the instruction may except if there are some, and these are what it
answers.  So two instructions of one payload that a dialect made last are the same. -/
theorem exceptions_of_made {d : Dialect} {i : Instr} (h : Made d i) :
  (i.mayExcept ↔ ∃ types, d.exceptionsOf i.payload = some types) ∧
  (∀ types, i.exceptionTypes = .ok types ↔ d.exceptionsOf i.payload = some types) ∧
  (∀ j, Made d j → j.payload = i.payload → j = i)
  := by
  have hexceptions : i.exceptions = d.exceptionsOf i.payload :=
    congrArg Instr.exceptions h.eq_instr
  refine ⟨?_, ?_, ?_⟩
  · rw [mayExcept, Option.isSome_iff_exists, hexceptions]
  · intro types
    rw [exceptionTypes_eq_ok, hexceptions]
  · intro j hj hpayload
    rw [hj.eq_instr, hpayload, ← h.eq_instr]

/-- A dialect with calls of function values that raise nothing known. -/
def vague : Dialect :=
  { functional with name := "vague", invoke := [] }

/-- A call that another dialect built has the exceptions of the dialect that renumbered it
last, and is the call that this dialect builds itself. -/
theorem exceptions_of_made_call :
  ∃ i j, vague.build call = .ok i ∧ i.exceptionTypes = .ok [] ∧
    i.renumber functional none none = .ok j ∧ j.exceptionTypes = .ok [default] ∧
    functional.build call = .ok j
  := by
  obtain ⟨i, hi⟩ : ∃ i, vague.build call = .ok i := ⟨_, rfl⟩
  obtain ⟨j, hj⟩ : ∃ j, i.renumber functional none none = .ok j := by
    cases hi
    exact ⟨_, rfl⟩
  obtain ⟨direct, hdirect⟩ : ∃ direct, functional.build call = .ok direct := ⟨_, rfl⟩
  obtain ⟨-, htypes, -⟩ := exceptions_of_made (Made.built hi)
  obtain ⟨-, htypes', hsame⟩ := exceptions_of_made (Made.renumbered (Made.built hi) hj)
  have hpayload : direct.payload = j.payload := by
    cases hi
    cases hj
    cases hdirect
    rfl
  use i, j, hi, (htypes []).mpr (by cases hi; rfl), hj
  use (htypes' [default]).mpr (by cases hi; cases hj; rfl)
  rw [hdirect, hsame direct (Made.built hdirect) hpayload]

end Instr

end DialectIR
