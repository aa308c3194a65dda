import DialectIR.Proofs.Instr.Renumbering

/-!
# Renamed instructions

A function on values renames an instruction: each value that it defines or uses is replaced
by its image.  The definitions and the uses miss no value of a payload, so the result is the
payload with every value in it replaced, wherever the value stands, and nothing else is
changed.  Hence renaming twice is renaming once along the composite.
-/

namespace DialectIR

/-! ### Images as replacements -/

namespace Replacement

theorem pick_cons_zero (w : ValueId) (ws : List ValueId) (operand : ValueId) :
  pick (some (w :: ws)) 0 operand = w
  := rfl

theorem pick_cons_succ (w : ValueId) (ws : List ValueId) (position : Nat) (operand : ValueId) :
  pick (some (w :: ws)) (position + 1) operand = pick (some ws) position operand
  := rfl

/-- Past its first value, a replacement acts as the rest of its values. -/
theorem run_cons_succ (w : ValueId) (ws : List ValueId) (start : Nat) (vs : List ValueId) :
  run (some (w :: ws)) (start + 1) vs = run (some ws) start vs
  := by
  induction vs generalizing start with
  | nil => rfl
  | cons v vs ih => rw [run_cons, run_cons, pick_cons_succ, ih]

/-- Operands are replaced by their images, whatever is given for the operands after them. -/
theorem run_map_append (f : ValueId → ValueId) (vs ws : List ValueId) :
  run (some (vs.map f ++ ws)) 0 vs = vs.map f
  := by
  induction vs with
  | nil => rfl
  | cons v vs ih =>
      rw [List.map_cons, List.cons_append, run_cons, pick_cons_zero, run_cons_succ, ih]

theorem run_map (f : ValueId → ValueId) (vs : List ValueId) :
  run (some (vs.map f)) 0 vs = vs.map f
  := by
  rw [← List.append_nil (vs.map f), run_map_append, List.append_nil]

/-- The operand after others has the value that is given after their images. -/
theorem pick_map_append (f : ValueId → ValueId) (vs : List ValueId) (w operand : ValueId) :
  pick (some (vs.map f ++ [w])) vs.length operand = w
  := by
  simp [pick]

theorem accesses_map (f : ValueId → ValueId) (accesses : List LexicalAccess) :
  Replacement.accesses (some (accesses.map fun access => f access.value)) accesses
    = accesses.map (·.mapValue f)
  := by
  apply List.ext_getElem?
  intro k
  rw [Replacement.accesses, List.getElem?_mapIdx, List.getElem?_map]
  cases haccess : accesses[k]? with
  | none => rfl
  | some access => simp [pick, haccess, LexicalAccess.mapValue]

end Replacement

/-! ### Renamed payloads -/

namespace LexicalAccess

theorem mapValue_mapValue (f g : ValueId → ValueId) (access : LexicalAccess) :
  (access.mapValue f).mapValue g = access.mapValue (g ∘ f)
  := rfl

end LexicalAccess

namespace Payload

theorem defs_mapValues (f : ValueId → ValueId) (p : Payload) :
  (p.mapValues f).defs = p.defs.map f
  := by
  cases p <;> simp [mapValues, defs, LexicalAccess.mapValue]

theorem uses_mapValues (f : ValueId → ValueId) (p : Payload) :
  (p.mapValues f).uses = p.uses.map f
  := by
  cases p <;> simp [mapValues, uses, LexicalAccess.mapValue, Option.toList_map]

theorem mapValues_mapValues (f g : ValueId → ValueId) (p : Payload) :
  (p.mapValues f).mapValues g = p.mapValues (g ∘ f)
  := by
  cases p <;> simp [mapValues, LexicalAccess.mapValue_mapValue]

/-- Replacing the definitions and the uses by their images replaces every value. -/
theorem replaced_map {p : Payload} (h : p.WellFormed) (f : ValueId → ValueId) :
  p.replaced (some (p.defs.map f)) (some (p.uses.map f)) = p.mapValues f
  := by
  cases p with
  | phi result params =>
      simp [replaced, operation, Operation.payload, mapValues, defs, uses,
        Replacement.pick_cons_zero, Replacement.run_map]
  | get result object field => cases object <;> rfl
  | put object value field => cases object <;> rfl
  | ret value isPrimitive =>
      cases value with
      | none => cases h; rfl
      | some value => rfl
  | new result params site =>
      cases params with
      | nil => rfl
      | cons param params =>
          simp [replaced, operation, Operation.payload, mapValues, defs, uses,
            Replacement.pick_cons_zero, Replacement.run_cons_succ, Replacement.run_map]
  | invoke results exception function params site =>
      cases function <;>
        simp [replaced, operation, Operation.payload, mapValues, defs, uses,
          Replacement.run_map_append, Replacement.pick_map_append, Replacement.pick_cons_zero,
          Replacement.run_cons_succ, Replacement.run_map]
  | lexicalRead accesses =>
      simp [replaced, operation, Operation.payload, mapValues, defs, Function.comp_def,
        Replacement.accesses_map]
  | lexicalWrite accesses =>
      simp [replaced, operation, Operation.payload, mapValues, uses, Function.comp_def,
        Replacement.accesses_map]
  | isDefined result object fieldValue field => cases fieldValue <;> rfl
  | echo values =>
      simp [replaced, operation, Operation.payload, mapValues, uses, Replacement.run_map]
  | _ => rfl

/-- The definitions and the uses are all the values of a payload: two functions rename it in
the same way exactly if they agree on them. -/
theorem mapValues_eq_iff {p : Payload} (h : p.WellFormed) (f g : ValueId → ValueId) :
  p.mapValues f = p.mapValues g ↔ ∀ v ∈ p.defs ++ p.uses, f v = g v
  := by
  constructor
  · intro heq v hv
    have hdefs : p.defs.map f = p.defs.map g := by rw [← defs_mapValues, heq, defs_mapValues]
    have huses : p.uses.map f = p.uses.map g := by rw [← uses_mapValues, heq, uses_mapValues]
    rcases List.mem_append.mp hv with hdef | huse
    · apply List.map_inj_left.mp hdefs v hdef
    · apply List.map_inj_left.mp huses v huse
  · intro hagree
    have hdefs : p.defs.map f = p.defs.map g := by
      apply List.map_congr_left
      intro v hv
      apply hagree v (List.mem_append_left _ hv)
    have huses : p.uses.map f = p.uses.map g := by
      apply List.map_congr_left
      intro v hv
      apply hagree v (List.mem_append_right _ hv)
    rw [← replaced_map h f, hdefs, huses, replaced_map h g]

end Payload

/-! ### Renaming -/

namespace Instr

/-- The instruction that a dialect builds with the images of the values that an instruction
defines and uses. -/
def rename (i : Instr) (dialect : Dialect) (f : ValueId → ValueId) : Except InstrError Instr :=
  i.renumber dialect (some (i.defs.map f)) (some (i.uses.map f))

theorem rename_eq_ok {dialect : Dialect} {op : Operation} {i : Instr}
    (h : dialect.build op = .ok i) (f : ValueId → ValueId) :
  i.rename dialect f = .ok ⟨i.payload.mapValues f, i.exceptions⟩
  := by
  obtain ⟨hadmits, -⟩ := Dialect.admits_of_build h
  rw [rename, renumber_eq_ok h, defs, uses, Payload.replaced_map hadmits.2]

/-- The dialect that built an instruction renames it along any function: every value in its
payload is replaced by its image, and nothing else changes.  Renaming along one function and
then along another is renaming along the composite. -/
theorem rename_build
    {dialect : Dialect} {op : Operation} {i : Instr} (hbuild : dialect.build op = .ok i)
    (f : ValueId → ValueId) :
  i.rename dialect f = .ok { i with payload := i.payload.mapValues f } ∧
  (∀ g, (i.rename dialect f >>= (·.rename dialect g)) = i.rename dialect (g ∘ f))
  := by
  constructor
  · apply rename_eq_ok hbuild
  · intro g
    have hfirst := rename_eq_ok hbuild f
    have hsecond : Instr.rename ⟨i.payload.mapValues f, i.exceptions⟩ dialect g
        = .ok ⟨(i.payload.mapValues f).mapValues g, i.exceptions⟩ :=
      rename_eq_ok hfirst g
    rw [hfirst, rename_eq_ok hbuild, ← Payload.mapValues_mapValues]
    apply hsecond

/-- The call with all values shifted, and then with all made one. -/
theorem rename_build_call :
  ∃ i j, functional.build call = .ok i ∧
    i.rename functional (fun v => ⟨v.raw + 10⟩) = .ok j ∧
    j.payload = .invoke [⟨10⟩, ⟨11⟩] ⟨12⟩ (some ⟨13⟩) [⟨14⟩, ⟨15⟩] ⟨0, default, .dynamic⟩ ∧
    j.rename functional (fun _ => ⟨7⟩) = i.rename functional (fun _ => ⟨7⟩)
  := by
  have hbuild : functional.build call = .ok (functional.instr (call.payload default)) := rfl
  obtain ⟨hfirst, hboth⟩ := rename_build hbuild (fun v => ⟨v.raw + 10⟩)
  refine ⟨_, _, hbuild, hfirst, rfl, ?_⟩
  have hsecond := hboth (fun _ => ⟨7⟩)
  rw [hfirst] at hsecond
  apply hsecond

end Instr

end DialectIR
