import DialectIR.Proofs.Instr.Renumbering

/-!
# Instructions in other dialects

An instruction that one dialect built can be renumbered by another.  All that could be
wrong with its payload was looked at when it was built, and no replacement touches that.
So the other dialect asks for the shape of the payload only, and whether it succeeds depends
neither on the values of the operands nor on the dialect that the instruction comes from.

Renumbering twice comes to renumbering once, with the later replacements on top of the
earlier ones.  The dialect in between leaves no trace.
-/

namespace DialectIR

/-! ### Replacements on top of others -/

namespace Replacement

/-- Replacements on top of earlier ones: a position has the value that is given for it here,
or else the one that was given for it earlier. -/
def after : Replacement → Replacement → Replacement
  | none, earlier => earlier
  | some values, earlier => some (values ++ (earlier.getD []).drop values.length)

theorem bind_after (r earlier : Replacement) (position : Nat) :
  (r.after earlier).bind (·[position]?)
    = (r.bind (·[position]?)).or (earlier.bind (·[position]?))
  := by
  cases r with
  | none => rfl
  | some values =>
      have hearlier : earlier.bind (·[position]?) = (earlier.getD [])[position]? := by
        cases earlier with
        | none => rfl
        | some values => rfl
      rw [hearlier, after, Option.bind_some, Option.bind_some, List.getElem?_append]
      split
      · rename_i hgiven
        rw [List.getElem?_eq_getElem hgiven, Option.some_or]
      · rename_i hbeyond
        rw [List.getElem?_drop, Nat.add_sub_cancel' (Nat.le_of_not_lt hbeyond),
          List.getElem?_eq_none (Nat.le_of_not_lt hbeyond), Option.none_or]

@[simp]
theorem pick_after (r earlier : Replacement) (position : Nat) (operand : ValueId) :
  (r.after earlier).pick position operand = r.pick position (earlier.pick position operand)
  := by
  rw [pick, bind_after, pick, pick]
  cases r.bind (·[position]?) with
  | none => rfl
  | some value => rfl

@[simp]
theorem run_after (r earlier : Replacement) (start : Nat) (operands : List ValueId) :
  (r.after earlier).run start operands = r.run start (earlier.run start operands)
  := by
  simp [run, Function.comp_def]

@[simp]
theorem accesses_after (r earlier : Replacement) (operands : List LexicalAccess) :
  (r.after earlier).accesses operands = r.accesses (earlier.accesses operands)
  := by
  simp [accesses, Function.comp_def]

end Replacement

/-! ### Payloads in other dialects -/

namespace Payload

/-- Replacing the operands of a payload with replaced operands is replacing them once. -/
theorem operation_replaced (d u d' u' : Replacement) (p : Payload) :
  (p.replaced d u).operation d' u' = p.operation (d'.after d) (u'.after u)
  := by
  cases p with
  | get result object field =>
      cases object <;> simp [replaced, operation, Operation.payload]
  | put object value field =>
      cases object <;> simp [replaced, operation, Operation.payload]
  | ret value isPrimitive =>
      cases value <;> simp [replaced, operation, Operation.payload]
  | new result params site =>
      cases params <;> simp [replaced, operation, Operation.payload]
  | invoke results exception function params site =>
      cases function <;> simp [replaced, operation, Operation.payload]
  | isDefined result object fieldValue field =>
      cases fieldValue <;> simp [replaced, operation, Operation.payload]
  | _ => simp [replaced, operation, Operation.payload]

/-- The name of the operation that a payload belongs to: that of its kind, unless there are
two operations for payloads of that kind. -/
def operationName : Payload → String
  | .get _ none _ => "get_static"
  | .put none _ _ => "put_static"
  | .invoke _ _ (some _) _ _ => "invoke_value"
  | .new _ (_ :: _) _ => "new_with_args"
  | p => p.opcode.name

/-- The error of a dialect that lacks the shape of a payload. -/
def refusal (d : Dialect) : Payload → InstrError
  | .conversion _ _ source target _ => .unsupportedConversion d.name source target
  | p => .unsupportedOperation d.name p.operationName

theorem refusal_ne_malformed (d : Dialect) (p : Payload) (operation reason : String) :
  p.refusal d ≠ .malformed operation reason
  := by
  cases p <;> simp [refusal]

/-- An operation that replaces operands is refused for the payload that they belong to. -/
theorem unsupported_operation (dialect : Dialect) (d u : Replacement) (p : Payload) :
  (p.operation d u).unsupported dialect = p.refusal dialect
  := by
  cases p with
  | get result object field => cases object <;> rfl
  | put object value field => cases object <;> rfl
  | ret value isPrimitive => cases value <;> rfl
  | invoke results exception function params site => cases function <;> rfl
  | new result params site => cases params <;> rfl
  | _ => rfl

end Payload

/-- A dialect builds a well-formed payload with replaced operands if it has the shape that
the payload belongs to; otherwise it refuses the payload. -/
theorem Payload.WellFormed.build_operation {p : Payload} (h : p.WellFormed)
    (dialect : Dialect) (d u : Replacement) :
  dialect.build (p.operation d u)
    = if p.shape?.all dialect.has then .ok (dialect.instr (p.replaced d u))
      else .error (p.refusal dialect)
  := by
  have hsame := Payload.sameShape_replaced h d u
  have hflaw : (p.replaced d u).flaw? = none := by
    rw [← Payload.payload_operation dialect.root, ← Operation.wellFormed_payload_iff,
      Payload.payload_operation]
    apply hsame.wellFormed.mpr h
  rw [Dialect.build_eq_verdict, Dialect.verdict, Payload.shape?_operation, hsame.shape?,
    Payload.payload_operation, hflaw, Payload.unsupported_operation]

namespace Instr

/-- An instruction is renumbered by a dialect exactly if the dialect has the shape that the
payload belongs to, whatever dialect built the instruction and whatever operands are
replaced.  Otherwise it is refused with the name of the dialect and of the operation for the
payload, or as a conversion that is not supported; its parts fit together in any case. -/
theorem renumber_ok_iff_has_shape
    {origin : Dialect} {op : Operation} {i : Instr} (hbuild : origin.build op = .ok i)
    (dialect : Dialect) (d u : Replacement) :
  ((∃ j, i.renumber dialect d u = .ok j) ↔
    ∀ s, i.payload.shape? = some s → dialect.has s) ∧
  (∀ e, i.renumber dialect d u = .error e ↔
    (∃ s, i.payload.shape? = some s ∧ ¬ dialect.has s) ∧ e = i.payload.refusal dialect) ∧
  (∀ operation reason, i.renumber dialect d u ≠ .error (.malformed operation reason))
  := by
  obtain ⟨hadmits, -⟩ := Dialect.admits_of_build hbuild
  rw [renumber, hadmits.2.build_operation]
  cases hshape : i.payload.shape? with
  | none => simp
  | some s =>
      cases hhas : dialect.has s with
      | true => simp [hhas]
      | false =>
          have hlacks : ∃ t, some s = some t ∧ ¬ dialect.has t := ⟨s, rfl, by simp [hhas]⟩
          simp only [Option.all_some, hhas, Bool.false_eq_true, if_false, Except.error.injEq]
          refine ⟨?_, ?_, ?_⟩
          · simp [hhas]
          · intro e
            constructor
            · rintro rfl
              use hlacks
            · rintro ⟨-, rfl⟩
              rfl
          · simp [Payload.refusal_ne_malformed]

/-- A dialect without optional shapes. -/
def bare : Dialect where
  name := "bare"
  root := default

/-- A dialect with allocations that have arguments. -/
def constructive : Dialect where
  name := "constructive"
  root := default
  shapes := .single .newWithArgs

/-- An allocation with a list of arguments that is empty. -/
def allocation : Operation := .newWithArgs ⟨0⟩ [] ⟨0, default⟩

/-- A dialect without optional shapes refuses the calls of another, and renumbers its
allocations as long as they have no arguments. -/
theorem renumber_ok_iff_has_shape_bare :
  (∃ i, functional.build call = .ok i ∧ i.renumber bare (some [⟨10⟩]) none
    = .error (.unsupportedOperation "bare" "invoke_value")) ∧
  (∃ i j, constructive.build allocation = .ok i ∧ i.renumber bare (some [⟨10⟩]) none = .ok j)
  := by
  have hcall : functional.build call = .ok (functional.instr (call.payload default)) := rfl
  have hallocation : constructive.build allocation
      = .ok (constructive.instr (allocation.payload default)) := rfl
  obtain ⟨-, hrefused, -⟩ := renumber_ok_iff_has_shape hcall bare (some [⟨10⟩]) none
  obtain ⟨htaken, -, -⟩ := renumber_ok_iff_has_shape hallocation bare (some [⟨10⟩]) none
  constructor
  · use functional.instr (call.payload default), hcall
    apply (hrefused _).mpr
    exact ⟨⟨.functionInvoke, rfl, by decide⟩, rfl⟩
  · obtain ⟨j, hj⟩ := htaken.mpr (by rintro s ⟨⟩)
    use constructive.instr (allocation.payload default), j, hallocation

/-- An instruction that one dialect renumbered is renumbered by the next as if the first had
no part in it, with its replacements on top of those made before; this holds of refusals as
well.  So an instruction that was handed to another dialect and back is what it was. -/
theorem renumber_renumber
    {origin : Dialect} {op : Operation} {i : Instr} (hbuild : origin.build op = .ok i) :
  (∀ earlier d u j, i.renumber earlier d u = .ok j → ∀ dialect d' u',
    j.renumber dialect d' u' = i.renumber dialect (d'.after d) (u'.after u)) ∧
  (∀ dialect j, i.renumber dialect none none = .ok j → j.renumber origin none none = .ok i)
  := by
  have hcomposed : ∀ earlier d u j, i.renumber earlier d u = .ok j → ∀ dialect d' u',
      j.renumber dialect d' u' = i.renumber dialect (d'.after d) (u'.after u) := by
    intro earlier d u j hrenumber dialect d' u'
    obtain ⟨-, rfl⟩ := Dialect.build_eq_ok.mp hrenumber
    rw [renumber, renumber, Dialect.instr, Payload.payload_operation,
      Payload.operation_replaced]
  use hcomposed
  intro dialect j hrenumber
  obtain ⟨hadmits, -⟩ := Dialect.admits_of_build hbuild
  calc j.renumber origin none none
    _ = i.renumber origin none none := hcomposed dialect none none j hrenumber origin none none
    _ = .ok i := by rw [renumber_eq_ok hbuild, Payload.replaced_none hadmits.2]

theorem renumber_renumber_call :
  ∃ i j k, functional.build call = .ok i ∧
    i.renumber functional (some [⟨10⟩, ⟨11⟩]) (some [⟨13⟩]) = .ok j ∧
    j.renumber functional (some [⟨20⟩]) none = .ok k ∧
    i.renumber functional (some [⟨20⟩, ⟨11⟩]) (some [⟨13⟩]) = .ok k
  := by
  have hbuild : functional.build call = .ok (functional.instr (call.payload default)) := rfl
  have hfirst := renumber_eq_ok hbuild (some [⟨10⟩, ⟨11⟩]) (some [⟨13⟩])
  have hboth := renumber_eq_ok hbuild (some [⟨20⟩, ⟨11⟩]) (some [⟨13⟩])
  obtain ⟨hcomposed, -⟩ := renumber_renumber hbuild
  refine ⟨_, _, _, hbuild, hfirst, ?_, hboth⟩
  rw [hcomposed _ _ _ _ hfirst, ← hboth]
  rfl

end Instr

end DialectIR
