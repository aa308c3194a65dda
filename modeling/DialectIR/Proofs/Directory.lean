import DialectIR.Name
import Mathlib.Data.List.Induction
import Mathlib.Tactic.Use

/-!
# Directories

Catalogs and scopes keep their entries in order, and beside them a list that leads from the
names of the entries to their places, the latest first.  As long as the names are distinct,
each leads to the place of its entry.
-/

namespace DialectIR

variable {α β : Type} (key : α → Name) (place : Nat → β)

/-- The names of entries with their places, the latest first. -/
def directory (entries : List α) : List (Name × β) :=
  (entries.mapIdx fun i entry => (key entry, place i)).reverse

theorem directory_concat (entries : List α) (entry : α) :
  directory key place (entries ++ [entry])
    = (key entry, place entries.length) :: directory key place entries
  := by
  simp [directory, List.mapIdx_append]

variable {key place}

/-- A name that no entry has leads nowhere. -/
theorem lookup_directory_eq_none {entries : List α} {n : Name}
    (hn : n ∉ entries.map key) :
  (directory key place entries).lookup n = none
  := by
  apply List.lookup_eq_none_iff.mpr
  intro pair hpair
  obtain ⟨i, hi, rfl⟩ := List.mem_mapIdx.mp (List.mem_reverse.mp hpair)
  apply bne_iff_ne.mpr
  rintro rfl
  apply hn (List.mem_map_of_mem (List.getElem_mem hi))

/-- The name of an entry leads to its place, if no other entry has the name. -/
theorem lookup_directory_eq_some {entries : List α} (hnodup : (entries.map key).Nodup)
    {i : Nat} {entry : α} (hentry : entries[i]? = some entry) :
  (directory key place entries).lookup (key entry) = some (place i)
  := by
  induction entries using List.reverseRecOn with
  | nil => cases hentry
  | append_singleton before last ih =>
      rw [List.map_append, List.nodup_append] at hnodup
      obtain ⟨hbefore, -, hlast⟩ := hnodup
      rw [directory_concat]
      rcases Nat.lt_or_ge i before.length with hi | hi
      · rw [List.getElem?_append_left hi] at hentry
        have hne : key entry ≠ key last :=
          hlast _ (List.mem_map_of_mem (List.mem_of_getElem? hentry)) _ (by simp)
        rw [List.lookup_cons, beq_false_of_ne hne]
        apply ih hbefore hentry
      · obtain ⟨j, rfl⟩ := Nat.exists_eq_add_of_le hi
        rw [List.getElem?_append_right (Nat.le_add_right _ _), Nat.add_sub_cancel_left] at hentry
        cases j with
        | zero =>
            cases hentry
            simp
        | succ j => cases hentry

end DialectIR
