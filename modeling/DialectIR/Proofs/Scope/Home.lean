import DialectIR.Proofs.Scope.Hiding
import DialectIR.Proofs.Scope.Layout

/-!
# Templates at home

The classes of a template are at home in a loader without base that all of them belong to.
Their types denote these classes, since there is no loader further out to look in, and
superclasses within the template are found.  None of this is changed by later requests, so
that where one type of the template leads to another by superclasses of the template, following
superclasses in the scope does.
-/

namespace DialectIR

/-- A type of a class of a list has a type as its superclass there. -/
def ClassTemplate.Below (ts : List ClassTemplate) (ty superclass : TypeRef) : Prop :=
  ∃ t ∈ ts, t.ty = ty ∧ t.superclass = some superclass

namespace Scope

open ClassTemplate

/-- A type denotes a class, and following superclasses from there leads to the class that
another type denotes. -/
def LeadsTo (s : Scope) (ty ancestor : TypeRef) : Prop :=
  ∃ h id o top steps, s.lookupType? ty = some (h, id) ∧
    s.lookupType? ancestor = some (o, top) ∧ s.ascend steps h id = .ok (some (o, top))

/-- The classes of a template belong to a loader that has no base, has them and finds their
superclasses. -/
structure Hosts (s : Scope) (h : LoaderHandle) (ts : List ClassTemplate) : Prop where
  outermost : s.declared? h = some none
  home {t : ClassTemplate} (ht : t ∈ ts) : s.handle? t.ty.loader = some h
  found {t : ClassTemplate} (ht : t ∈ ts) : ∃ id, s.classIn? t.ty.name h = some (h, id)
  above {t : ClassTemplate} (ht : t ∈ ts) {superclass : TypeRef}
    (hsuper : t.superclass = some superclass) :
    ∃ l id parent, s.loader? h = some l ∧ l.registry.classId? t.ty.name = some id ∧
      l.registry.classId? superclass.name = some parent ∧
      l.registry.superclassOf id = .ok (some parent)

/-! ### Following superclasses -/

/-- A look-up from a loader without base looks in that loader alone. -/
theorem lookupName?_of_outermost {s : Scope} {h : LoaderHandle}
    (houtermost : s.declared? h = some none) (n : Name) :
  s.lookupName? h n = s.classIn? n h
  := by
  obtain ⟨l, hl, -⟩ := declared?_eq_some.mp houtermost
  obtain ⟨hlt, -⟩ := Array.getElem?_eq_some_iff.mp hl
  obtain ⟨fuel, hfuel⟩ := Nat.exists_eq_succ_of_ne_zero (Nat.ne_zero_of_lt hlt)
  have hchain : s.delegationChain h = [h] := by
    rw [delegationChain, size, hfuel, chainFrom, if_neg List.not_mem_nil,
      base?_of_declared_none houtermost]
  simp [lookupName?, hchain]

section

variable {s : Scope} {h : LoaderHandle} {ts : List ClassTemplate} (hosts : s.Hosts h ts)

include hosts

/-- A type of the loader denotes the class of its name there. -/
theorem Hosts.lookupType?_eq {ty : TypeRef} (hhome : s.handle? ty.loader = some h) :
  s.lookupType? ty = s.classIn? ty.name h
  := by
  rw [lookupType?, hhome, ← lookupName?_of_outermost hosts.outermost]
  rfl

/-- What leads to the type of a class of the template by superclasses of the template leads to
it in the scope. -/
theorem Hosts.leadsTo {ty ancestor : TypeRef}
    (hchain : Relation.ReflTransGen (Below ts) ty ancestor)
    (hancestor : ancestor ∈ ts.map (·.ty)) :
  s.LeadsTo ty ancestor
  := by
  obtain ⟨last, hlast, rfl⟩ := List.mem_map.mp hancestor
  obtain ⟨top, htop⟩ := hosts.found hlast
  have hreach : s.handle? ty.loader = some h ∧ ∃ id steps,
      s.classIn? ty.name h = some (h, id) ∧ s.ascend steps h id = .ok (some (h, top)) := by
    induction hchain using Relation.ReflTransGen.head_induction_on with
    | refl => exact ⟨hosts.home hlast, top, 0, htop, rfl⟩
    | head hbelow hrest ih =>
        obtain ⟨t, ht, rfl, hsuper⟩ := hbelow
        obtain ⟨-, parent, steps, hparent, hsteps⟩ := ih
        obtain ⟨l, id, parent', hl, hid, hparent', hup⟩ := hosts.above ht hsuper
        rw [classIn?_eq_some_iff.mpr ⟨rfl, l, hl, hparent'⟩] at hparent
        cases hparent
        have hstep : s.resolveSuperclass h id = .ok (some (h, parent)) :=
          (Resolves.below hup).resolveSuperclass hl fun _ hready => hready
        use hosts.home ht, id, steps + 1, classIn?_eq_some_iff.mpr ⟨rfl, l, hl, hid⟩
        rw [ascend_step hstep, hsteps]
  obtain ⟨hhome, id, steps, hid, hsteps⟩ := hreach
  use h, id, h, top, steps
  rw [hosts.lookupType?_eq hhome, hosts.lookupType?_eq (hosts.home hlast)]
  use hid, htop

/-- What is requested of a scope does not take a template from its home. -/
theorem Hosts.grown {editable : Prop} {t : Scope} (hgrown : s.Grown editable t)
    (hs : s.Indexed) (ht : t.Indexed) :
  t.Hosts h ts
  := by
  constructor
  · apply hgrown.extended.declared hosts.outermost
  · intro u hu
    apply hgrown.extended.handle (hosts.home hu)
  · intro u hu
    obtain ⟨id, hid⟩ := hosts.found hu
    use id, hgrown.classIn? hid
  · intro u hu superclass hsuper
    obtain ⟨l, id, parent, hl, hid, hparent, hup⟩ := hosts.above hu hsuper
    obtain ⟨l', hl', hext, hup'⟩ := hgrown.superclassOf hs ht hl hup
    exact ⟨l', id, parent, hl', hext.found hid, hext.found hparent, hup'⟩

end

/-! ### Templates of a layout -/

/-- Loaders that are initialized after they were added have consistent registries. -/
theorem indexed_upTo (naming : String → Name) (specs : List LoaderSpec) (count : Nat) :
  (upTo naming specs count).Indexed
  := by
  intro h l hl
  rw [upTo, loader?_complete, loader?_ofSpecs, Option.map_map] at hl
  obtain ⟨spec, -, rfl⟩ := Option.map_eq_some_iff.mp hl
  have hempty : (spec.loader naming).registry.Indexed := Registry.indexed_empty _ _
  dsimp only [Function.comp_apply]
  split
  · apply hempty.defineTemplate
  · apply hempty

end Scope

/-- A loader without base, whose name is that of the owner of the template of its language,
hosts the template once all loaders are initialized. -/
theorem Layout.Sound.hosts {names : Interner} {naming : String → Name}
    {specs : List LoaderSpec} (h : Sound names naming specs) {i : Nat} {spec : LoaderSpec}
    (hspec : specs[i]? = some spec) (hbase : spec.base = none)
    (howner : ∀ t ∈ spec.language.template, t.ty.loader = naming spec.name) :
  (Scope.upTo naming specs specs.length).Hosts ⟨i⟩ spec.language.template
  := by
  have hfounded := h.founded spec (List.mem_of_getElem? hspec)
  have hl : (Scope.upTo naming specs specs.length).loader? ⟨i⟩
      = some (spec.loader naming).bootstrapped := by
    obtain ⟨hlt, -⟩ := List.getElem?_eq_some_iff.mp hspec
    rw [Scope.upTo, Scope.loader?_complete, Scope.loader?_ofSpecs, hspec]
    simp [hlt]
  obtain ⟨started, hstarted, hb, -⟩ :=
    Registry.defineTemplate_empty_of_founded hfounded spec.synthetic
  have hregistry : (spec.loader naming).bootstrapped.registry = started :=
    congrArg Prod.fst hstarted
  have hall : ∀ t ∈ spec.language.template,
      t ∈ spec.language.templateOf (naming spec.name) := by
    rw [ClassTemplate.templateOf_eq_template howner]
    exact fun t ht => ht
  constructor
  · rw [Scope.declared?, hl]
    simp [Loader.bootstrapped, LoaderSpec.loader, hbase]
  · intro t ht
    rw [howner t ht]
    apply h.handle?_eq_some hspec
  · intro t ht
    obtain ⟨id, hid, -⟩ := hb.exists_class? (hall t ht)
    rw [← hregistry] at hid
    exact ⟨id, Scope.classIn?_eq_some_iff.mpr ⟨rfl, _, hl, hid⟩⟩
  · intro t ht superclass hsuper
    obtain ⟨id, parent, habove⟩ := hb.exists_superclassOf hfounded (hall t ht) hsuper
    rw [← hregistry] at habove
    exact ⟨_, id, parent, hl, habove⟩

end DialectIR
