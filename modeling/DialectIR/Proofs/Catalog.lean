import DialectIR.Catalog
import DialectIR.Proofs.Directory
import DialectIR.Proofs.Interner.Vocabulary

/-!
# Catalogs of languages

Languages of distinct names make a catalog that has them in order, and in which the name of
each leads to it.  Other lists of languages make none: the first language whose name has come
before is reported.

A catalog asks the interner for the name of a text.  Whether the text was interned for a
language or for something else, its name leads to a language only if the language has that name.
-/

namespace DialectIR.Catalog

/-- The catalog of languages whose names have names under a naming. -/
def under (naming : String → Name) (languages : List Language) : Catalog where
  languages := languages
  index := directory (fun l : Language => naming l.name) id languages

/-- A language of a new name is added at the end. -/
theorem add_under {naming : String → Name} {before : List Language} {l : Language}
    {names : Interner}
    (hname : names.tryIntern l.name = (.ok (naming l.name), names.internAll [l.name]))
    (hnew : naming l.name ∉ before.map fun l => naming l.name) :
  (under naming before).add l names
    = (.ok (under naming (before ++ [l])), names.internAll [l.name])
  := by
  have hfree : (under naming before).index.lookup (naming l.name) = none :=
    lookup_directory_eq_none hnew
  have hgrown : under naming (before ++ [l]) =
      { languages := before ++ [l]
        index := (naming l.name, before.length) :: (under naming before).index } := by
    rw [under, directory_concat]
    rfl
  rw [add, InternM.bind_apply, InternM.intern_apply, hname]
  simp only [hfree]
  rw [hgrown]
  rfl

/-- Languages are added in order if the interner has room for their names and knows them
apart. -/
theorem addAll_under {naming : String → Name} (before : List Language)
    {languages : List Language} {names : Interner} (hroom : names.HasRoom (languages.map (·.name)))
    (hknows : (names.internAll (languages.map (·.name))).Knows naming
      (languages.map (·.name)))
    (hnodup : ((before ++ languages).map fun l => naming l.name).Nodup) :
  addAll (under naming before) languages names
    = (.ok (under naming (before ++ languages)), names.internAll (languages.map (·.name)))
  := by
  induction languages generalizing before names with
  | nil =>
      rw [List.append_nil]
      rfl
  | cons l rest ih =>
      have hname := hroom.intern_eq hknows List.mem_cons_self
      have hnew : naming l.name ∉ before.map fun l => naming l.name := by
        rw [List.map_append, List.nodup_append] at hnodup
        intro hmem
        apply hnodup.2.2 _ hmem _ List.mem_cons_self rfl
      obtain ⟨-, hrest⟩ := Interner.hasRoom_cons_iff.mp hroom
      have hadded := ih (before ++ [l]) hrest
        (hknows.mono (List.subset_cons_self _ _)) (by rwa [← List.append_cons])
      rw [← List.append_cons] at hadded
      rw [addAll, InternM.bind_apply, add_under hname hnew]
      apply hadded

/-- Languages of distinct names, for which the interner has room, make a catalog. -/
theorem ofList_eq_ok {languages : List Language} {names : Interner} (hnames : names.Reached)
    (hroom : names.HasRoom (languages.map (·.name)))
    (hnodup : (languages.map (·.name)).Nodup) :
  ofList languages names
    = (.ok (under (names.internAll (languages.map (·.name))).naming languages),
        names.internAll (languages.map (·.name)))
  := by
  have hknows := hroom.knows
  have hdistinct := hknows.nodup_map (hnames.internAll _) (List.Subset.refl _) hnodup
  rw [List.map_map] at hdistinct
  apply addAll_under [] hroom hknows hdistinct

/-- The name of a language of a catalog leads to the language. -/
theorem get?_under {naming : String → Name} {languages : List Language} {names : Interner}
    (hknows : names.Knows naming (languages.map (·.name)))
    (hnodup : (languages.map fun l => naming l.name).Nodup) {l : Language}
    (hl : l ∈ languages) :
  (under naming languages).get? names l.name = some l
  := by
  obtain ⟨i, hi⟩ := List.mem_iff_getElem?.mp hl
  have hplace : (under naming languages).index.lookup (naming l.name) = some i :=
    lookup_directory_eq_some hnodup hi
  rw [get?, hknows l.name (List.mem_map_of_mem hl)]
  simp only [Option.bind_eq_bind, Option.bind_some, hplace]
  apply hi

/-- A catalog finds what it found before when more texts are interned. -/
theorem get?_internAll {c : Catalog} {names : Interner} {name : String} {l : Language}
    (h : c.get? names name = some l) (texts : List String) :
  c.get? (names.internAll texts) name = some l
  := by
  obtain ⟨n, hn, hplace⟩ := Option.bind_eq_some_iff.mp h
  rw [get?, Interner.get?_internAll hn texts]
  apply hplace

/-! ### Languages of one name -/

/-- The first language of a list whose name is that of one before it. -/
structure Repeats (languages before : List Language) (l : Language) : Prop where
  split : ∃ after, languages = before ++ l :: after
  nodup : (before.map (·.name)).Nodup
  mem : l.name ∈ before.map (·.name)

theorem Repeats.not_nodup {languages before : List Language} {l : Language}
    (h : Repeats languages before l) :
  ¬ (languages.map (·.name)).Nodup
  := by
  obtain ⟨after, rfl⟩ := h.split
  intro hnodup
  rw [List.map_append, List.nodup_append] at hnodup
  apply hnodup.2.2 _ h.mem _ List.mem_cons_self rfl

theorem nodup_or_repeats (languages : List Language) :
  (languages.map (·.name)).Nodup ∨ ∃ before l, Repeats languages before l
  := by
  -- From the end, since a first repetition stays the first when languages come after it.
  induction languages using List.reverseRecOn with
  | nil =>
      left
      apply List.nodup_nil
  | append_singleton languages last ih =>
      rcases ih with hnodup | ⟨before, l, ⟨after, rfl⟩, hbefore, hmem⟩
      · by_cases hlast : last.name ∈ languages.map (·.name)
        · right
          exact ⟨languages, last, ⟨[], rfl⟩, hnodup, hlast⟩
        · left
          rw [List.map_append, List.nodup_append]
          refine ⟨hnodup, List.nodup_singleton _, ?_⟩
          rintro name hname _ hname' rfl
          rw [List.mem_singleton.mp hname'] at hname
          apply hlast hname
      · right
        exact ⟨before, l, ⟨after ++ [last], by simp⟩, hbefore, hmem⟩

/-- A language whose name is that of a language of the catalog is refused. -/
theorem add_under_of_mem {naming : String → Name} {before : List Language} {l : Language}
    {names : Interner} (hknows : names.Knows naming (before.map (·.name)))
    (hnodup : (before.map fun l => naming l.name).Nodup)
    (hmem : l.name ∈ before.map (·.name)) :
  (under naming before).add l names = (.error (.duplicateLanguage l.name), names)
  := by
  obtain ⟨l', hl', hname⟩ := List.mem_map.mp hmem
  obtain ⟨i, hi⟩ := List.mem_iff_getElem?.mp hl'
  have htaken : (under naming before).index.lookup (naming l.name) = some i := by
    rw [← hname]
    apply lookup_directory_eq_some hnodup hi
  rw [add, InternM.bind_apply, InternM.intern_apply,
    Interner.tryIntern_of_get? (hknows l.name hmem)]
  simp only [htaken]
  rfl

/-- Once some languages were added, the rest is added to these. -/
theorem addAll_append {c c' : Catalog} {before : List Language} {names names' : Interner}
    (h : c.addAll before names = (.ok c', names')) (rest : List Language) :
  c.addAll (before ++ rest) names = c'.addAll rest names'
  := by
  induction before generalizing c names with
  | nil =>
      cases h
      rfl
  | cons l before ih =>
      rw [addAll, InternM.bind_apply] at h
      rw [List.cons_append, addAll, InternM.bind_apply]
      rcases hadded : c.add l names with ⟨_ | grown, known⟩
      · rw [hadded] at h
        cases h
      · rw [hadded] at h
        apply ih h

/-- A list of languages makes no catalog if a name comes again in it. -/
theorem Repeats.ofList_eq {languages before : List Language} {l : Language}
    (h : Repeats languages before l) {names : Interner} (hnames : names.Reached)
    (hroom : names.HasRoom (languages.map (·.name))) :
  ofList languages names
    = (.error (.duplicateLanguage l.name), names.internAll (before.map (·.name)))
  := by
  obtain ⟨after, rfl⟩ := h.split
  rw [List.map_append, Interner.hasRoom_append_iff] at hroom
  obtain ⟨hroom, -⟩ := hroom
  have hknows := hroom.knows
  have hdistinct := hknows.nodup_map (hnames.internAll _) (List.Subset.refl _) h.nodup
  rw [List.map_map] at hdistinct
  rw [ofList, addAll_append (ofList_eq_ok hnames hroom h.nodup), addAll, InternM.bind_apply,
    add_under_of_mem hknows hdistinct h.mem]
  rfl

/-! ### Languages by name -/

/-- A text leads to no language unless it is the name of one, also if the interner holds it for
the sake of something else. -/
theorem get?_under_eq_none {naming : String → Name} {languages : List Language}
    {names : Interner} (hnames : names.Reached)
    (hknows : names.Knows naming (languages.map (·.name))) {text : String}
    (htext : text ∉ languages.map (·.name)) :
  (under naming languages).get? names text = none
  := by
  rw [get?]
  cases hn : names.get? text with
  | none => rfl
  | some n =>
      have hfree : (under naming languages).index.lookup n = none := by
        apply lookup_directory_eq_none
        intro hmem
        obtain ⟨l, hl, rfl⟩ := List.mem_map.mp hmem
        have hname := List.mem_map_of_mem (f := (·.name)) hl
        rw [hnames.get?_injective hn (hknows l.name hname)] at htext
        apply htext hname
      simp only [Option.bind_eq_bind, Option.bind_some, hfree, Option.bind_none]

/-- A text leads to the language of that name. -/
theorem get?_under_eq_some_iff {naming : String → Name} {languages : List Language}
    {names : Interner} (hnames : names.Reached)
    (hknows : names.Knows naming (languages.map (·.name)))
    (hnodup : (languages.map fun l => naming l.name).Nodup) {text : String} {l : Language} :
  (under naming languages).get? names text = some l ↔ l ∈ languages ∧ l.name = text
  := by
  constructor
  · intro hget
    by_cases htext : text ∈ languages.map (·.name)
    · obtain ⟨l', hl', rfl⟩ := List.mem_map.mp htext
      rw [get?_under hknows hnodup hl'] at hget
      cases hget
      use hl'
    · rw [get?_under_eq_none hnames hknows htext] at hget
      cases hget
  · rintro ⟨hl, rfl⟩
    apply get?_under hknows hnodup hl

/-- Where the interner has room for their names, languages make a catalog exactly if the names
are distinct, and otherwise the first whose name has come before is reported.  The catalog has
the languages in order.  From then on, whatever else is interned, a text leads to the language
of that name, and to none if there is no such language. -/
theorem ofList_outcome {names : Interner} (hnames : names.Reached) {languages : List Language}
    (hroom : names.HasRoom (languages.map (·.name))) :
  ∃ answer grown, ofList languages names = (answer, grown) ∧
    ((∃ e, answer = .error e) ↔ ¬ (languages.map (·.name)).Nodup) ∧
    (∀ e, answer = .error e ↔
      ∃ before l, Repeats languages before l ∧ e = .duplicateLanguage l.name) ∧
    (∀ c, answer = .ok c → c.languages = languages ∧ ∀ more text,
      (∀ l, c.get? (grown.internAll more) text = some l ↔ l ∈ languages ∧ l.name = text) ∧
      (c.get? (grown.internAll more) text = none ↔ text ∉ languages.map (·.name)))
  := by
  rcases nodup_or_repeats languages with hnodup | ⟨before, l, hrepeats⟩
  · have hknows := hroom.knows
    have hreached := hnames.internAll (languages.map (·.name))
    have hdistinct := hknows.nodup_map hreached (List.Subset.refl _) hnodup
    rw [List.map_map] at hdistinct
    refine ⟨_, _, ofList_eq_ok hnames hroom hnodup, ?_, ?_, ?_⟩
    · simp [hnodup]
    · intro e
      constructor
      · rintro ⟨⟩
      · rintro ⟨before, l, hrepeats, -⟩
        cases hrepeats.not_nodup hnodup
    · rintro c ⟨⟩
      use rfl
      intro more text
      have hknows := hknows.internAll more
      have hreached := hreached.internAll more
      constructor
      · intro l
        apply get?_under_eq_some_iff hreached hknows hdistinct
      · constructor
        · intro hnone htext
          obtain ⟨l, hl, rfl⟩ := List.mem_map.mp htext
          rw [get?_under hknows hdistinct hl] at hnone
          cases hnone
        · apply get?_under_eq_none hreached hknows
  · have hrefused := hrepeats.ofList_eq hnames hroom
    refine ⟨_, _, hrefused, ?_, ?_, ?_⟩
    · simp [hrepeats.not_nodup]
    · intro e
      constructor
      · rintro ⟨⟩
        use before, l, hrepeats
      · -- There is one first such language, as there is one outcome.
        rintro ⟨before', l', hrepeats', rfl⟩
        rw [hrepeats'.ofList_eq hnames hroom] at hrefused
        apply (Prod.mk.inj hrefused).1.symm
    · rintro c ⟨⟩

/-- A language of a name. -/
def named (name : String) : Language := { (default : Language) with name }

/-- Where texts were interned for something else, two languages make a catalog, in which the
name of one of them leads to it and another of the texts leads nowhere.  Of four languages the
third is reported, since the second has its name. -/
theorem ofList_outcome_mixed :
  ∃ c known error known',
    ofList [named "a", named "b"] ((Interner.initial .bySum).internAll ["Root", "b"])
      = (.ok c, known) ∧
    c.get? known "b" = some (named "b") ∧ c.get? known "Root" = none ∧
    ofList [named "a", named "b", named "b", named "a"]
        ((Interner.initial .bySum).internAll ["Root", "b"])
      = (.error error, known') ∧
    error = .duplicateLanguage "b"
  := by
  have hnames := (Interner.reached_initial .bySum).internAll ["Root", "b"]
  have hroom : ∀ texts : List String, texts.length < 8 →
      ((Interner.initial .bySum).internAll ["Root", "b"]).HasRoom texts := by
    intro texts hshort
    have hlong : (["Root", "b"] ++ texts).length < Name.maxPosition := by
      simp [Name.maxPosition]
      omega
    apply (Interner.hasRoom_append_iff.mp (Interner.hasRoom_initial .bySum hlong)).2
  obtain ⟨answer, known, hbuilt, hfails, -, hfound⟩ :=
    ofList_outcome hnames (hroom ([named "a", named "b"].map (·.name)) (by decide))
  obtain ⟨answer', known', hbuilt', -, herror, -⟩ := ofList_outcome hnames
    (hroom ([named "a", named "b", named "b", named "a"].map (·.name)) (by decide))
  have hrepeats : Repeats [named "a", named "b", named "b", named "a"] [named "a", named "b"]
      (named "b") := ⟨⟨_, rfl⟩, by decide, by decide⟩
  have hanswer' := (herror _).mpr ⟨_, _, hrepeats, rfl⟩
  cases answer with
  | error e =>
      have hnodup : ([named "a", named "b"].map (·.name)).Nodup := by decide
      cases hfails.mp ⟨e, rfl⟩ hnodup
  | ok c =>
      obtain ⟨-, hget⟩ := hfound c rfl
      obtain ⟨hb, -⟩ := hget [] "b"
      obtain ⟨-, hroot⟩ := hget [] "Root"
      use c, known, .duplicateLanguage "b", known', hbuilt
      refine ⟨(hb _).mpr ⟨by simp, rfl⟩, hroot.mpr (by decide), ?_, rfl⟩
      rw [hbuilt', hanswer']
      rfl

end DialectIR.Catalog
