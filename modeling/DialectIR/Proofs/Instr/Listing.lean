import DialectIR.Instr.Render
import Mathlib.Data.List.Nodup
import Mathlib.Tactic.Use

/-!
# Reading listings

The front of a listing tells which values an instruction defines and which opcode it has,
whatever the texts that the listing shows further on.  It is read in three steps, each of which
ends at the first character that cannot belong to what is read: the digits of a value number end
at a comma or a blank, the defined values end at an equals sign, and the opcode ends at a blank
or where the listing ends.  An opcode cannot be taken for a value, since none starts with a `v`.

An instruction has a listing under the interners that hold the names in it.
-/

namespace DialectIR

/-! ### Where a text leaves a kind of characters -/

/-- A text ends, or goes on with a character that is not of a kind. -/
def Leaves (kind : Char → Bool) (text : List Char) : Prop :=
  ∀ c, text.head? = some c → kind c = false

theorem leaves_nil (kind : Char → Bool) :
  Leaves kind []
  := nofun

theorem leaves_cons {kind : Char → Bool} {c : Char} (hc : kind c = false) (text : List Char) :
  Leaves kind (c :: text)
  := by
  rintro _ ⟨⟩
  apply hc

theorem Leaves.append {kind : Char → Bool} {text more : List Char} (h : Leaves kind text)
    (hmore : Leaves kind more) :
  Leaves kind (text ++ more)
  := by
  cases text with
  | nil => apply hmore
  | cons c rest => apply leaves_cons (h c rfl)

theorem takeWhile_append_of_leaves {kind : Char → Bool} {text more : List Char}
    (h : ∀ c ∈ text, kind c) (hmore : Leaves kind more) :
  (text ++ more).takeWhile kind = text
  := by
  rw [List.takeWhile_append_of_pos h]
  cases more with
  | nil => simp
  | cons c rest => simp [hmore c rfl]

/-- Characters of a kind are told apart from a text that leaves the kind. -/
theorem append_inj_of_leaves {kind : Char → Bool} {text text' more more' : List Char}
    (h : ∀ c ∈ text, kind c) (h' : ∀ c ∈ text', kind c) (hmore : Leaves kind more)
    (hmore' : Leaves kind more') (hsame : text ++ more = text' ++ more') :
  text = text' ∧ more = more'
  := by
  have htext : text = text' := by
    rw [← takeWhile_append_of_leaves h hmore, hsame, takeWhile_append_of_leaves h' hmore']
  subst htext
  use rfl
  apply List.append_cancel_left hsame

/-! ### Values in a row -/

namespace ValueId

theorem toList_text (v : ValueId) :
  v.text.toList = 'v' :: Nat.toDigits 10 v.index
  := by
  simp [text, index, toString]

/-- The digits of a value determine the value. -/
theorem eq_of_digits {v w : ValueId} (h : Nat.toDigits 10 v.index = Nat.toDigits 10 w.index) :
  v = w
  := by
  have hindex : v.index = w.index := by
    rw [← Nat.ofDigitChars_ten_toDigits (n := v.index), h, Nat.ofDigitChars_ten_toDigits]
  apply congrArg mk (UInt32.toNat_inj.mp hindex)

/-- What a row has after its first value. -/
def rowTail : List ValueId → List Char
  | [] => []
  | w :: rest => ',' :: ' ' :: (listText (w :: rest)).toList

theorem toList_listText_cons (v : ValueId) (rest : List ValueId) :
  (listText (v :: rest)).toList = 'v' :: (Nat.toDigits 10 v.index ++ rowTail rest)
  := by
  cases rest with
  | nil => simp [listText, rowTail, toList_text]
  | cons w rest => simp [listText, rowTail, toList_text, String.intercalate_cons_cons]

theorem leaves_rowTail (rest : List ValueId) (more : List Char) :
  Leaves Char.isDigit (rowTail rest ++ ' ' :: more)
  := by
  cases rest with
  | nil => apply leaves_cons rfl
  | cons w rest => apply leaves_cons rfl

/-- The first value of a row can be read from the front of a text. -/
theorem first_inj {v w : ValueId} {rest rest' : List ValueId} {more more' : List Char}
    (h : (listText (v :: rest)).toList ++ ' ' :: more
      = (listText (w :: rest')).toList ++ ' ' :: more') :
  v = w ∧ rowTail rest ++ ' ' :: more = rowTail rest' ++ ' ' :: more'
  := by
  have hdigit : ∀ (v : ValueId), ∀ c ∈ Nat.toDigits 10 v.index, c.isDigit :=
    fun v c hc => Nat.isDigit_of_mem_toDigits (by decide) (by decide) hc
  rw [toList_listText_cons, toList_listText_cons, List.cons_append, List.cons_append,
    List.append_assoc, List.append_assoc] at h
  obtain ⟨hdigits, htail⟩ := append_inj_of_leaves (hdigit v) (hdigit w) (leaves_rowTail rest more)
    (leaves_rowTail rest' more') (List.cons.inj h).2
  exact ⟨eq_of_digits hdigits, htail⟩

/-- A row of values, followed by a blank, can be read from the front of a text. -/
theorem row_inj {v w : ValueId} {rest rest' : List ValueId} {more more' : List Char}
    (h : (listText (v :: rest)).toList ++ ' ' :: more
      = (listText (w :: rest')).toList ++ ' ' :: more') :
  v :: rest = w :: rest' ∧ more = more'
  := by
  induction rest generalizing v w rest' with
  | nil =>
      obtain ⟨rfl, htail⟩ := first_inj h
      cases rest' with
      | nil => exact ⟨rfl, (List.cons.inj htail).2⟩
      | cons w' rest' =>
          -- A blank does not go on with the row, as a comma does.
          simp [rowTail] at htail
  | cons v' rest ih =>
      obtain ⟨rfl, htail⟩ := first_inj h
      cases rest' with
      | nil => simp [rowTail] at htail
      | cons w' rest' =>
          obtain ⟨hrest, hmore⟩ := ih (List.cons.inj (List.cons.inj htail).2).2
          rw [hrest]
          exact ⟨rfl, hmore⟩

/-- A value starts with a letter with which no opcode starts. -/
theorem head?_listText (v : ValueId) (rest : List ValueId) :
  (listText (v :: rest)).toList.head? = some 'v'
  := by
  rw [toList_listText_cons]
  rfl

end ValueId

/-! ### Opcodes -/

namespace Opcode

/-- The opcodes in order. -/
def all : List Opcode :=
  [.assign, .phi, .pi, .get, .put, .goto, .conditionalBranch, .switch, .ret, .raise,
    .caughtException, .invoke, .new, .unary, .binary, .comparison, .instanceOf, .checkCast,
    .conversion, .arrayLength, .arrayLoad, .arrayStore, .monitor, .loadMetadata, .propertyRead,
    .propertyWrite, .lexicalRead, .lexicalWrite, .globalRead, .globalWrite, .isDefined,
    .eachElementHasNext, .eachElementGet, .typeOf, .assertion, .echo, .scopedRegion,
    .checkReference, .dynamicInstanceOf]

theorem mem_all (o : Opcode) :
  o ∈ all
  := by
  cases o <;> decide

theorem nodup_names :
  (all.map name).Nodup
  := by
  decide +kernel

/-- The name of an opcode determines the opcode. -/
theorem eq_of_name {o o' : Opcode} (h : o.name = o'.name) :
  o = o'
  := List.inj_on_of_nodup_map nodup_names o.mem_all o'.mem_all h

theorem ne_blank_of_mem_name (o : Opcode) :
  ∀ c ∈ o.name.toList, c ≠ ' '
  := by
  cases o <;> simp [name]

theorem head?_name (o : Opcode) :
  ∃ c, o.name.toList.head? = some c ∧ c ≠ 'v'
  := by
  cases o <;> exact ⟨_, rfl, by decide⟩

end Opcode

namespace Instr

/-! ### The front of a listing -/

/-- A text is empty or starts with a blank. -/
abbrev Apart (text : String) : Prop :=
  Leaves (· != ' ') text.toList

theorem apart_append {text more : String} (h : Apart text) (hmore : Apart more) :
  Apart (text ++ more)
  := by
  rw [Apart, String.toList_append]
  apply h.append hmore

theorem apart_blank (text : String) :
  Apart (" " ++ text)
  := by
  rw [Apart, String.toList_append]
  apply leaves_cons rfl

theorem apart_join (words : List String) :
  Apart (String.join (words.map (" " ++ ·)))
  := by
  induction words with
  | nil => apply leaves_nil
  | cons word rest ih =>
      rw [List.map_cons, String.join_cons]
      apply apart_append (apart_blank word) ih

theorem apart_useText (i : Instr) :
  Apart i.useText
  := by
  rw [useText]
  split
  · apply leaves_nil
  · apply apart_blank

theorem apart_exceptionText {names : Interner} {i : Instr} {raised : String}
    (h : i.exceptionText? names = some raised) :
  Apart raised
  := by
  rw [exceptionText?] at h
  split at h
  · obtain ⟨texts, -, hraised⟩ := Option.bind_eq_some_iff.mp h
    obtain rfl := Option.some.inj hraised
    rw [String.append_assoc]
    apply apart_blank ("throws [" ++ (", ".intercalate texts ++ "]"))
  · obtain rfl := Option.some.inj h
    apply leaves_nil

/-- Behind the opcode of a listing there is nothing, or a blank comes first. -/
theorem toList_text {names : Interner} {i : Instr} {listing : String}
    (h : i.text? names = some listing) :
  ∃ more, Leaves (· != ' ') more ∧
    listing.toList = i.definitionText.toList ++ (i.opcode.name.toList ++ more)
  := by
  obtain ⟨details, hdetails, h⟩ := Option.bind_eq_some_iff.mp h
  obtain ⟨raised, hraised, h⟩ := Option.bind_eq_some_iff.mp h
  obtain ⟨words, -, hwords⟩ := Option.bind_eq_some_iff.mp hdetails
  obtain rfl := Option.some.inj hwords
  obtain rfl := Option.some.inj h
  refine ⟨_, apart_append (apart_append (apart_join words) i.apart_useText)
    (apart_exceptionText hraised), ?_⟩
  simp only [String.toList_append, List.append_assoc]

theorem definitionText_of_defs_nil {i : Instr} (h : i.defs = []) :
  i.definitionText = ""
  := by
  rw [definitionText, h]
  rfl

theorem toList_definitionText_of_defs_cons {i : Instr} {v : ValueId} {rest : List ValueId}
    (h : i.defs = v :: rest) :
  i.definitionText.toList = (ValueId.listText (v :: rest)).toList ++ [' ', '=', ' ']
  := by
  rw [definitionText, h, List.isEmpty_cons, if_neg Bool.false_ne_true, String.toList_append]
  rfl

/-- An opcode can be read from the front of a text. -/
theorem opcode_inj {o o' : Opcode} {more more' : List Char} (hmore : Leaves (· != ' ') more)
    (hmore' : Leaves (· != ' ') more')
    (h : o.name.toList ++ more = o'.name.toList ++ more') :
  o = o'
  := by
  have hname : ∀ (o : Opcode), ∀ c ∈ o.name.toList, (c != ' ') = true :=
    fun o c hc => bne_iff_ne.mpr (o.ne_blank_of_mem_name c hc)
  obtain ⟨hnames, -⟩ := append_inj_of_leaves (hname o) (hname o') hmore hmore' h
  apply Opcode.eq_of_name (String.toList_inj.mp hnames)

/-- A text that starts with an opcode does not start with a value. -/
theorem opcode_ne_row (o : Opcode) (v : ValueId) (rest : List ValueId) (more more' : List Char) :
  o.name.toList ++ more ≠ (ValueId.listText (v :: rest)).toList ++ more'
  := by
  intro h
  obtain ⟨c, hc, hne⟩ := o.head?_name
  have hhead := congrArg List.head? h
  rw [List.head?_append, List.head?_append, hc, ValueId.head?_listText] at hhead
  apply hne (Option.some.inj hhead)

/-- The defined values and the opcode can be read from the front of a text. -/
theorem front_inj {i j : Instr} {more more' : List Char} (hmore : Leaves (· != ' ') more)
    (hmore' : Leaves (· != ' ') more')
    (h : i.definitionText.toList ++ (i.opcode.name.toList ++ more)
      = j.definitionText.toList ++ (j.opcode.name.toList ++ more')) :
  i.defs = j.defs ∧ i.opcode = j.opcode
  := by
  cases hi : i.defs with
  | nil =>
      rw [definitionText_of_defs_nil hi] at h
      cases hj : j.defs with
      | nil =>
          rw [definitionText_of_defs_nil hj] at h
          exact ⟨rfl, opcode_inj hmore hmore' h⟩
      | cons w rest' =>
          rw [toList_definitionText_of_defs_cons hj, List.append_assoc] at h
          cases opcode_ne_row _ _ _ _ _ h
  | cons v rest =>
      rw [toList_definitionText_of_defs_cons hi, List.append_assoc] at h
      cases hj : j.defs with
      | nil =>
          rw [definitionText_of_defs_nil hj] at h
          cases opcode_ne_row _ _ _ _ _ h.symm
      | cons w rest' =>
          rw [toList_definitionText_of_defs_cons hj, List.append_assoc] at h
          obtain ⟨hdefs, h⟩ := ValueId.row_inj h
          exact ⟨hdefs, opcode_inj hmore hmore' (List.append_cancel_left h)⟩

end Instr

/-! ### Names in a listing -/

/-- An interner holds texts for names. -/
def Interner.Holds (names : Interner) (shown : List Name) : Prop :=
  ∀ n ∈ shown, (names.lookup? n).isSome

/-- The names in the text of a type. -/
def TypeRef.shown (ty : TypeRef) : List Name := [ty.loader, ty.name]

/-- The names in the text of a field. -/
def FieldRef.shown (field : FieldRef) : List Name := field.declaring.shown ++ [field.name]

/-- The names in the text of a method. -/
def MethodRef.shown (method : MethodRef) : List Name :=
  method.declaring.shown ++ [method.selector]

/-- The names in the text of a constant. -/
def Constant.shown : Constant → List Name
  | .string text => [text]
  | _ => []

/-- The names in the text of a lexical access. -/
def LexicalAccess.shown (access : LexicalAccess) : List Name :=
  [access.definer, access.variableName]

/-- The names in the details of a listing. -/
def Payload.shown : Payload → List Name
  | .get _ _ field => field.shown
  | .put _ _ field => field.shown
  | .globalRead _ slot => slot.shown
  | .globalWrite slot _ => slot.shown
  | .conditionalBranch _ operandType _ _ => operandType.shown
  | .invoke _ _ _ _ site => site.target.shown
  | .new _ _ site => site.ty.shown
  | .instanceOf _ _ ty => ty.shown
  | .checkCast _ _ ty => ty.shown
  | .conversion _ _ source target _ => source.shown ++ target.shown
  | .arrayLoad _ _ _ element => element.shown
  | .arrayStore _ _ _ element => element.shown
  | .loadMetadata _ entity token => entity.shown ++ token.shown
  | .lexicalRead accesses => accesses.flatMap LexicalAccess.shown
  | .lexicalWrite accesses => accesses.flatMap LexicalAccess.shown
  | .isDefined _ _ _ (some field) => field.shown
  | _ => []

/-- The names in a listing. -/
def Instr.shown (i : Instr) : List Name :=
  i.payload.shown ++ (i.exceptions.getD []).flatMap TypeRef.shown

theorem Interner.holds_append_iff {names : Interner} {shown more : List Name} :
  names.Holds (shown ++ more) ↔ names.Holds shown ∧ names.Holds more
  := List.forall_mem_append

theorem Interner.holds_flatMap_iff {names : Interner} {α : Type} {shown : α → List Name}
    {l : List α} :
  names.Holds (l.flatMap shown) ↔ ∀ x ∈ l, names.Holds (shown x)
  := List.forall_mem_flatMap

theorem any_const {α : Type} (x : Option α) (p : Bool) :
  (x.any fun _ => p) = (x.isSome && p)
  := by
  cases x <;> rfl

theorem isSome_mapM_iff {α β : Type} (f : α → Option β) (l : List α) :
  (l.mapM f).isSome ↔ ∀ x ∈ l, (f x).isSome
  := by
  induction l with
  | nil => simp
  | cons x rest ih =>
      rw [List.mapM_cons, List.forall_mem_cons, ← ih]
      simp [Option.isSome_bind, any_const]

section

variable {names : Interner}

theorem TypeRef.isSome_text?_iff (ty : TypeRef) :
  (ty.text? names).isSome ↔ names.Holds ty.shown
  := by
  simp [text?, shown, Interner.Holds, Option.isSome_bind, any_const]

theorem FieldRef.isSome_text?_iff (field : FieldRef) :
  (field.text? names).isSome ↔ names.Holds field.shown
  := by
  rw [shown, Interner.holds_append_iff, ← TypeRef.isSome_text?_iff]
  simp [text?, Interner.Holds, Option.isSome_bind, any_const]

theorem MethodRef.isSome_text?_iff (method : MethodRef) :
  (method.text? names).isSome ↔ names.Holds method.shown
  := by
  rw [shown, Interner.holds_append_iff, ← TypeRef.isSome_text?_iff]
  simp [text?, Interner.Holds, Option.isSome_bind, any_const]

theorem Constant.isSome_text?_iff (constant : Constant) :
  (constant.text? names).isSome ↔ names.Holds constant.shown
  := by
  cases constant <;> simp [text?, shown, Interner.Holds]

theorem LexicalAccess.isSome_listText?_iff (accesses : List LexicalAccess) :
  (listText? names accesses).isSome ↔ names.Holds (accesses.flatMap shown)
  := by
  rw [Interner.holds_flatMap_iff]
  simp [listText?, shown, Interner.Holds, Option.isSome_bind, any_const, isSome_mapM_iff]

theorem Payload.isSome_details?_iff (p : Payload) :
  (p.details? names).isSome ↔ names.Holds p.shown
  := by
  cases p with
  | conversion result value source target checkOverflow =>
      rw [shown, Interner.holds_append_iff, ← TypeRef.isSome_text?_iff,
        ← TypeRef.isSome_text?_iff]
      simp [details?, Option.isSome_bind, any_const]
  | loadMetadata result entity token =>
      rw [shown, Interner.holds_append_iff, ← TypeRef.isSome_text?_iff,
        ← Constant.isSome_text?_iff]
      simp [details?, Option.isSome_bind, any_const]
  | isDefined result object fieldValue field =>
      cases field with
      | none => simp [details?, shown, Interner.Holds]
      | some field => simp [details?, shown, Option.isSome_bind, FieldRef.isSome_text?_iff]
  | assertion value fromSpecification =>
      cases fromSpecification <;> simp [details?, shown, Interner.Holds]
  | _ =>
      -- The other kinds show one text at most, besides words of their own.
      simp [details?, shown, Option.isSome_bind, TypeRef.isSome_text?_iff,
        FieldRef.isSome_text?_iff, MethodRef.isSome_text?_iff,
        LexicalAccess.isSome_listText?_iff, Interner.Holds]

end

namespace Instr

/-- An instruction has a listing exactly under the interners that hold the names in it. -/
theorem isSome_text?_iff {names : Interner} (i : Instr) :
  (i.text? names).isSome ↔ names.Holds i.shown
  := by
  rw [shown, Interner.holds_append_iff, Interner.holds_flatMap_iff,
    ← Payload.isSome_details?_iff]
  cases hexceptions : i.exceptions with
  | none => simp [text?, detailText?, exceptionText?, hexceptions, Option.isSome_bind]
  | some types =>
      simp [text?, detailText?, exceptionText?, hexceptions, Option.isSome_bind, any_const,
        isSome_mapM_iff, TypeRef.isSome_text?_iff]

/-- Instructions have listings under interners that hold the names in these.  Instructions of
one listing define the same values in the same order, and have the same opcode, wherever they
come from, whichever interners hold the names, and whatever the texts of the names are. -/
theorem listing_determines {names names' : Interner} {i j : Instr} (hi : names.Holds i.shown)
    (hj : names'.Holds j.shown) :
  ∃ listing listing', i.text? names = some listing ∧ j.text? names' = some listing' ∧
    (listing = listing' → i.defs = j.defs ∧ i.opcode = j.opcode)
  := by
  obtain ⟨listing, hlisting⟩ := Option.isSome_iff_exists.mp (i.isSome_text?_iff.mpr hi)
  obtain ⟨listing', hlisting'⟩ := Option.isSome_iff_exists.mp (j.isSome_text?_iff.mpr hj)
  use listing, listing', hlisting, hlisting'
  rintro rfl
  obtain ⟨more, hmore, hfront⟩ := toList_text hlisting
  obtain ⟨more', hmore', hfront'⟩ := toList_text hlisting'
  rw [hfront] at hfront'
  apply front_inj hmore hmore' hfront'

/-- An interner with texts that look like other parts of a listing. -/
def misleading : Interner :=
  (Interner.initial .bySum).internAll ["a", "v2 = b:c", "a:v2 = b", "c"]

/-- A test against a type of one loader or another. -/
def test (loader name : String) : Instr :=
  .plain (.instanceOf ⟨1⟩ ⟨3⟩ ⟨misleading.naming loader, misleading.naming name⟩)

/-- Different instructions may have one listing, but then they agree in its front. -/
theorem listing_determines_misleading :
  misleading.Holds (test "a" "v2 = b:c").shown ∧ misleading.Holds (test "a:v2 = b" "c").shown ∧
  test "a" "v2 = b:c" ≠ test "a:v2 = b" "c" ∧
  (test "a" "v2 = b:c").text? misleading = some "v1 = instance_of a:v2 = b:c v3" ∧
  (test "a:v2 = b" "c").text? misleading = some "v1 = instance_of a:v2 = b:c v3" ∧
  (test "a" "v2 = b:c").defs = (test "a:v2 = b" "c").defs ∧
  (test "a" "v2 = b:c").opcode = (test "a:v2 = b" "c").opcode
  := by
  have hfirst : (test "a" "v2 = b:c").text? misleading
      = some "v1 = instance_of a:v2 = b:c v3" := by decide +kernel
  have hsecond : (test "a:v2 = b" "c").text? misleading
      = some "v1 = instance_of a:v2 = b:c v3" := by decide +kernel
  have hholds : misleading.Holds (test "a" "v2 = b:c").shown :=
    (isSome_text?_iff _).mp (by rw [hfirst]; rfl)
  have hholds' : misleading.Holds (test "a:v2 = b" "c").shown :=
    (isSome_text?_iff _).mp (by rw [hsecond]; rfl)
  obtain ⟨listing, listing', hlisting, hlisting', hfront⟩ := listing_determines hholds hholds'
  have hsame : listing = listing' := by
    rw [hfirst] at hlisting
    rw [hsecond] at hlisting'
    rw [← Option.some.inj hlisting, ← Option.some.inj hlisting']
  obtain ⟨hdefs, hopcode⟩ := hfront hsame
  refine ⟨hholds, hholds', by decide +kernel, hfirst, hsecond, hdefs, hopcode⟩

end Instr

end DialectIR
