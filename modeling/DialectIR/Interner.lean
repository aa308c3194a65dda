import DialectIR.Name

/-!
# The interner

A table of texts that only grows.  Each text lies in the shard that a `Placement`
assigns to it, at the position at which it was added, and its `Name` packs the two.
A shard is two tables, one that leads from positions to texts and one that leads back.
Every interner holds the empty text, at `Name.empty`, and the selector of code bodies.

The sharding is invisible in what the interner answers: two texts have one name
exactly when they are equal.
-/

namespace DialectIR

/-- An assignment of texts to shards that puts the empty text into shard `0`. -/
structure Placement where
  shard : String → Fin Name.shardCount
  shard_empty : shard "" = 0

/-- The placement by the sum of the code points of a text. -/
def Placement.bySum : Placement where
  shard s := Fin.ofNat Name.shardCount (s.toList.foldl (fun sum c => sum + c.toNat) 0)
  shard_empty := by decide

/-- A text that could not be added. -/
inductive InternError where
  /-- All positions of the shard are taken. -/
  | shardOverflow (shard : Fin Name.shardCount) (count : Nat)
  deriving DecidableEq, Repr

/-- The text of an interning error. -/
def InternError.message : InternError → String
  | .shardOverflow shard count =>
    s!"interner shard {shard.val} is full ({count} strings, max {Name.maxPosition})"

/-- A shard of an interner: its texts in the order of addition, and an index that leads from
texts to their positions. -/
structure Shard where
  texts : List String := []
  /-- The positions of texts, the latest first. -/
  index : List (String × Nat) := []
  deriving DecidableEq, Inhabited, Repr

/-- The position of a text that is not held yet, and the shard with the text.  If all
positions are taken, the shard, which has the given number, stays as it is. -/
def Shard.insert (s : Shard) (text : String) (number : Fin Name.shardCount) :
    Except InternError Nat × Shard :=
  let position := s.texts.length
  if position ≤ Name.maxPosition then
    (.ok position, { texts := s.texts ++ [text], index := (text, position) :: s.index })
  else
    (.error (.shardOverflow number position), s)

/-- The texts of an interner, shard by shard. -/
structure Interner where
  placement : Placement
  shards : Vector Shard Name.shardCount

/-- The selector of the single method of a code body. -/
def codeBodySelector : String := "do"

namespace Interner

/-- The shard of a number. -/
def shardAt (names : Interner) (number : Fin Name.shardCount) : Shard :=
  names.shards[number]

/-- The interner with another shard in the place of one. -/
def setShard (names : Interner) (number : Fin Name.shardCount) (s : Shard) : Interner :=
  { names with shards := names.shards.set number s }

/-- The shard in which `text` lies, if it lies in the interner. -/
def shardOf (names : Interner) (text : String) : Shard :=
  names.shardAt (names.placement.shard text)

/-- The name of `text`, if it is held. -/
def get? (names : Interner) (text : String) : Option Name :=
  ((names.shardOf text).index.lookup text).map (Name.pack (names.placement.shard text))

/-- The text that a name stands for.  A name that the interner never gave out stands for
none. -/
def lookup? (names : Interner) (n : Name) : Option String :=
  (names.shardAt n.shard).texts[n.position]?

/-- The name of a text that is not held yet, and the interner with the text in its shard. -/
def insert (names : Interner) (text : String) : Except InternError Name × Interner :=
  let number := names.placement.shard text
  let (position, grown) := (names.shardOf text).insert text number
  (position.map (Name.pack number), names.setShard number grown)

/-- The name of `text`, which is added unless it is already held. -/
def tryIntern (names : Interner) (text : String) : Except InternError Name × Interner :=
  match names.get? text with
  | some n => (.ok n, names)
  | none => names.insert text

/-- The name of `text`, which is added unless it is already held.  There is none where
`tryIntern` reports an error. -/
def intern (names : Interner) (text : String) : Option Name × Interner :=
  let (answer, grown) := names.tryIntern text
  (answer.toOption, grown)

/-- The interner after `intern` on each of `texts`. -/
def internAll (names : Interner) (texts : List String) : Interner :=
  texts.foldl (fun names text => (names.intern text).2) names

/-- The interner that holds the empty text and the selector of code bodies. -/
def initial (placement : Placement) : Interner :=
  let blank : Interner := ⟨placement, Vector.replicate Name.shardCount {}⟩
  (blank.insert "").2.internAll [codeBodySelector]

/-- The number of texts held, the empty one included. -/
def size (names : Interner) : Nat :=
  names.shards.foldl (fun count s => count + s.texts.length) 0

/-- Whether nothing but the empty text is held. -/
def isEmpty (names : Interner) : Bool :=
  names.size ≤ 1

/-- A one-line summary of the interner. -/
def debugText (names : Interner) : String :=
  s!"SharedInterner({names.size} names)"

/-- The names that an interner gives to texts; a text it does not hold gets the name of
the empty one. -/
def naming (names : Interner) (text : String) : Name :=
  (names.get? text).getD Name.empty

end Interner

/-- Computations that intern texts. -/
abbrev InternM := StateM Interner

namespace InternM

/-- The name of `text` in the interner at hand, which comes to hold it.  What needs the name
ends with the error if there is one. -/
def intern (text : String) : InternM (Except InternError Name) :=
  fun names => names.tryIntern text

/-- The names that the interner at hand gives to texts once it holds those listed, or the error
of the first for which there is no room. -/
def naming : List String → InternM (Except InternError (String → Name))
  | [] => return .ok (← get).naming
  | text :: rest => do
    match ← intern text with
    | .error e => return .error e
    | .ok _ => naming rest

end InternM

end DialectIR
