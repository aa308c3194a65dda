/-!
# Source spans

Half-open ranges of offsets in a source.  The library stores and returns spans and
never interprets them.
-/

namespace DialectIR

/-- The offsets from `start` up to and without `stop`. -/
structure Span where
  start : UInt32
  stop : UInt32
  deriving DecidableEq, Inhabited, Repr

namespace Span

/-- The span of what has no source. -/
def dummy : Span := ⟨0, 0⟩

/-- The span of no offsets at `offset`. -/
def point (offset : UInt32) : Span := ⟨offset, offset⟩

/-- The number of offsets in a span; a span that ends before it starts has none. -/
def length (s : Span) : UInt32 :=
  if s.start ≤ s.stop then s.stop - s.start else 0

/-- Whether a span has no offsets. -/
def isEmpty (s : Span) : Bool :=
  s.length == 0

/-- Whether an offset lies in a span. -/
def contains (s : Span) (offset : UInt32) : Bool :=
  s.start ≤ offset && offset < s.stop

/-- The two ends of a span, separated by two dots. -/
def debugText (s : Span) : String :=
  s!"{s.start}..{s.stop}"

end Span

end DialectIR
