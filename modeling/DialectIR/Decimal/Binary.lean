/-!
# Binary floating-point words

The number that a floating-point word stands for, as a significand times a power of two,
and the interval of real numbers that round to it.  All of it is integer arithmetic on
the fields of the word.
-/

namespace DialectIR

/-- A binary floating-point format: the widths of its fraction and exponent fields, below
a sign bit. -/
structure BinaryFormat where
  fractionBits : Nat
  exponentBits : Nat
  deriving DecidableEq, Repr

/-- What a floating-point word stands for. -/
inductive BinaryValue where
  | nan
  | infinite (negative : Bool)
  /-- The number `significand * 2 ^ exponent`, negated if `negative`. -/
  | finite (negative : Bool) (significand : Nat) (exponent : Int)
  deriving DecidableEq, Repr

/-- The powers of two. -/
def powerOfTwo (n : Nat) : Nat := Nat.pow 2 n

namespace BinaryFormat

/-- The format of words of 32 bits. -/
def single : BinaryFormat := ⟨23, 8⟩

/-- The format of words of 64 bits. -/
def double : BinaryFormat := ⟨52, 11⟩

/-- The fraction field of a word. -/
def fraction (f : BinaryFormat) (word : Nat) : Nat :=
  word % powerOfTwo f.fractionBits

/-- The exponent field of a word. -/
def exponentField (f : BinaryFormat) (word : Nat) : Nat :=
  word / powerOfTwo f.fractionBits % powerOfTwo f.exponentBits

/-- The sign bit of a word. -/
def isNegative (f : BinaryFormat) (word : Nat) : Bool :=
  word / powerOfTwo (f.fractionBits + f.exponentBits) % 2 == 1

/-- The exponent of two of the last fraction bit of the smallest numbers. -/
def leastExponent (f : BinaryFormat) : Int :=
  2 - powerOfTwo (f.exponentBits - 1) - f.fractionBits

/-- What a word stands for.  An exponent field of ones marks the infinities and the words
that stand for no number; an exponent field of zeros drops the leading bit of the
significand. -/
def decode (f : BinaryFormat) (word : Nat) : BinaryValue :=
  let negative := f.isNegative word
  let fraction := f.fraction word
  let field := f.exponentField word
  if field = powerOfTwo f.exponentBits - 1 then
    if fraction = 0 then .infinite negative else .nan
  else if field = 0 then
    .finite negative fraction f.leastExponent
  else
    .finite negative (powerOfTwo f.fractionBits + fraction) (f.leastExponent + (field - 1))

end BinaryFormat

/-- An interval of positive rational numbers around `value`, all three with the
denominator `scale`; `closed` says whether the ends belong to it. -/
structure RoundingInterval where
  low : Nat
  value : Nat
  high : Nat
  scale : Nat
  closed : Bool
  deriving DecidableEq, Repr

/-- The numbers that round to `significand * 2 ^ exponent`: they reach half way to the
neighbours, of which the lower one is twice as near at the start of a binade, and the
half-way points round to the even significand. -/
def BinaryFormat.interval (f : BinaryFormat) (significand : Nat) (exponent : Int) :
    RoundingInterval :=
  let below :=
    if significand = powerOfTwo f.fractionBits ∧ f.leastExponent < exponent then 1 else 2
  let grow := powerOfTwo (exponent - 2).toNat
  { low := (4 * significand - below) * grow
    value := 4 * significand * grow
    high := (4 * significand + 2) * grow
    scale := powerOfTwo (2 - exponent).toNat
    closed := significand % 2 == 0 }

end DialectIR
