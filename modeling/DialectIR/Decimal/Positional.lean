import DialectIR.Decimal.Shortest

/-!
# Positional text of numbers

Floating-point words as text: the shortest decimal that reads back as the same word,
always in positional notation, without a fraction when it is integral.
-/

namespace DialectIR

/-- A decimal in positional notation. -/
def Decimal.positional (d : Decimal) : String :=
  let digits := Nat.toDigits 10 d.digits
  let zeros (n : Nat) : List Char := List.replicate n '0'
  let point := digits.length + d.exponent
  String.ofList <|
    if 0 ≤ d.exponent then
      digits ++ zeros d.exponent.toNat
    else if 0 < point then
      digits.take point.toNat ++ '.' :: digits.drop point.toNat
    else
      '0' :: '.' :: (zeros (-point).toNat ++ digits)

/-- A floating-point word as text.  A zero keeps its sign, and a word that stands for no
number has none. -/
def BinaryFormat.text (f : BinaryFormat) (word : Nat) : String :=
  let signed (negative : Bool) (text : String) := if negative then "-" ++ text else text
  match f.decode word with
  | .nan => "NaN"
  | .infinite negative => signed negative "inf"
  | .finite negative significand exponent =>
    signed negative <|
      if significand = 0 then "0" else (f.interval significand exponent).shortest.positional

end DialectIR
