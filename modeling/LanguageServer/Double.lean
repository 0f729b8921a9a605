import LanguageServer.Text.Numeral

namespace LanguageServer

/-!
Numbers in double precision.

A number is a whole significand of at most 53 bits, times a power of two.  Rounding is done on exact
quotients of whole numbers: the nearest number wins, and of two that are equally near the even one.
The decimal text of a number has the fewest digits that read back as the number.
-/

/-- A finite number, `significand * 2 ^ exponent` with a sign.  The significand is as large as 53
bits and the least exponent permit, so each number has one form. -/
structure Double where
  negative : Bool
  significand : Nat
  exponent : Int
deriving DecidableEq, Repr, Inhabited

namespace Double

/-! ### Rounding -/

/-- The least exponent; smaller numbers have fewer bits. -/
def leastExponent : Int := -1074

/-- The greatest exponent of a full significand. -/
def greatestExponent : Int := 971

/-- Significands are smaller than this. -/
def significandLimit : Nat := Nat.pow 2 53

def zero (negative : Bool) : Double := ⟨negative, 0, leastExponent⟩

/-- The whole number nearest to a quotient; of two equally near ones the even one. -/
def nearest (numerator denominator : Nat) : Nat :=
  let quotient := numerator / denominator
  let rest := numerator % denominator
  if 2 * rest < denominator then quotient
  else if 2 * rest > denominator then quotient + 1
  else quotient + quotient % 2

/-- A quotient divided by a power of a base. -/
def scaled (base : Nat) (quotient : Nat × Nat) : Int -> Nat × Nat
  | .ofNat power => (quotient.1, quotient.2 * Nat.pow base power)
  | .negSucc power => (quotient.1 * Nat.pow base (power + 1), quotient.2)

/-- The exponent that leaves a quotient with a full significand. -/
def fullExponent (quotient : Nat × Nat) : Int :=
  let guess : Int := (Nat.log2 quotient.1 : Int) - Nat.log2 quotient.2 - 52
  let (numerator, denominator) := scaled 2 quotient guess
  if numerator < denominator * (significandLimit / 2) then guess - 1 else guess

/-- The number nearest to a quotient, unless that is too large. -/
def ofQuotient? (negative : Bool) (quotient : Nat × Nat) : Option Double :=
  if quotient.1 = 0 then some (zero negative)
  else
    let full := fullExponent quotient
    let exponent := if full < leastExponent then leastExponent else full
    let (numerator, denominator) := scaled 2 quotient exponent
    let rounded := nearest numerator denominator
    let found : Double :=
      if rounded = significandLimit then ⟨negative, significandLimit / 2, exponent + 1⟩
      else ⟨negative, rounded, exponent⟩
    if found.exponent > greatestExponent then none else some found

/-- The size of a number, as an exact quotient. -/
def quotient (number : Double) : Nat × Nat := scaled 2 (number.significand, 1) (-number.exponent)

def ofNat? (value : Nat) : Option Double := ofQuotient? false (value, 1)

/-- The product of two sizes, rounded. -/
def times? (left right : Double) : Option Double :=
  ofQuotient? false
    (left.quotient.1 * right.quotient.1, left.quotient.2 * right.quotient.2)

/-- The quotient of two sizes, rounded. -/
def divided? (left right : Double) : Option Double :=
  ofQuotient? false
    (left.quotient.1 * right.quotient.2, left.quotient.2 * right.quotient.1)

/-! ### Decimal text -/

/-- The power of ten of the first digit of a quotient that is not zero. -/
def decimalExponent (quotient : Nat × Nat) : Int :=
  let whole := quotient.1 / quotient.2
  if whole > 0 then (Text.numeral whole).length - 1
  else
    let places := (List.range 400).find? (fun places =>
      quotient.1 * Nat.pow 10 places ≥ quotient.2)
    Int.negOfNat (places.getD 0)

/-- A whole number, times a power of ten. -/
structure Decimal where
  digits : Nat
  exponent : Int
deriving DecidableEq, Repr, Inhabited

/-- A decimal number reads back as the number. -/
def readsBack (number : Double) (decimal : Decimal) : Bool :=
  ofQuotient? number.negative (scaled 10 (decimal.digits, 1) (-decimal.exponent)) = some number

/-- The decimal number of so many digits that is nearest to the number, if there is one that reads
back. -/
def decimalOf? (number : Double) (count : Nat) : Option Decimal :=
  let exponent := decimalExponent number.quotient - (count : Int) + 1
  let (numerator, denominator) := scaled 10 number.quotient exponent
  let near := nearest numerator denominator
  let lower := numerator / denominator
  let other := if near = lower then lower + 1 else lower
  [near, other].map (fun digits => (⟨digits, exponent⟩ : Decimal))
    |>.find? number.readsBack

/-- The decimal number with the fewest digits that reads back as the number. -/
def shortest (number : Double) : Decimal :=
  ((List.range 17).findSome? (fun fewer => number.decimalOf? (fewer + 1))).getD ⟨0, 0⟩

/-- Digits without the zeros at their end, one digit at least. -/
def trimmed (digits : List Char) : List Char :=
  match (digits.reverse.dropWhile (· = '0')).reverse with
  | [] => ['0']
  | kept => kept

def zeros (count : Nat) : List Char := List.replicate count '0'

/-- Digits of a number whose first digit counts units. -/
def fractionText : List Char -> List Char
  | [] => []
  | [digit] => [digit]
  | digit :: more => digit :: '.' :: more

/-- Digits in positional notation, from the power of ten of the first one.  There is always a digit
on both sides of the point. -/
def positionalText (digits : List Char) : Int -> List Char
  | .ofNat power =>
      let whole := digits.take (power + 1)
      let places := digits.drop (power + 1)
      whole ++ zeros (power + 1 - whole.length) ++ '.' :: (if places.isEmpty then ['0'] else places)
  | .negSucc power => '0' :: '.' :: (zeros power ++ digits)

/-- A power of ten, with a sign and two digits at least. -/
def powerText (power : Int) : List Char :=
  let digits := Text.numeral power.natAbs
  'e' :: (if power < 0 then '-' else '+') :: (zeros (2 - digits.length) ++ digits)

/-- The decimal text of a number.  Very large and very small ones are written with a power of
ten. -/
def display (number : Double) : String :=
  let sign := if number.negative then ['-'] else []
  if number.significand = 0 then String.ofList (sign ++ ['0', '.', '0'])
  else
    let decimal := number.shortest
    let all := Text.numeral decimal.digits
    let power := decimal.exponent + (all.length : Int) - 1
    let digits := trimmed all
    String.ofList (sign ++
      if -5 ≤ power ∧ power ≤ 15 then positionalText digits power
      else fractionText digits ++ powerText power)

end Double
end LanguageServer
