namespace LanguageServer
namespace Text

/-!
Decimal numerals.

Numbers are written without padding.  The compiler's numbers are 32 bits wide: a numeral is an
optional plus sign and at least one ASCII digit, and its value has to fit.
-/

/-- The numeral of a number. -/
def numeral (number : Nat) : List Char :=
  Nat.toDigits 10 number

/-- The numeral of a number, as a string. -/
def decimal (number : Nat) : String :=
  String.ofList (numeral number)

/-- An integer, with a minus sign when it is negative. -/
def signedDecimal : Int -> String
  | .ofNat number => decimal number
  | .negSucc number => "-" ++ decimal (number + 1)

/-- The number that a nonempty list of ASCII digits denotes. -/
def natural? (digits : List Char) : Option Nat :=
  if !digits.isEmpty && digits.all Char.isDigit then some (Nat.ofDigitChars 10 digits 0) else none

/-- A numeral may carry a plus sign. -/
def unsigned? : List Char -> Option Nat
  | '+' :: digits => natural? digits
  | digits => natural? digits

/-- The 32-bit number that a numeral denotes. -/
def word? (text : List Char) : Option UInt32 :=
  match unsigned? text with
  | some number => if number < UInt32.size then some (UInt32.ofNat number) else none
  | none => none

end Text
end LanguageServer
