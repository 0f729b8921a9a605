import LanguageServer.Double
import LanguageServer.Settings.Toml.Basic
import LanguageServer.Text.Numeral
import LanguageServer.Text.Pieces

namespace LanguageServer
namespace Settings
namespace Toml

/-!
Scalars that are written without quotes: truth values, numbers and dates.
-/

/-- Digits with single underscores between them, without the underscores. -/
def groupedDigits? (isDigit : Char -> Bool) (text : List Char) : Option (List Char) :=
  let groups := Text.pieces '_' text
  if groups.all (fun group => !group.isEmpty && group.all isDigit) then some groups.flatten
  else none

/-- The value of a hexadecimal digit. -/
def digitValue (c : Char) : Nat :=
  if c.isDigit then c.toNat - '0'.toNat else c.toLower.toNat - 'a'.toNat + 10

def isHexDigit (c : Char) : Bool :=
  c.isDigit || ('a' ≤ c && c ≤ 'f') || ('A' ≤ c && c ≤ 'F')

/-- Digits of a base, with single underscores between them. -/
def inBase? (base : Nat) (text : List Char) : Option Nat :=
  (groupedDigits? (fun c => isHexDigit c && digitValue c < base) text).map
    (fun digits => digits.foldl (fun value c => value * base + digitValue c) 0)

/-- A decimal number has no zero in front, unless it is zero. -/
def decimalDigits? (text : List Char) : Option (List Char) :=
  match groupedDigits? Char.isDigit text with
  | some ['0'] => some ['0']
  | some ('0' :: _) => none
  | digits => digits

/-- Split off a sign: whether it is a minus sign, and the rest. -/
def splitSign : List Char -> Bool × List Char
  | '-' :: rest => (true, rest)
  | '+' :: rest => (false, rest)
  | rest => (false, rest)

/-- A decimal integer, or one with the mark of its base. -/
def integer? : List Char -> Option Int
  | '0' :: 'x' :: digits => (inBase? 16 digits).map Int.ofNat
  | '0' :: 'o' :: digits => (inBase? 8 digits).map Int.ofNat
  | '0' :: 'b' :: digits => (inBase? 2 digits).map Int.ofNat
  | text =>
      let (negative, unsigned) := splitSign text
      (decimalDigits? unsigned).map (fun digits =>
        let magnitude := Nat.ofDigitChars 10 digits 0
        if negative then -(magnitude : Int) else magnitude)

/-- The number `mantissa * 10 ^ exponent` is not too large for double precision. -/
def fitsDouble (mantissa : Nat) (exponent : Int) : Bool :=
  let size : Int := (Nat.toDigits 10 mantissa).length + exponent
  if mantissa = 0 || size < 300 then true
  else if size > 320 then false
  else (Double.ofQuotient? false (Double.scaled 10 (mantissa, 1) (-exponent))).isSome

/-- The number that an exponent denotes. -/
def exponent? (text : List Char) : Option Int :=
  let (negative, unsigned) := splitSign text
  (groupedDigits? Char.isDigit unsigned).map (fun digits =>
    let magnitude := Nat.ofDigitChars 10 digits 0
    if negative then -(magnitude : Int) else magnitude)

/-- A number with a fraction, an exponent or both. -/
def fraction? (text : List Char) : Option Toml :=
  let (_, unsigned) := splitSign text
  if unsigned = "inf".toList ∨ unsigned = "nan".toList then some (.fraction true)
  else
    let isMark (c : Char) : Bool := c == 'e' || c == 'E'
    let mantissa := unsigned.takeWhile (fun c => !isMark c)
    let power := unsigned.dropWhile (fun c => !isMark c)
    let whole := mantissa.takeWhile (· != '.')
    let places := mantissa.dropWhile (· != '.')
    if power.isEmpty && places.isEmpty then none
    else do
      let wholeDigits <- decimalDigits? whole
      let placeDigits <-
        if places.isEmpty then some [] else groupedDigits? Char.isDigit (places.drop 1)
      let exponent <- if power.isEmpty then some 0 else exponent? (power.drop 1)
      some (.fraction (fitsDouble (Nat.ofDigitChars 10 (wholeDigits ++ placeDigits) 0)
        (exponent - placeDigits.length)))

/-! ### Dates -/

/-- A number of exactly so many digits. -/
def fixed? (width : Nat) (text : List Char) : Option Nat :=
  if text.length = width then Text.natural? text else none

def daysOfMonth (year month : Nat) : Nat :=
  if month = 2 then
    if (year % 4 = 0 ∧ year % 100 ≠ 0) ∨ year % 400 = 0 then 29 else 28
  else if month ∈ [4, 6, 9, 11] then 30
  else 31

def isDay (text : List Char) : Bool :=
  match Text.pieces '-' text with
  | [year, month, day] =>
      match fixed? 4 year, fixed? 2 month, fixed? 2 day with
      | some y, some m, some d => 1 ≤ m && m ≤ 12 && 1 ≤ d && d ≤ daysOfMonth y m
      | _, _, _ => false
  | _ => false

/-- Seconds, with or without a fraction; a leap second is one more. -/
def isSecond (text : List Char) : Bool :=
  match Text.pieces '.' text with
  | [second] => ((fixed? 2 second).getD 61) ≤ 60
  | [second, places] =>
      ((fixed? 2 second).getD 61) ≤ 60 && !places.isEmpty && places.all Char.isDigit
  | _ => false

/-- Hours and minutes, and perhaps seconds. -/
def isTime (text : List Char) : Bool :=
  let isClock (hour minute : List Char) : Bool :=
    ((fixed? 2 hour).getD 24) ≤ 23 && ((fixed? 2 minute).getD 60) ≤ 59
  match Text.pieces ':' text with
  | [hour, minute] => isClock hour minute
  | [hour, minute, second] => isClock hour minute && isSecond second
  | _ => false

/-- The distance from universal time. -/
def isOffset : List Char -> Bool
  | sign :: rest =>
      (sign == '+' || sign == '-') &&
        (match Text.pieces ':' rest with
        | [hour, minute] => ((fixed? 2 hour).getD 24) ≤ 23 && ((fixed? 2 minute).getD 60) ≤ 59
        | _ => false)
  | [] => false

/-- A time of day with or without an offset. -/
def isOffsetTime (text : List Char) : Bool :=
  isTime text ||
    (match text.getLast? with
    | some mark => (mark == 'Z' || mark == 'z') && isTime text.dropLast
    | none => false) ||
    (isTime (text.take (text.length - 6)) && isOffset (text.drop (text.length - 6)))

/-- A day, a time of day, or both. -/
def isDate (text : List Char) : Bool :=
  isDay text || isTime text ||
    (isDay (text.take 10) &&
      (match text.drop 10 with
      | mark :: rest => (mark == 'T' || mark == 't' || mark == ' ') && isOffsetTime rest
      | [] => false))

/-- The value of a scalar without quotes. -/
def scalar? (text : List Char) : Option Toml :=
  if text = "true".toList then some (.boolean true)
  else if text = "false".toList then some (.boolean false)
  else
    match integer? text with
    | some value => some (.integer value)
    | none =>
        match fraction? text with
        | some value => some value
        | none => if isDate text then some .date else none

end Toml
end Settings
end LanguageServer
