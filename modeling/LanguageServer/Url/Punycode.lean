namespace LanguageServer
namespace Url
namespace Punycode

/-!
Punycode: international labels of host names in ASCII.

The ASCII characters of a label come first.  The others follow in ascending order, each as its
distance from the one before, in numerals of base 36 whose digit thresholds adapt to the distances
seen so far.
-/

def digit (value : Nat) : Char :=
  if value < 26 then Char.ofNat (97 + value) else Char.ofNat (22 + value)

def digitValue? (c : Char) : Option Nat :=
  if 'a' ≤ c ∧ c ≤ 'z' then some (c.toNat - 97)
  else if 'A' ≤ c ∧ c ≤ 'Z' then some (c.toNat - 65)
  else if '0' ≤ c ∧ c ≤ '9' then some (c.toNat - 22)
  else none

/-- The threshold of the digit at offset `k`. -/
def threshold (k bias : Nat) : Nat :=
  if k ≤ bias then 1 else min 26 (k - bias)

/-- Divide a distance down into the range of the bias. -/
def scaleDown : Nat -> Nat -> Nat -> Nat × Nat
  | 0, delta, k => (delta, k)
  | fuel + 1, delta, k => if delta > 455 then scaleDown fuel (delta / 35) (k + 36) else (delta, k)

/-- The bias after a distance. -/
def adapt (delta count : Nat) (first : Bool) : Nat :=
  let halved := if first then delta / 700 else delta / 2
  let (scaled, k) := scaleDown 64 (halved + halved / count) 0
  k + 36 * scaled / (scaled + 38)

/-- The digits of a distance. -/
def distanceDigits (bias : Nat) : Nat -> Nat -> Nat -> List Char
  | 0, _, _ => []
  | fuel + 1, k, value =>
      let limit := threshold k bias
      if value < limit then [digit value]
      else
        digit (limit + (value - limit) % (36 - limit)) ::
          distanceDigits bias fuel (k + 36) ((value - limit) / (36 - limit))

/-- What the encoder knows between two characters. -/
structure Encoder where
  delta : Nat
  bias : Nat
  handled : Nat
  output : List Char

/-- Look at one character of the label while those of code `code` are being written. -/
def Encoder.visit (basic code : Nat) (encoder : Encoder) (c : Char) : Encoder :=
  if c.toNat < code then { encoder with delta := encoder.delta + 1 }
  else if c.toNat = code then
    { delta := 0
      bias := adapt encoder.delta (encoder.handled + 1) (encoder.handled = basic)
      handled := encoder.handled + 1
      output := encoder.output ++ distanceDigits encoder.bias 64 36 encoder.delta }
  else encoder

/-- Write the characters from code `code` on. -/
def encodeFrom (label : List Char) (basic : Nat) : Nat -> Nat -> Encoder -> Encoder
  | 0, _, encoder => encoder
  | fuel + 1, code, encoder =>
      match ((label.map Char.toNat).filter (code ≤ ·)).min? with
      | none => encoder
      | some next =>
          let moved := { encoder with
            delta := encoder.delta + (next - code) * (encoder.handled + 1) }
          let done := label.foldl (Encoder.visit basic next) moved
          encodeFrom label basic fuel (next + 1) { done with delta := done.delta + 1 }

/-- The ASCII form of a label, without its mark. -/
def encode (label : List Char) : List Char :=
  let ascii := label.filter (fun c => c.toNat < 128)
  let start : Encoder := ⟨0, 72, ascii.length, if ascii.isEmpty then [] else ascii ++ ['-']⟩
  (encodeFrom label ascii.length (label.length + 1) 128 start).output

/-- Read one distance: its value added to `sum`, and the rest. -/
def readDistance (bias : Nat) : Nat -> Nat -> Nat -> List Char -> Option (Nat × List Char)
  | _, _, _, [] => none
  | k, weight, sum, c :: rest =>
      match digitValue? c with
      | none => none
      | some value =>
          let total := sum + value * weight
          let limit := threshold k bias
          if value < limit then some (total, rest)
          else readDistance bias (k + 36) (weight * (36 - limit)) total rest

/-- Read the characters that are not ASCII. -/
def decodeFrom : Nat -> Nat -> Nat -> Nat -> List Char -> List Char -> Option (List Char)
  | 0, _, _, _, _, _ => none
  | _, _, _, _, done, [] => some done
  | fuel + 1, code, index, bias, done, text =>
      match readDistance bias 36 1 index text with
      | none => none
      | some (position, rest) =>
          let count := done.length + 1
          let next := code + position / count
          let place := position % count
          if next < 0x110000 ∧ ¬(0xD800 ≤ next ∧ next < 0xE000) then
            decodeFrom fuel next (place + 1) (adapt (position - index) count (index = 0))
              (done.take place ++ Char.ofNat next :: done.drop place) rest
          else none

/-- The label that an ASCII form, without its mark, stands for. -/
def decode? (text : List Char) : Option (List Char) :=
  let tail := (text.reverse.takeWhile (· != '-')).reverse
  let ascii := (text.take (text.length - tail.length)).dropLast
  decodeFrom (text.length + 1) 128 0 72 ascii tail

end Punycode
end Url
end LanguageServer
