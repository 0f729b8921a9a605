import LanguageServer.Text.Numeral

namespace LanguageServer

/-!
Time.

Instants and spans are counted in nanoseconds, instants from when the clock was started.  A span is
shown in the largest of the units second, millisecond, microsecond and nanosecond in which it is
at least one, with a decimal fraction that has no trailing zeros.
-/

/-- A point in time, in nanoseconds. -/
abbrev Instant := Nat

/-- A length of time, in nanoseconds. -/
abbrev Span := Nat

namespace Span

def ofMilliseconds (count : Nat) : Span := count * 1000000

def ofSeconds (count : Nat) : Span := count * 1000000000

/-- The decimal fraction `amount / 10 ^ places`, nothing when it is zero. -/
def fraction (places amount : Nat) : List Char :=
  let digits := Text.numeral amount
  let padded := List.replicate (places - digits.length) '0' ++ digits
  match (padded.reverse.dropWhile (· == '0')).reverse with
  | [] => []
  | significant => '.' :: significant

/-- A span in a unit of `10 ^ places` nanoseconds. -/
def inUnit (places : Nat) (unit : String) (span : Span) : String :=
  let whole := Nat.pow 10 places
  String.ofList (Text.numeral (span / whole) ++ fraction places (span % whole)) ++ unit

/-- A span as it appears in messages. -/
def display (span : Span) : String :=
  if span ≥ 1000000000 then inUnit 9 "s" span
  else if span ≥ 1000000 then inUnit 6 "ms" span
  else if span ≥ 1000 then inUnit 3 "µs" span
  else inUnit 0 "ns" span

end Span
end LanguageServer
