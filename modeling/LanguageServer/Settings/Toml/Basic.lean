namespace LanguageServer
namespace Settings

/-!
TOML values, the language of settings files.

Settings hold no fractional numbers and no dates.  Of a number with a fraction only its size
matters, since a file with one that is too large is malformed, and dates are all alike.
-/

inductive Toml where
  | string (text : String)
  | integer (value : Int)
  /-- A number with a fraction or an exponent; the flag tells that it is not too large. -/
  | fraction (representable : Bool)
  | boolean (value : Bool)
  | date
  | array (elements : List Toml)
  | table (members : List (String × Toml))
deriving Inhabited

namespace Toml

/-- The member of that name. -/
def member? (members : List (String × Toml)) (name : String) : Option Toml :=
  members.lookup name

mutual

/-- No number in the value is too large to be looked at: integers have 128 bits. -/
def isReadable : Toml -> Bool
  | .integer (.ofNat value) => value < Nat.pow 2 128
  | .integer (.negSucc value) => value < Nat.pow 2 127
  | .fraction representable => representable
  | .array elements => areReadable elements
  | .table members => areMembersReadable members
  | .string _ | .boolean _ | .date => true

def areReadable : List Toml -> Bool
  | [] => true
  | value :: rest => isReadable value && areReadable rest

def areMembersReadable : List (String × Toml) -> Bool
  | [] => true
  | (_, value) :: rest => isReadable value && areMembersReadable rest

end

end Toml
end Settings
end LanguageServer
