import LanguageServer.Double
import LanguageServer.Table

namespace LanguageServer

/-!
JSON values, the language between the editor and the server.

Numbers are integers, or numbers in double precision.  The members of an object that was read stand
in the order of their names.
-/

inductive Json where
  | null
  | bool (value : Bool)
  | integer (value : Int)
  | double (value : Double)
  | string (value : String)
  | array (elements : List Json)
  | object (members : List (String × Json))
deriving Inhabited

namespace Json

/-- A natural number. -/
def nat (value : Nat) : Json := .integer value

/-- A value that may be absent. -/
def ofOption {Item : Type} (encode : Item -> Json) : Option Item -> Json
  | some item => encode item
  | none => .null

/-- A list of values. -/
def ofList {Item : Type} (encode : Item -> Json) (items : List Item) : Json :=
  .array (items.map encode)

/-- An object with its members in the order of their names.  Of several members of one name the
last one counts. -/
def ofMembers (members : List (String × Json)) : Json :=
  .object (members.foldl (fun done (name, value) => Entries.alter name (fun _ => value) done) [])

/-- The member of that name; the last one if there are several. -/
def member? (value : Json) (name : String) : Option Json :=
  match value with
  | .object members => (members.reverse.find? (fun member => member.1 == name)).map Prod.snd
  | _ => none

/-- The member of that name, if it is there and not null. -/
def present? (value : Json) (name : String) : Option Json :=
  match value.member? name with
  | some .null => none
  | found => found

/-- The string that a value is. -/
def string? : Json -> Option String
  | .string text => some text
  | _ => none

/-- The integer that a value is. -/
def integer? : Json -> Option Int
  | .integer value => some value
  | _ => none

/-- The natural number that a value is. -/
def nat? : Json -> Option Nat
  | .integer (.ofNat value) => some value
  | _ => none

/-- The truth value that a value is. -/
def bool? : Json -> Option Bool
  | .bool value => some value
  | _ => none

/-- The elements of an array. -/
def array? : Json -> Option (List Json)
  | .array elements => some elements
  | _ => none

/-- The members of an object. -/
def object? : Json -> Option (List (String × Json))
  | .object members => some members
  | _ => none

end Json
end LanguageServer
