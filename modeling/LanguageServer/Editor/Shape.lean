import LanguageServer.Json
import LanguageServer.Text.Numeral
import LanguageServer.Text.Quoted
import LanguageServer.Url.Parser

namespace LanguageServer
namespace Editor

/-!
Shapes: what the parameters of a message have to look like.

A shape is data, and one reader serves all shapes.  It complains about the first thing that does not
fit.  What fits is handed on in one form: records as objects with the members that the shape names,
whether they were written by name or as a list in the order of the shape.
-/

mutual

inductive Shape where
  | anything
  | boolean
  | text
  /-- A whole number of 32 bits, from zero on. -/
  | word
  /-- A whole number of 32 bits, with a sign. -/
  | integer
  | number
  | url
  /-- Null, or of a shape. -/
  | optional (inner : Shape)
  | list (inner : Shape)
  /-- Two of a shape. -/
  | couple (inner : Shape)
  /-- One of several words. -/
  | choice (words : List String)
  | record (name : String) (parts : List Part)
  /-- Members of one shape, under keys of another.  The description is for complaints. -/
  | table (description : String) (keys inner : Shape)
  /-- One of several shapes. -/
  | either (name : String) (shapes : List Shape)
  /-- A truth value where a shape was to be. -/
  | booleanOr (inner : Shape)
  /-- A shape that is written by name only. -/
  | named (inner : Shape)
  /-- A member tells which of several shapes the rest has. -/
  | tagged (member : String) (shapes : List (String × Shape))

/-- A part of a record. -/
inductive Part where
  /-- A member.  The flag tells that it may be left out. -/
  | field (name : String) (shape : Shape) (hasDefault : Bool)
  /-- Members of another record that stand among the members of this one. -/
  | group (parts : List Part)
  /-- Any other members, all of one shape. -/
  | others (shape : Shape)

end

namespace Shape

/-- A member that has to be there. -/
def need (name : String) (shape : Shape) : Part := .field name shape false

/-- A member that may be null or missing. -/
def may (name : String) (shape : Shape) : Part := .field name (.optional shape) false

/-- A member that may be null or missing, at the end of a list too. -/
def mayEnd (name : String) (shape : Shape) : Part := .field name (.optional shape) true

def isOptional : Shape -> Bool
  | .optional _ => true
  | _ => false

end Shape

namespace Part

/-- The part is a member of the record itself. -/
def isField : Part -> Bool
  | .field .. => true
  | _ => false

def name? : Part -> Option String
  | .field name _ _ => some name
  | _ => none

/-- A record may lack the part. -/
def isDispensable : Part -> Bool
  | .field _ shape hasDefault => hasDefault || shape.isOptional
  | _ => true

end Part

/-! ### Complaints -/

/-- A value, or a complaint about what stands in its place. -/
abbrev Reading (Value : Type) := Except String Value

namespace Complaint

/-- What a value is, in a complaint. -/
def describe : Json -> String
  | .null => "null"
  | .bool value => if value then "boolean `true`" else "boolean `false`"
  | .integer value => "integer `" ++ Text.signedDecimal value ++ "`"
  | .double value => "floating point `" ++ value.display ++ "`"
  | .string text => "string " ++ Text.quoted text
  | .array _ => "sequence"
  | .object _ => "map"

def wrongType (value : Json) (expected : String) : String :=
  "invalid type: " ++ describe value ++ ", expected " ++ expected

def wrongValue (value : Json) (expected : String) : String :=
  "invalid value: " ++ describe value ++ ", expected " ++ expected

def wrongLength (length : Nat) (expected : String) : String :=
  "invalid length " ++ Text.decimal length ++ ", expected " ++ expected

def missing (name : String) : String := "missing field `" ++ name ++ "`"

def elements (count : Nat) : String :=
  Text.decimal count ++ if count = 1 then " element" else " elements"

/-- Words to choose from. -/
def wordList (words : List String) : String :=
  let quoted := words.map (fun word => "`" ++ word ++ "`")
  match quoted with
  | [] => "there are no variants"
  | [one] => "expected " ++ one
  | [one, other] => "expected " ++ one ++ " or " ++ other
  | several => "expected one of " ++ String.intercalate ", " several

def unknownWord (word : String) (words : List String) : String :=
  "unknown variant `" ++ word ++ "`, " ++ wordList words

def noneFits (name : String) : String :=
  "data did not match any variant of untagged enum " ++ name

end Complaint

/-! ### Reading -/

namespace Shape

/-- A whole number between limits, the upper one excluded. -/
def readWhole (description : String) (least limit : Int) (value : Json) : Reading Json :=
  match value with
  | .integer amount =>
      if least ≤ amount ∧ amount < limit then .ok value
      else .error (Complaint.wrongValue value description)
  | _ => .error (Complaint.wrongType value description)

def readUrl (value : Json) : Reading Json :=
  match value with
  | .string spelled =>
      match Url.parse spelled with
      | .ok _ => .ok value
      | .error fault => .error (fault.message ++ ": " ++ Text.quoted spelled)
  | _ => .error (Complaint.wrongType value "a string representing an URL")

/-- One of several words, by itself or as the only key of an object. -/
def readChoice (words : List String) (value : Json) : Reading Json :=
  let known (chosen : String) : Reading Json :=
    if words.contains chosen then .ok (.string chosen)
    else .error (Complaint.unknownWord chosen words)
  match value with
  | .string chosen => known chosen
  | .object [(chosen, payload)] =>
      match known chosen, payload with
      | .ok found, .null => .ok found
      | .ok _, other => .error (Complaint.wrongType other "unit")
      | complaint, _ => complaint
  | .object _ => .error (Complaint.wrongValue value "map with a single key")
  | _ => .error (Complaint.wrongType value "string or map")

/-- What became of the members of a record, by name. -/
abbrev Results := List (String × Reading Json)

/-- The complaint about the first of the members that does not fit. -/
def firstComplaint? (results : Results) (members : List (String × Json)) : Option String :=
  members.findSome? (fun member =>
    match results.lookup member.1 with
    | some (.error complaint) => some complaint
    | _ => none)

/-- The complaint about the first part that is missing. -/
def firstMissing? (results : Results) : List Part -> Option String
  | [] => none
  | .field name shape hasDefault :: rest =>
      if (results.lookup name).isSome || (Part.field name shape hasDefault).isDispensable then
        firstMissing? results rest
      else some (Complaint.missing name)
  | _ :: rest => firstMissing? results rest

/-- The members that fit; null counts as missing. -/
def fitting (results : Results) : List (String × Json) :=
  results.filterMap (fun result =>
    match result.2 with
    | .ok .null | .error _ => none
    | .ok value => some (result.1, value))

/-- A record from what became of its members. -/
def conclude (parts : List Part) (members : List (String × Json)) (results : Results) :
    Reading (List (String × Json)) :=
  match firstComplaint? results members, firstMissing? results parts with
  | some complaint, _ => .error complaint
  | none, some complaint => .error complaint
  | none, none => .ok (fitting results)

/-- The complaint about elements that are left over.  Inside a group they are counted otherwise. -/
def tooMany (grouped : Bool) (length count : Nat) : String :=
  Complaint.wrongLength length
    (if grouped then Complaint.elements count ++ " in sequence" else "fewer elements in array")

/-- Members that no field of a record takes. -/
def unclaimed (parts : List Part) (members : List (String × Json)) : List (String × Json) :=
  members.filter (fun member => !parts.any (fun part => part.name? == some member.1))

mutual

/-- Read a value of a shape.  The flag tells that the value stands inside a group. -/
def read (grouped : Bool) : Shape -> Json -> Reading Json
  | .anything, value => .ok value
  | .boolean, value =>
      match value with
      | .bool _ => .ok value
      | _ => .error (Complaint.wrongType value "a boolean")
  | .text, value =>
      match value with
      | .string _ => .ok value
      | _ => .error (Complaint.wrongType value "a string")
  | .word, value => readWhole "u32" 0 4294967296 value
  | .integer, value => readWhole "i32" (-2147483648) 2147483648 value
  | .number, value =>
      match value with
      | .integer _ | .double _ => .ok value
      | _ => .error (Complaint.wrongType value "f32")
  | .url, value => readUrl value
  | .optional inner, value =>
      match value with
      | .null => .ok .null
      | _ => read grouped inner value
  | .list inner, value =>
      match value with
      | .array elements => (elements.mapM (read grouped inner)).map .array
      | _ => .error (Complaint.wrongType value "a sequence")
  | .couple inner, value =>
      match value with
      | .array [one, other] =>
          ([one, other].mapM (read grouped inner)).map .array
      | _ => .error (Complaint.wrongType value "an array of length 2")
  | .choice words, value => readChoice words value
  | .record name parts, value =>
      match value with
      | .object members =>
          if parts.all Part.isField then
            (conclude parts members (readFields grouped parts members)).map .object
          else
            match conclude parts members (readFields grouped parts members),
                readGroups parts (unclaimed parts members) with
            | .error complaint, _ => .error complaint
            | .ok _, .error complaint => .error complaint
            | .ok own, .ok others => .ok (.object (own ++ others))
      | .array elements =>
          if parts.all Part.isField then
            match readElements grouped name parts.length parts 0 elements with
            | .error complaint => .error complaint
            | .ok found =>
                if elements.length > parts.length then
                  .error (tooMany grouped elements.length parts.length)
                else .ok (.object found)
          else .error (Complaint.wrongType value ("struct " ++ name))
      | _ => .error (Complaint.wrongType value ("struct " ++ name))
  | .table description keys inner, value =>
      match value with
      | .object members =>
          let readMember (member : String × Json) : Reading (String × Json) :=
            match read grouped keys (.string member.1) with
            | .error complaint => .error complaint
            | .ok _ => (read grouped inner member.2).map (fun found => (member.1, found))
          (members.mapM readMember).map .object
      | _ => .error (Complaint.wrongType value description)
  | .either name shapes, value =>
      match readFirst shapes value with
      | some found => .ok found
      | none => .error (Complaint.noneFits name)
  | .booleanOr inner, value =>
      match value with
      | .bool _ => .ok value
      | _ => read grouped inner value
  | .named inner, value =>
      match value with
      | .array _ => .error (Complaint.wrongType value "a map")
      | _ => read grouped inner value
  | .tagged member shapes, value =>
      match value.member? member with
      | some (.string chosen) => readTagged chosen shapes value
      | _ => .error (Complaint.missing member)

/-- What becomes of the members that a record names. -/
def readFields (grouped : Bool) : List Part -> List (String × Json) -> Results
  | [], _ => []
  | .field name shape _ :: rest, members =>
      let others := readFields grouped rest members
      match members.lookup name with
      | some value => (name, read grouped shape value) :: others
      | none => others
  | .group _ :: rest, members => readFields grouped rest members
  | .others _ :: rest, members => readFields grouped rest members

/-- The members of the groups of a record, one group after another. -/
def readGroups : List Part -> List (String × Json) -> Reading (List (String × Json))
  | [], _ => .ok []
  | .field .. :: rest, members => readGroups rest members
  | .group parts :: rest, members =>
      match conclude parts members (readFields true parts members) with
      | .error complaint => .error complaint
      | .ok found => (readGroups rest (unclaimed parts members)).map (found ++ ·)
  | .others shape :: rest, members =>
      match members.mapM (fun member =>
        (read true shape member.2).map (fun found => (member.1, found))) with
      | .error complaint => .error complaint
      | .ok found => (readGroups rest []).map (found ++ ·)

/-- The members of a record that is written as a list, the next of which has the given number. -/
def readElements (grouped : Bool) (name : String) (count : Nat) :
    List Part -> Nat -> List Json -> Reading (List (String × Json))
  | [], _, _ => .ok []
  | .field field shape hasDefault :: rest, index, elements =>
      match elements with
      | value :: others =>
          match read grouped shape value with
          | .error complaint => .error complaint
          | .ok found =>
              (readElements grouped name count rest (index + 1) others).map (fun later =>
                fitting [(field, .ok found)] ++ later)
      | [] =>
          if hasDefault then readElements grouped name count rest (index + 1) []
          else
            .error (Complaint.wrongLength index
              ("struct " ++ name ++ " with " ++ Complaint.elements count))
  | .group _ :: rest, index, elements => readElements grouped name count rest index elements
  | .others _ :: rest, index, elements => readElements grouped name count rest index elements

/-- What the first shape that fits makes of a value. -/
def readFirst : List Shape -> Json -> Option Json
  | [], _ => none
  | shape :: rest, value =>
      match read true shape value with
      | .ok found => some found
      | .error _ => readFirst rest value

/-- Read a value of the shape that a word stands for. -/
def readTagged (chosen : String) : List (String × Shape) -> Json -> Reading Json
  | [], _ => .error (Complaint.unknownWord chosen [])
  | (known, shape) :: rest, value =>
      if known = chosen then read true shape value else readTagged chosen rest value

end

end Shape
end Editor
end LanguageServer
