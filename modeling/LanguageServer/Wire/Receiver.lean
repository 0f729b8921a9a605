import LanguageServer.Wire.Request

namespace LanguageServer
namespace Wire

/-!
The receiving end: reads messages as the compiler does.

A parcel is a message as it stands on the wire: an edit, or a command line with its argument
lines.  Reading a parcel takes a command line and then as many argument lines as the command has,
or for an edit the uris up to a blank line and one text for each of them.  As long as a parcel is
not complete it stays unread.
-/

inductive Parcel where
  | edit (documents : List Document)
  | call (command : String) (arguments : List String)
deriving DecidableEq, Repr, Inhabited

namespace Parcel

/-- The command line that opens a parcel. -/
def command : Parcel -> String
  | .edit _ => "#EDIT#"
  | .call command _ => command

/-- How many argument lines follow a command line. -/
def argumentCount (command : String) : Nat :=
  if command ∈ ["#HOVER#", "#DEFINITION#", "#DECLARATION#", "#COMPLETE#", "#SIGNATURE#",
      "#REFERENCES#", "#IMPLEMENTATION#"] then 3
  else if command = "#RENAMEREQUEST#" then 4
  else if command = "#SYMBOLS#" then 1
  else 0

/-- The text up to an end mark, and what follows the mark. -/
def readUntil (mark : Char) : List Char -> Option (List Char × List Char)
  | [] => none
  | c :: rest =>
      if c = mark then some ([], rest)
      else (readUntil mark rest).map (fun found => (c :: found.1, found.2))

/-- A number of lines. -/
def readLines : Nat -> List Char -> Option (List String × List Char)
  | 0, text => some ([], text)
  | count + 1, text =>
      match readUntil '\n' text with
      | none => none
      | some (line, rest) =>
          (readLines count rest).map (fun found => (String.ofList line :: found.1, found.2))

/-- Lines up to a blank one. -/
def readParagraph (fuel : Nat) (text : List Char) : Option (List String × List Char) :=
  match fuel with
  | 0 => none
  | fuel + 1 =>
      match readUntil '\n' text with
      | none => none
      | some ([], rest) => some ([], rest)
      | some (line, rest) =>
          (readParagraph fuel rest).map (fun found => (String.ofList line :: found.1, found.2))

/-- One text for each uri. -/
def readDocuments : List String -> List Char -> Option (List Document × List Char)
  | [], text => some ([], text)
  | uri :: uris, text =>
      match readUntil separatorChar text with
      | none => none
      | some (body, rest) =>
          (readDocuments uris rest).map
            (fun found => (⟨uri, String.ofList body⟩ :: found.1, found.2))

/-- One parcel, if it is complete, and the text after it. -/
def read? (text : List Char) : Option (Parcel × List Char) :=
  match readUntil '\n' text with
  | none => none
  | some (opening, rest) =>
      let command := String.ofList opening
      if command = "#EDIT#" then
        match readParagraph (rest.length + 1) rest with
        | none => none
        | some (uris, afterUris) =>
            (readDocuments uris afterUris).map (fun found => (.edit found.1, found.2))
      else
        (readLines (argumentCount command) rest).map
          (fun found => (.call command found.1, found.2))

/-- All parcels that are complete, and the text that is left. -/
def readAll (fuel : Nat) (text : List Char) : List Parcel × List Char :=
  match fuel with
  | 0 => ([], text)
  | fuel + 1 =>
      match read? text with
      | none => ([], text)
      | some (parcel, rest) =>
          let (parcels, left) := readAll fuel rest
          (parcel :: parcels, left)

end Parcel
end Wire
end LanguageServer
