import LanguageServer.Settings.Toml.Basic

namespace LanguageServer
namespace Settings
namespace Toml

/-!
The tables of a document.

A document is a list of sections.  Every section opens a table, which its dotted keys fill.  A
table may be opened once, but may have come into being before through the headers of tables inside
it.  Tables that dotted keys brought into being are closed to headers, and tables that headers
opened are closed to dotted keys.
-/

/-- How a table came into being. -/
inductive Origin where
  /-- A header opened it. -/
  | opened
  /-- A header of a table inside it implied it. -/
  | implied
  /-- A dotted key implied it. -/
  | dotted
deriving DecidableEq, Repr, Inhabited

/-- A place in a document under construction. -/
inductive Node where
  /-- A value that is complete. -/
  | leaf (value : Toml)
  | table (origin : Origin) (members : List (String × Node))
  /-- A list of tables, each opened by a header of its own. -/
  | tables (elements : List (List (String × Node)))
deriving Inhabited

/-- The members of a table under construction. -/
abbrev Members := List (String × Node)

namespace Members

def find? (members : Members) (name : String) : Option Node := members.lookup name

/-- Replace a member, or add it at the end. -/
def set (members : Members) (name : String) (node : Node) : Members :=
  if (members.lookup name).isSome then
    members.map (fun member => if member.1 = name then (name, node) else member)
  else members ++ [(name, node)]

end Members

/-- Change the table at the end of a path of headers, bringing tables into being on the way.  A
path leads through the last table of a list. -/
def descend (change : Members -> Option Members) : List String -> Members -> Option Members
  | [], members => change members
  | name :: path, members =>
      match members.find? name with
      | none => (descend change path []).map (fun inner => members.set name (.table .implied inner))
      | some (.table origin inner) =>
          (descend change path inner).map (fun changed => members.set name (.table origin changed))
      | some (.tables elements) =>
          match elements.getLast? with
          | some last =>
              (descend change path last).map (fun changed =>
                members.set name (.tables (elements.dropLast ++ [changed])))
          | none => none
      | some (.leaf _) => none

/-- Set a dotted key.  The last table on the way has to belong to dotted keys. -/
def setKey (name : String) (value : Toml) : List String -> Members -> Option Members
  | [], members =>
      match members.find? name with
      | none => some (members.set name (.leaf value))
      | some _ => none
  | next :: path, members =>
      match members.find? next with
      | none =>
          (setKey name value path []).map (fun inner => members.set next (.table .dotted inner))
      | some (.table origin inner) =>
          if origin = .opened ∨ (path = [] ∧ origin ≠ .dotted) then none
          else
            (setKey name value path inner).map (fun changed =>
              members.set next (.table origin changed))
      | some (.tables elements) =>
          match elements.getLast? with
          | some last =>
              if path = [] then none
              else
                (setKey name value path last).map (fun changed =>
                  members.set next (.tables (elements.dropLast ++ [changed])))
          | none => none
      | some (.leaf _) => none

/-- A key and its value. -/
structure Entry where
  path : List String
  name : String
  value : Toml

/-- Set the entries of a table in order. -/
def setAll (entries : List Entry) (members : Members) : Option Members :=
  entries.foldlM (fun members entry => setKey entry.name entry.value entry.path members) members

/-- How a section opens its table. -/
inductive Header where
  /-- The table of the document itself. -/
  | top
  | table (path : List String) (name : String)
  /-- One more table of a list. -/
  | element (path : List String) (name : String)

structure Section where
  header : Header
  entries : List Entry

/-- Add a section to a document. -/
def addSection (members : Members) (part : Section) : Option Members :=
  match part.header with
  | .top => setAll part.entries members
  | .table path name =>
      descend (fun parent =>
        match parent.find? name with
        | none => (setAll part.entries []).map (fun inner => parent.set name (.table .opened inner))
        | some (.table .implied inner) =>
            (setAll part.entries inner).map (fun filled => parent.set name (.table .opened filled))
        | some _ => none) path members
  | .element path name =>
      descend (fun parent =>
        match parent.find? name with
        | none => (setAll part.entries []).map (fun inner => parent.set name (.tables [inner]))
        | some (.tables elements) =>
            (setAll part.entries []).map
              (fun inner => parent.set name (.tables (elements ++ [inner])))
        | some _ => none) path members

mutual

/-- The value that a complete place stands for. -/
def Node.value : Node -> Toml
  | .leaf value => value
  | .table _ members => .table (memberValues members)
  | .tables elements => .array (elementValues elements)

def memberValues : List (String × Node) -> List (String × Toml)
  | [] => []
  | (name, node) :: rest => (name, node.value) :: memberValues rest

def elementValues : List (List (String × Node)) -> List Toml
  | [] => []
  | members :: rest => .table (memberValues members) :: elementValues rest

end

/-- A table that is written between braces. -/
def inlineTable? (entries : List Entry) : Option Toml :=
  (setAll entries []).map (fun members => .table (memberValues members))

/-- The table that the sections of a document make up. -/
def assemble? (sections : List Section) : Option (List (String × Toml)) :=
  (sections.foldlM addSection []).map memberValues

end Toml
end Settings
end LanguageServer
