import LanguageServer.Source.Position
import LanguageServer.Table

namespace LanguageServer

/-!
What can be asked of the compiler, and what it answers.

There are nine kinds of request.  Each has its own type of result, and an answer is a result
together with the kind it belongs to.
-/

/-- Text to show for the symbol under the cursor. -/
structure Hover where
  contents : String
deriving DecidableEq, Repr, Inhabited

/-- One way to complete the text before the cursor. -/
structure CompletionItem where
  label : String
  kind : UInt32
  detail : String
deriving DecidableEq, Repr, Inhabited

/-- One way to call a function. -/
structure Signature where
  label : String
  parameters : List String
deriving DecidableEq, Repr, Inhabited

/-- The ways to call the function at the cursor, and where in them the cursor stands. -/
structure SignatureHelp where
  signatures : List Signature
  activeSignature : UInt32
  activeParameter : UInt32
deriving DecidableEq, Repr, Inhabited

/-- A named thing of the project. -/
structure Symbol where
  name : String
  kind : UInt32
  container : String
  location : Location
deriving DecidableEq, Repr, Inhabited

/-- A replacement of the text in a range. -/
structure TextEdit where
  range : Range
  newText : String
deriving DecidableEq, Repr, Inhabited

/-- Text edits for several documents, grouped by uri. -/
structure WorkspaceEdit where
  changes : Table (List TextEdit)
deriving DecidableEq, Inhabited

namespace WorkspaceEdit

/-- No edits. -/
def empty : WorkspaceEdit := ⟨Table.empty⟩

/-- Add an edit behind the edits that the document already has. -/
def push (edits : WorkspaceEdit) (uri : String) (edit : TextEdit) : WorkspaceEdit :=
  ⟨edits.changes.alter uri (fun earlier => earlier.getD [] ++ [edit])⟩

def isEmpty (edits : WorkspaceEdit) : Bool := edits.changes.isEmpty

end WorkspaceEdit

/-- The kinds of request that the compiler answers. -/
inductive RequestKind where
  | hover
  | definition
  | declaration
  | completion
  | signatureHelp
  | symbols
  | references
  | implementation
  | rename
deriving DecidableEq, Repr, Inhabited

namespace RequestKind

/-- All kinds. -/
def all : List RequestKind :=
  [.hover, .definition, .declaration, .completion, .signatureHelp, .symbols, .references,
    .implementation, .rename]

/-- The kind's name in messages. -/
def label : RequestKind -> String
  | .hover => "hover"
  | .definition => "definition"
  | .declaration => "declaration"
  | .completion => "completion"
  | .signatureHelp => "signature help"
  | .symbols => "symbols"
  | .references => "references"
  | .implementation => "implementation"
  | .rename => "rename"

end RequestKind

/-- A result with the kind of request it answers. -/
inductive Answer where
  | hover (found : Option Hover)
  | definition (found : Option Location)
  | declaration (found : Option Location)
  | completion (items : List CompletionItem)
  | signatureHelp (found : Option SignatureHelp)
  | symbols (found : List Symbol)
  | references (found : List Location)
  | implementation (found : List Location)
  | rename (edits : Option WorkspaceEdit)
deriving DecidableEq, Inhabited

namespace Answer

/-- The kind of request that an answer belongs to. -/
def kind : Answer -> RequestKind
  | .hover _ => .hover
  | .definition _ => .definition
  | .declaration _ => .declaration
  | .completion _ => .completion
  | .signatureHelp _ => .signatureHelp
  | .symbols _ => .symbols
  | .references _ => .references
  | .implementation _ => .implementation
  | .rename _ => .rename

/-- The answer of a compiler that has nothing to tell. -/
def empty : RequestKind -> Answer
  | .hover => .hover none
  | .definition => .definition none
  | .declaration => .declaration none
  | .completion => .completion []
  | .signatureHelp => .signatureHelp none
  | .symbols => .symbols []
  | .references => .references []
  | .implementation => .implementation []
  | .rename => .rename none

@[simp] theorem kind_empty (kind : RequestKind) : (empty kind).kind = kind := by
  cases kind <;> rfl

end Answer
end LanguageServer
