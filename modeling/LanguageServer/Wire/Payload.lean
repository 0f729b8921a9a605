import LanguageServer.Source.Answer
import LanguageServer.Source.Diagnostic
import LanguageServer.Text.Pieces

namespace LanguageServer
namespace Wire

/-!
Payloads: what the lines of a frame mean.

The fields of a line are separated by tabs, and lines and columns are counted from one.  A line
with too few fields is passed over; a field that should be a number and is not makes the whole
payload unreadable.
-/

/-- The numeric fields of payloads. -/
inductive Field where
  | startLine
  | startColumn
  | endLine
  | endColumn
  | completionKind
  | activeSignature
  | activeParameter
  | symbolKind
deriving DecidableEq, Repr, Inhabited

namespace Field

def label : Field -> String
  | .startLine => "start line"
  | .startColumn => "start column"
  | .endLine => "end line"
  | .endColumn => "end column"
  | .completionKind => "completion kind"
  | .activeSignature => "active signature"
  | .activeParameter => "active parameter"
  | .symbolKind => "symbol kind"

end Field

/-- Why a payload cannot be read. -/
inductive PayloadFault where
  | invalidNumber (field : Field) (value : String)
  | fieldCount (expected found : Nat)
  | symbolWithoutUri
deriving DecidableEq, Repr, Inhabited

namespace PayloadFault

def message : PayloadFault -> String
  | .invalidNumber field value => "invalid number `" ++ value ++ "` in " ++ field.label
  | .fieldCount expected found =>
      "expected " ++ Text.decimal expected ++ " fields, found " ++ Text.decimal found
  | .symbolWithoutUri => "symbol record appears before any document uri"

end PayloadFault

/-- Reading a payload. -/
abbrev Reading (Result : Type) := Except PayloadFault Result

namespace Payload

/-- A 32-bit number with blanks around it. -/
def number (field : Field) (value : String) : Reading UInt32 :=
  match Text.word? (Text.trim value.toList) with
  | some word => .ok word
  | none => .error (.invalidNumber field value)

/-- A range, from the four fields that give its ends. -/
def range (startLine startColumn endLine endColumn : String) : Reading Range := do
  let firstLine <- number .startLine startLine
  let firstColumn <- number .startColumn startColumn
  let lastLine <- number .endLine endLine
  let lastColumn <- number .endColumn endColumn
  pure ⟨Position.ofOneBased firstLine firstColumn, Position.ofOneBased lastLine lastColumn⟩

/-- Fields that follow one another, with the tabs between them. -/
def remainder (fields : List String) : String :=
  Text.join "\t" fields

/-- The text of all lines, unless it is blank. -/
def hover (lines : List String) : Option Hover :=
  let contents := Text.join "\n" lines
  if (Text.trim contents.toList).isEmpty then none else some ⟨contents⟩

/-- A line that begins with a uri and a range. -/
def location? (line : String) : Reading (Option Location) :=
  match Text.fields line with
  | uri :: startLine :: startColumn :: endLine :: endColumn :: _ => do
      let found <- range startLine startColumn endLine endColumn
      pure (some ⟨uri, found⟩)
  | _ => pure none

/-- The location on the first line. -/
def singleLocation : List String -> Reading (Option Location)
  | [] => pure none
  | line :: _ => location? line

/-- Read each line in turn and keep what it yields; the first unreadable line decides. -/
def collect {Item : Type} (read : String -> Reading (Option Item)) :
    List String -> Reading (List Item)
  | [] => pure []
  | line :: rest => do
      let item <- read line
      let others <- collect read rest
      pure (item.toList ++ others)

/-- The locations on the lines that have one. -/
def locations (lines : List String) : Reading (List Location) :=
  collect location? lines

/-- A completion: label, kind, and a detail that may hold tabs. -/
def completionItem? (line : String) : Reading (Option CompletionItem) :=
  match Text.fields line with
  | label :: kind :: detail :: more => do
      let code <- number .completionKind kind
      pure (some ⟨label, code, remainder (detail :: more)⟩)
  | _ => pure none

def completion (lines : List String) : Reading (List CompletionItem) :=
  collect completionItem? lines

/-- A label and the parameters behind it. -/
def signature (line : String) : Signature :=
  match Text.fields line with
  | [] => ⟨"", []⟩
  | label :: parameters => ⟨label, parameters⟩

/-- Two numbers, then one signature a line.  Without signatures the numbers are not looked at. -/
def signatureHelp : List String -> Reading (Option SignatureHelp)
  | activeSignature :: activeParameter :: rest =>
      let signatures := (rest.filter (fun line => line != "")).map signature
      if signatures.isEmpty then pure none
      else do
        let whichSignature <- number .activeSignature activeSignature
        let whichParameter <- number .activeParameter activeParameter
        pure (some ⟨signatures, whichSignature, whichParameter⟩)
  | _ => pure none

/-- A symbol record of the document `uri`, if one is known. -/
def symbolRecord (uri : Option String)
    (name kind container startLine startColumn endLine endColumn : String) : Reading Symbol :=
  match uri with
  | none => .error .symbolWithoutUri
  | some document => do
      let code <- number .symbolKind kind
      let place <- range startLine startColumn endLine endColumn
      pure ⟨name, code, container, ⟨document, place⟩⟩

/-- Records of seven fields; a line of one field names the document of the records after it. -/
def symbolsFrom : Option String -> List String -> Reading (List Symbol)
  | _, [] => pure []
  | uri, line :: rest =>
      if line = "" then symbolsFrom uri rest
      else
        match Text.fields line with
        | [document] => symbolsFrom (some document) rest
        | [name, kind, container, startLine, startColumn, endLine, endColumn] => do
            let symbol <-
              symbolRecord uri name kind container startLine startColumn endLine endColumn
            let others <- symbolsFrom uri rest
            pure (symbol :: others)
        | others => .error (.fieldCount 7 others.length)

/-- The first line is a marker without meaning. -/
def symbols (lines : List String) : Reading (List Symbol) :=
  symbolsFrom none lines.tail

/-- A replacement in a document: uri, range, and a text that may hold tabs. -/
def textEdit? (line : String) : Reading (Option (String × TextEdit)) :=
  match Text.fields line with
  | uri :: startLine :: startColumn :: endLine :: endColumn :: text :: more => do
      let place <- range startLine startColumn endLine endColumn
      pure (some (uri, ⟨place, remainder (text :: more)⟩))
  | _ => pure none

/-- The replacements of all lines, by document; nothing when there are none. -/
def rename (lines : List String) : Reading (Option WorkspaceEdit) := do
  let edits <- collect textEdit? lines
  let grouped := edits.foldl (fun whole edit => whole.push edit.1 edit.2) WorkspaceEdit.empty
  pure (if grouped.isEmpty then none else some grouped)

/-- A diagnostic and its document: severity, uri, range, and a message that may hold tabs.  A
severity without a known word is a warning. -/
def diagnostic? (line : String) : Reading (Option (String × Diagnostic)) :=
  match Text.fields line with
  | severity :: uri :: startLine :: startColumn :: endLine :: endColumn :: message :: more => do
      let place <- range startLine startColumn endLine endColumn
      pure (some (uri, ⟨(Severity.ofWord? severity).getD .warning, place,
        remainder (message :: more)⟩))
  | _ => pure none

/-- The answer that a response of the given kind carries. -/
def answer (kind : RequestKind) (lines : List String) : Reading Answer :=
  match kind with
  | .hover => pure (.hover (hover lines))
  | .definition => (singleLocation lines).map .definition
  | .declaration => (singleLocation lines).map .declaration
  | .completion => (completion lines).map .completion
  | .signatureHelp => (signatureHelp lines).map .signatureHelp
  | .symbols => (symbols lines).map .symbols
  | .references => (locations lines).map .references
  | .implementation => (locations lines).map .implementation
  | .rename => (rename lines).map .rename

end Payload
end Wire
end LanguageServer
