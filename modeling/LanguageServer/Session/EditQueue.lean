import LanguageServer.Source.Document
import LanguageServer.Table
import LanguageServer.Text.Elapsed

namespace LanguageServer
namespace Session

/-!
The edit queue: gathers bursts of edits into batches.

An edit starts a quiet period, and a further edit starts it again.  When the period is over, all
drafts that are still pending go out as one batch.  The queue runs no timer: it only knows the
deadline.  Drafts stay after they are sent, so that a repeated edit is recognised and the latest
text of every document is at hand when a new compiler has to be filled.
-/

/-- Where the queue stands. -/
inductive QueueState where
  /-- No document has come yet. -/
  | start
  | idle
  /-- The quiet period is running. -/
  | waiting
  /-- A batch is being written. -/
  | sending
deriving DecidableEq, Repr, Inhabited

/-- The latest text of a document. -/
structure Draft where
  document : Document
  version : Int
  pending : Bool
deriving DecidableEq, Repr, Inhabited

structure EditQueue where
  state : QueueState
  drafts : Table Draft
  quietPeriod : Span
  deadline : Option Instant
  /-- The version that the next edit without one will get. -/
  nextVersion : Int
deriving DecidableEq, Inhabited

/-- What became of an edit. -/
inductive Verdict where
  | stored
  /-- The same version with the same text was known. -/
  | repeated
  /-- A batch was being written. -/
  | refused
deriving DecidableEq, Repr, Inhabited

namespace EditQueue

/-- Versions for edits that bring none count down from minus one, so they meet no version of an
editor. -/
def new (quietPeriod : Span) : EditQueue :=
  { state := .start, drafts := Table.empty, quietPeriod := quietPeriod, deadline := none,
    nextVersion := -1 }

/-- The stored draft has this version and this text. -/
def repeats (queue : EditQueue) (document : Document) (version : Int) : Bool :=
  match queue.drafts.find? document.uri with
  | some draft => draft.version == version && draft.document.text == document.text
  | none => false

/-- The first edit of all only leaves the starting state; every other one starts the quiet
period. -/
def noteEdit (queue : EditQueue) (now : Instant) : EditQueue :=
  match queue.state with
  | .start => { queue with state := .idle }
  | _ => { queue with state := .waiting, deadline := some (now + queue.quietPeriod) }

/-- File a pending draft. -/
def file (queue : EditQueue) (document : Document) (version : Int) : EditQueue :=
  { queue with drafts := queue.drafts.insert document.uri ⟨document, version, true⟩ }

/-- File a pending draft under the next version of the queue's own. -/
def fileUnversioned (queue : EditQueue) (document : Document) : EditQueue :=
  { queue.file document queue.nextVersion with nextVersion := queue.nextVersion - 1 }

/-- Take in the latest text of a document. -/
def edit (queue : EditQueue) (document : Document) (version : Option Int) (now : Instant) :
    EditQueue × Verdict :=
  if queue.state = .sending then (queue, .refused)
  else
    match version with
    | some given =>
        if queue.repeats document given then (queue, .repeated)
        else ((queue.noteEdit now).file document given, .stored)
    | none => ((queue.noteEdit now).fileUnversioned document, .stored)

/-- A document that the editor has already supplied keeps the editor's text. -/
def seedOne (queue : EditQueue) (document : Document) : EditQueue :=
  if queue.drafts.contains document.uri then queue else queue.fileUnversioned document

/-- File the documents of a whole project. -/
def seed (queue : EditQueue) (documents : List Document) : EditQueue :=
  let filled := documents.foldl seedOne queue
  if filled.state = .start then { filled with state := .idle } else filled

/-- The documents whose latest text has not gone out. -/
def pendingDocuments (queue : EditQueue) : List Document :=
  (queue.drafts.values.filter Draft.pending).map Draft.document

/-- Take every pending draft into one batch.  Without any, the queue comes to rest. -/
def takeBatch (queue : EditQueue) : Option (List Document) × EditQueue :=
  let batch := queue.pendingDocuments
  let taken := { queue with
    deadline := none, drafts := queue.drafts.map (fun _ draft => { draft with pending := false }) }
  if batch.isEmpty then
    (none, if taken.state = .waiting then { taken with state := .idle } else taken)
  else (some batch, { taken with state := .sending })

/-- The batch is written.  Only a batch that was taken can be. -/
def finishSend? (queue : EditQueue) : Option EditQueue :=
  if queue.state = .sending then some { queue with state := .idle } else none

/-- Stop the quiet period; pending drafts stay pending. -/
def hold (queue : EditQueue) : EditQueue :=
  { queue with
    deadline := none
    state := if queue.state = .waiting then .idle else queue.state }

/-- Forget every draft. -/
def reset (queue : EditQueue) : EditQueue :=
  { queue with drafts := Table.empty, deadline := none, state := .idle }

/-- The latest text of every document, sent or not. -/
def snapshot (queue : EditQueue) : List Document :=
  queue.drafts.values.map Draft.document

/-- Change the length of the quiet periods to come. -/
def setQuietPeriod (queue : EditQueue) (quietPeriod : Span) : EditQueue :=
  { queue with quietPeriod := quietPeriod }

end EditQueue
end Session
end LanguageServer
