import LanguageServer.Session.EditQueue
import LanguageServer.Session.Event
import LanguageServer.Session.Plan
import LanguageServer.Session.Problems
import LanguageServer.Session.Waiting
import LanguageServer.Session.Watchdog
import LanguageServer.Wire.Request

namespace LanguageServer
namespace Session

/-!
The pipeline between the editor and one compiler after another.

Edits and requests come in on one side, chunks of compiler output on the other, and every
operation is told the time.  What an operation does to the outside is appended to the outbox:
texts for the compiler, events for the editor, and settlements of requests.
-/

/-- What is known of the compiler. -/
inductive Phase where
  /-- There is none. -/
  | stopped
  /-- There is none, and the settings forbid one. -/
  | blocked
  /-- It does not listen yet. -/
  | starting
  /-- It takes edits; no analysis is complete. -/
  | listening
  /-- It answers requests. -/
  | analysed
  /-- It hung or could not be launched; requests fail until the next restart. -/
  | aborted
deriving DecidableEq, Repr, Inhabited

/-- An action on the outside. -/
inductive Effect where
  /-- A text for the compiler. -/
  | write (text : String)
  /-- An event for the editor. -/
  | emit (event : Event)
  /-- The end of a request. -/
  | settle (settlement : Settlement)
  /-- A compiler was launched. -/
  | launch (generation : Nat) (plan : Plan)
  /-- A compiler was killed. -/
  | kill (generation : Nat)

structure Pipeline where
  phase : Phase
  edits : EditQueue
  waiting : Waiting
  problems : ProblemStore
  watchdog : Watchdog
  frames : Wire.FrameBuffer
  /-- There is a compiler to write to. -/
  attached : Bool
  /-- Documents for the next compiler that listens. -/
  reload : List Document
  /-- Batches that were sent and not analysed yet. -/
  analysesPending : Nat
  outbox : List Effect

namespace Pipeline

def new (timing : Timing) : Pipeline :=
  { phase := .stopped
    edits := EditQueue.new timing.quietPeriod
    waiting := Waiting.empty
    problems := ProblemStore.empty
    watchdog := Watchdog.new timing.patience
    frames := Wire.FrameBuffer.empty
    attached := false
    reload := []
    analysesPending := 0
    outbox := [] }

/-- When pending edits are due. -/
def editDeadline (pipeline : Pipeline) : Option Instant := pipeline.edits.deadline

/-- When the compiler is given up. -/
def watchdogDeadline (pipeline : Pipeline) : Option Instant := pipeline.watchdog.deadline

/-- Change the spans to wait. -/
def applyTiming (pipeline : Pipeline) (timing : Timing) : Pipeline :=
  { pipeline with
    edits := pipeline.edits.setQuietPeriod timing.quietPeriod
    watchdog := pipeline.watchdog.setTimeout timing.patience }

/-! ### Effects -/

def perform (pipeline : Pipeline) (effects : List Effect) : Pipeline :=
  { pipeline with outbox := pipeline.outbox ++ effects }

/-- Empty the outbox. -/
def drained (pipeline : Pipeline) : Pipeline :=
  { pipeline with outbox := [] }

def emit (pipeline : Pipeline) (stage : Lifecycle) : Pipeline :=
  pipeline.perform [.emit (.lifecycle stage)]

/-- Publish the diagnostics of some documents. -/
def publish (pipeline : Pipeline) (listing : List (String × List Diagnostic)) : Pipeline :=
  pipeline.perform (listing.map (fun entry => .emit (.diagnostics entry.1 entry.2)))

/-- Write to the compiler, if there is one. -/
def write (pipeline : Pipeline) (text : String) : Pipeline :=
  if pipeline.attached then pipeline.perform [.write text] else pipeline

/-- Give every waiting request the empty answer. -/
def resolveAll (pipeline : Pipeline) : Pipeline :=
  { pipeline.perform (pipeline.waiting.emptied.map .settle) with waiting := Waiting.empty }

/-- Fail every waiting request. -/
def rejectAll (pipeline : Pipeline) (failure : Failure) : Pipeline :=
  { pipeline.perform ((pipeline.waiting.rejected failure).map .settle) with
    waiting := Waiting.empty }

/-- The compiler takes edits. -/
def canSend (pipeline : Pipeline) : Bool :=
  pipeline.attached && (pipeline.phase = .listening || pipeline.phase = .analysed)

/-! ### The life of a compiler -/

/-- A compiler is about to be launched. -/
def starting (pipeline : Pipeline) : Pipeline :=
  { pipeline with phase := .starting }.emit .starting

/-- A fresh compiler is running. -/
def attach (pipeline : Pipeline) (now : Instant) : Pipeline :=
  { pipeline with
    frames := Wire.FrameBuffer.empty
    attached := true
    phase := .starting
    analysesPending := 0
    watchdog := pipeline.watchdog.arm now }.emit .running

/-- The compiler is gone. -/
def detach (pipeline : Pipeline) : Pipeline :=
  { pipeline with
    attached := false
    frames := Wire.FrameBuffer.empty
    watchdog := pipeline.watchdog.disarm
    analysesPending := 0 }

def holdEdits (pipeline : Pipeline) : Pipeline :=
  { pipeline with edits := pipeline.edits.hold }

/-- The settings forbid a compiler. -/
def block (pipeline : Pipeline) : Pipeline :=
  { pipeline.resolveAll.detach.holdEdits with phase := .blocked }.emit .blocked

/-- The compiler could not be launched. -/
def spawnFailed (pipeline : Pipeline) (reason : String) : Pipeline :=
  { (pipeline.rejectAll .aborted).detach.holdEdits with phase := .aborted }.emit (.aborted reason)

/-- Add documents behind those that are known; a text that is known wins. -/
def mergeDocuments (known : List Document) (documents : List Document) : List Document :=
  documents.foldl (fun merged document =>
    if merged.any (fun earlier => earlier.uri == document.uri) then merged
    else merged ++ [document]) known

/-- Keep documents for the next compiler; a text that is kept already wins. -/
def mergeReload (pipeline : Pipeline) (documents : List Document) : Pipeline :=
  { pipeline with reload := mergeDocuments pipeline.reload documents }

/-- Keep the latest text of every document for the next compiler, and empty the edit queue. -/
def keepForReload (pipeline : Pipeline) : Pipeline :=
  { pipeline with
    reload := mergeDocuments pipeline.edits.snapshot pipeline.reload
    edits := pipeline.edits.reset }

/-- Keep the documents, forget the problems, and tell the editor that they are gone. -/
def resetForReload (pipeline : Pipeline) : Pipeline :=
  { pipeline.keepForReload with problems := pipeline.problems.clear.2 }.publish
    (pipeline.problems.clear.1.map (fun uri => (uri, [])))

/-- The compiler was stopped on purpose. -/
def stopped (pipeline : Pipeline) : Pipeline :=
  { pipeline.resolveAll.resetForReload.detach with phase := .stopped }.emit .killed

/-- The compiler ended by itself. -/
def recover (pipeline : Pipeline) (status : String) : Pipeline :=
  { pipeline.resolveAll.resetForReload.detach with phase := .stopped }.emit (.crashed status)

/-! ### Edits -/

/-- The problems that are out of date once the batch is sent. -/
def clearProblems (problems : ProblemStore) (batch : List Document) : ProblemStore :=
  (batch.foldl (fun store document => store.clearParse document.uri) problems).clearAllAnalysis

/-- Send the pending edits, if there are any, as one batch. -/
def sendBatch (pipeline : Pipeline) (now : Instant) : Pipeline :=
  match pipeline.edits.takeBatch with
  | (none, rested) => { pipeline with edits := rested }
  | (some batch, taken) =>
      let written := { pipeline with
        problems := clearProblems pipeline.problems batch }.write (Wire.editText batch)
      { written with
        edits := (taken.finishSend?).getD taken
        analysesPending := written.analysesPending + 1
        watchdog := written.watchdog.armIfIdle now }

/-- Load the documents of a whole project, now or once a compiler listens. -/
def load (pipeline : Pipeline) (documents : List Document) (now : Instant) : Pipeline :=
  if pipeline.canSend then
    { pipeline with edits := pipeline.edits.seed documents }.sendBatch now
  else pipeline.mergeReload documents

/-- Why an edit that comes while a batch is being written is refused. -/
def misplaced (document : Document) : Failure :=
  .misplacedEdit ("edit for " ++ document.uri ++ " arrived while a batch was being sent")

/-- Take in an edit.  While the compiler takes none, the quiet period does not run. -/
def edit (pipeline : Pipeline) (document : Document) (version : Option Int) (now : Instant) :
    Pipeline × Option Failure :=
  match pipeline.edits.edit document version now with
  | (edits, .stored) =>
      let stored := { pipeline with edits := edits }
      (if stored.canSend then stored else stored.holdEdits, none)
  | (edits, .repeated) => ({ pipeline with edits := edits }, none)
  | (edits, .refused) => ({ pipeline with edits := edits }, some (misplaced document))

/-- Send pending edits at once, if the compiler takes them. -/
def flush (pipeline : Pipeline) (now : Instant) : Pipeline :=
  if pipeline.canSend then pipeline.sendBatch now else pipeline.holdEdits

/-! ### Requests -/

/-- The cursor's surroundings matter for these kinds, so the compiler gets the latest text
first. -/
def needsLatestText (kind : RequestKind) : Bool :=
  kind = .completion || kind = .signatureHelp

/-- Make a request.  Without a compiler that answers, it is settled at once.  There is no result
when the place of the request has no number on the wire. -/
def submit? (pipeline : Pipeline) (id : RequestId) (query : Wire.Query) (now : Instant) :
    Option Pipeline :=
  if pipeline.phase = .aborted then
    some (pipeline.perform [.settle ⟨id, .error .aborted⟩])
  else if pipeline.phase = .analysed ∧ pipeline.attached then
    let ready := if needsLatestText query.kind then pipeline.flush now else pipeline
    match query.encode? with
    | some text =>
        let written := ready.write text
        some { written with
          waiting := written.waiting.expect query.kind id
          watchdog := written.watchdog.armIfIdle now }
    | none => none
  else some (pipeline.perform [.settle ⟨id, .ok (Answer.empty query.kind)⟩])

/-- Ask the compiler to start its analysis afresh. -/
def requestRestart (pipeline : Pipeline) : Pipeline :=
  if pipeline.canSend then pipeline.write Wire.restartText else pipeline

/-! ### Output of the compiler -/

/-- Give the compiler its time again while something is expected of it. -/
def progress (pipeline : Pipeline) (now : Instant) : Pipeline :=
  if pipeline.analysesPending > 0 || pipeline.waiting.count > 0 then
    { pipeline with watchdog := pipeline.watchdog.arm now }
  else { pipeline with watchdog := pipeline.watchdog.disarm }

/-- The compiler listens: send it every document that was kept for it. -/
def listen (pipeline : Pipeline) (now : Instant) : Pipeline :=
  let listening := { pipeline with phase := .listening }.emit .listening
  ({ listening with
    edits := listening.edits.seed listening.reload, reload := [] }.sendBatch now).progress now

/-- An analysis is complete: publish its diagnostics. -/
def analysed (pipeline : Pipeline) (now : Instant) : Pipeline :=
  let counted := { pipeline with
    phase := .analysed, analysesPending := pipeline.analysesPending - 1 }
  ((counted.publish counted.problems.listing).emit .analysed).progress now

/-- File the diagnostic on a line; a line that has none, or a malformed one, is passed over. -/
def addProblem (band : Band) (problems : ProblemStore) (line : String) : ProblemStore :=
  match Wire.Payload.diagnostic? line with
  | .ok (some (uri, diagnostic)) => problems.add band uri diagnostic
  | _ => problems

/-- File the diagnostics of a pass. -/
def addProblems (pipeline : Pipeline) (band : Band) (lines : List String) : Pipeline :=
  { pipeline with problems := lines.foldl (addProblem band) pipeline.problems }

/-- A response came. -/
def respond (pipeline : Pipeline) (kind : RequestKind) (lines : List String) (now : Instant) :
    Pipeline :=
  match pipeline.waiting.handle kind lines with
  | (some settlement, rest) =>
      ({ pipeline with waiting := rest }.perform [.settle settlement]).progress now
  | (none, _) => pipeline

/-- The compiler raised an exception: no waiting request can count on its response. -/
def raised (pipeline : Pipeline) (lines : List String) (now : Instant) : Pipeline :=
  let message := Text.join "\n" lines
  ((pipeline.emit (.exception message)).rejectAll (.exception message)).progress now

/-- The compiler started its analysis afresh and knows no document. -/
def restarted (pipeline : Pipeline) (now : Instant) : Pipeline :=
  { pipeline.resetForReload with analysesPending := 0 }.listen now

/-- The output could not be understood. -/
def protocolError (pipeline : Pipeline) (fault : Wire.FrameFault) (now : Instant) : Pipeline :=
  ((pipeline.rejectAll (.protocol fault)).emit (.protocolError fault.message)).progress now

/-- The kind of request that a command answers. -/
def responseKind? : Wire.Command -> Option RequestKind
  | .hover => some .hover
  | .definition => some .definition
  | .declaration => some .declaration
  | .completion => some .completion
  | .signature => some .signatureHelp
  | .symbols => some .symbols
  | .references => some .references
  | .implementation => some .implementation
  | .rename => some .rename
  | .listen | .diagParse | .diagAnalysis | .analysed | .except | .restart => none

/-- Act on a frame.  After an abort frames are ignored. -/
def handleFrame (pipeline : Pipeline) (frame : Wire.Frame) (now : Instant) : Pipeline :=
  if pipeline.phase = .aborted then pipeline
  else
    match frame.command with
    | .listen => pipeline.listen now
    | .diagParse => pipeline.addProblems .parse frame.lines
    | .diagAnalysis => pipeline.addProblems .analysis frame.lines
    | .analysed => pipeline.analysed now
    | .except => pipeline.raised frame.lines now
    | .restart => pipeline.restarted now
    | command =>
        match responseKind? command with
        | some kind => pipeline.respond kind frame.lines now
        | none => pipeline

/-- Act on a frame, or on the fault that stands in its place. -/
def handleSegment (now : Instant) (pipeline : Pipeline) :
    Except Wire.FrameFault Wire.Frame -> Pipeline
  | .ok frame => pipeline.handleFrame frame now
  | .error fault => pipeline.protocolError fault now

/-- Take in a chunk of output. -/
def handleChunk (pipeline : Pipeline) (chunk : List UInt8) (now : Instant) : Pipeline :=
  let (segments, frames) := pipeline.frames.push chunk
  segments.foldl (handleSegment now) { pipeline with frames := frames }

/-- The compiler made no progress.  Every document is kept for the one that replaces it. -/
def watchdogExpired (pipeline : Pipeline) : Pipeline :=
  let timeout := pipeline.watchdog.timeout
  { (pipeline.rejectAll (.stalled timeout)).keepForReload.detach with phase := .aborted }.emit
    (.aborted ("no response from compiler for " ++ timeout.display))

end Pipeline
end Session
end LanguageServer
