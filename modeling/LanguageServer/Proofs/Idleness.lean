import LanguageServer.Proofs.Diagnostics
import LanguageServer.Proofs.Pairing
import LanguageServer.Proofs.Safekeeping
import LanguageServer.Proofs.Watchfulness

namespace LanguageServer
namespace Session

/-!
# Compilers that owe nothing

Take a compiler that answers everything that is written to it.  A batch of edits is answered by one
completed analysis or by one exception, and a question by one response of its kind or by one
exception.  The answers may come in any order, and edits, flushes and questions in between.

When the compiler owes nothing, nobody should watch it.  What is expected of it is counted in two
places.  Every question that waits is among those that the compiler owes an answer, so these are
gone.  But the analyses are counted up with every batch and down with every completed analysis
only.  A batch that is answered by an exception stays in the count for good.  So the balance below
has an entry for such spoilt batches, and the watchdog rests exactly if there are none.
-/

/-- Something that is written to the compiler and has to be answered. -/
inductive Errand where
  | batch (documents : List Document)
  | question (asked : Wire.Query)
deriving DecidableEq, Repr, Inhabited

namespace Errand

def message : Errand -> Wire.Message
  | .batch documents => .edit documents
  | .question asked => .query asked

def isBatch : Errand -> Bool
  | .batch _ => true
  | .question _ => false

/-- The errand is a question of this kind. -/
def asks (kind : RequestKind) : Errand -> Bool
  | .batch _ => false
  | .question asked => asked.kind = kind

/-- The command of the frame that answers the errand. -/
def command : Errand -> Wire.Command
  | .batch _ => .analysed
  | .question asked => responseCommand asked.kind

/-- Without documents there is no batch. -/
def ofBatch (documents : List Document) : List Errand :=
  if documents = [] then [] else [.batch documents]

/-- Take one of some errands out of them. -/
def pick? (errands : List Errand) (index : Nat) : Option (Errand × List Errand) :=
  match errands.drop index with
  | [] => none
  | chosen :: later => some (chosen, errands.take index ++ later)

theorem countP_of_pick? {errands rest : List Errand} {index : Nat} {chosen : Errand}
    (picked : pick? errands index = some (chosen, rest)) (counted : Errand -> Bool) :
    errands.countP counted = rest.countP counted + if counted chosen then 1 else 0 := by
  unfold pick? at picked
  split at picked
  · cases picked
  next later dropped =>
    cases picked
    have whole : errands.take index ++ chosen :: later = errands := by
      rw [← dropped, List.take_append_drop]
    calc errands.countP counted
        = (errands.take index ++ chosen :: later).countP counted := by rw [whole]
      _ = (errands.take index ++ later).countP counted + if counted chosen then 1 else 0 := by
        rw [List.countP_append, List.countP_append, List.countP_cons, Nat.add_assoc]

end Errand

/-- If nobody of any kind waits, nobody waits. -/
theorem Waiting.eq_empty {waiting : Waiting} (nobody : forall kind, waiting.ofKind kind = []) :
    waiting = Waiting.empty := by
  have none_waits : waiting.requests = [] := by
    apply List.eq_nil_iff_forall_not_mem.mpr
    intro request member
    have queued : request.id ∈ waiting.ofKind request.kind := mem_ofKind.mpr member
    rw [nobody] at queued
    cases queued
  rw [Waiting.empty, ← none_waits]

namespace Pipeline

/-! ## Writing errands -/

/-- The errands that flushing writes. -/
def pendingErrands (pipeline : Pipeline) : List Errand :=
  Errand.ofBatch (if pipeline.canSend then pipeline.edits.pendingDocuments else [])

/-- The errands that a request writes.  Without a compiler that answers there are none. -/
def requestErrands (pipeline : Pipeline) (query : Wire.Query) : List Errand :=
  if pipeline.phase = .analysed ∧ pipeline.attached then
    (if needsLatestText query.kind then pipeline.pendingErrands else []) ++ [.question query]
  else []

/-- The errands that are written when the compiler listens. -/
def welcomeErrands (pipeline : Pipeline) : List Errand :=
  Errand.ofBatch (pipeline.edits.seed pipeline.reload).pendingDocuments

/-- A step that writes some errands.  Analyses are expected for the batches among them, and answers
for the questions. -/
structure Entrusts (before : Pipeline) (errands : List Errand) (after : Pipeline) : Prop where
  attached : after.attached = before.attached
  alive : before.phase ≠ .aborted -> after.phase ≠ .aborted
  analyses : after.analysesPending = before.analysesPending + errands.countP Errand.isBatch
  waiting : forall kind, (after.waiting.ofKind kind).length =
    (before.waiting.ofKind kind).length + errands.countP (Errand.asks kind)
  texts : exists texts, Effect.texts after.outbox = Effect.texts before.outbox ++ texts ∧
    errands.map (fun errand => errand.message.encode?) = texts.map some

variable {before after : Pipeline}

theorem Entrusts.trans {first second third : Pipeline} {earlier later : List Errand}
    (one : Entrusts first earlier second) (two : Entrusts second later third) :
    Entrusts first (earlier ++ later) third := by
  refine ⟨two.attached.trans one.attached, fun alive => two.alive (one.alive alive), ?_, ?_, ?_⟩
  · rw [two.analyses, one.analyses, List.countP_append, Nat.add_assoc]
  · intro kind
    rw [two.waiting, one.waiting, List.countP_append, Nat.add_assoc]
  · rcases one.texts with ⟨texts, written, encoded⟩
    rcases two.texts with ⟨more, writtenNext, encodedNext⟩
    refine ⟨texts ++ more, ?_, ?_⟩
    · rw [writtenNext, written, List.append_assoc]
    · rw [List.map_append, encoded, encodedNext, List.map_append]

/-- A step that writes nothing and changes nothing of what is expected. -/
theorem Entrusts.nothing (attached : after.attached = before.attached)
    (alive : before.phase ≠ .aborted -> after.phase ≠ .aborted)
    (analyses : after.analysesPending = before.analysesPending)
    (waiting : after.waiting = before.waiting)
    (texts : Effect.texts after.outbox = Effect.texts before.outbox) :
    Entrusts before [] after :=
  ⟨attached, alive, analyses, fun kind => by rw [waiting]; rfl, [], by simp [texts], rfl⟩

@[simp] theorem progress_analyses (pipeline : Pipeline) (now : Instant) :
    (pipeline.progress now).analysesPending = pipeline.analysesPending := by
  unfold progress
  split <;> rfl

theorem progress_entrusts (pipeline : Pipeline) (now : Instant) :
    Entrusts pipeline [] (pipeline.progress now) :=
  Entrusts.nothing (by simp) (by simp) (by simp) (progress_leavesRequests pipeline now).waiting
    (by simp)

theorem sendBatch_entrusts (attached : before.attached = true) (now : Instant) :
    Entrusts before (Errand.ofBatch before.edits.pendingDocuments) (before.sendBatch now) := by
  by_cases nothing : before.edits.pendingDocuments = []
  · rw [sendBatch_of_nothing nothing, Errand.ofBatch, if_pos nothing]
    exact Entrusts.nothing rfl (fun alive => alive) rfl rfl rfl
  · have sent := sendBatch_sends before attached now
    rw [Errand.ofBatch, if_neg nothing]
    refine ⟨sent.attached, sent.alive, ?_, ?_, ?_⟩
    · rw [sendBatch_of_pending nothing]
      rfl
    · intro kind
      rw [(sendBatch_leavesRequests before now).waiting]
      rfl
    · refine ⟨[Wire.editText before.edits.pendingDocuments], ?_, rfl⟩
      rw [sent.texts, if_neg nothing]

theorem flush_entrusts (attached : before.attached = true) (now : Instant) :
    Entrusts before before.pendingErrands (before.flush now) := by
  unfold flush pendingErrands
  split
  · exact sendBatch_entrusts attached now
  · exact Entrusts.nothing rfl (fun alive => alive) rfl rfl rfl

theorem listen_entrusts (attached : before.attached = true) (now : Instant) :
    Entrusts before before.welcomeErrands (before.listen now) := by
  have announced := (welcome_speaks before).texts
  have welcomed : Entrusts before [] before.welcome :=
    Entrusts.nothing rfl (fun _ => nofun) rfl rfl (by rw [announced, List.append_nil])
  have ready : before.welcome.attached = true := attached
  have sent : Entrusts before.welcome before.welcomeErrands (before.welcome.sendBatch now) :=
    sendBatch_entrusts ready now
  have whole := (welcomed.trans sent).trans (progress_entrusts _ now)
  rw [List.nil_append, List.append_nil] at whole
  rw [listen_eq]
  exact whole

theorem edit_entrusts (pipeline : Pipeline) (document : Document) (version : Option Int)
    (now : Instant) : Entrusts pipeline [] (pipeline.edit document version now).1 := by
  rcases edit_files pipeline document version now with ⟨edits, filed, _⟩
  rw [filed]
  exact Entrusts.nothing rfl (fun alive => alive) rfl rfl rfl

theorem addProblems_entrusts (pipeline : Pipeline) (band : Band) (lines : List String) :
    Entrusts pipeline [] (pipeline.addProblems band lines) :=
  Entrusts.nothing rfl (fun alive => alive) rfl rfl rfl

/-- A question is written, and its answer expected. -/
theorem question_entrusts {query : Wire.Query} {text : String} (attached : before.attached = true)
    (encoded : query.encode? = some text) (id : RequestId) (now : Instant) :
    Entrusts before [.question query] { before.write text with
      waiting := (before.write text).waiting.expect query.kind id
      watchdog := (before.write text).watchdog.armIfIdle now } := by
  rw [write, if_pos attached]
  refine ⟨rfl, fun alive => alive, rfl, ?_, [text], ?_, ?_⟩
  · intro kind
    by_cases same : query.kind = kind <;>
      simp [perform, Waiting.expect, Waiting.ofKind, Errand.asks, same]
  · simp [perform, Effect.texts]
  · simp [Errand.message, Wire.Message.encode?, encoded]

theorem submit_entrusts {id : RequestId} {query : Wire.Query} {now : Instant}
    (submitted : before.submit? id query now = some after) :
    Entrusts before (before.requestErrands query) after := by
  unfold submit? at submitted
  unfold requestErrands
  split at submitted
  next aborted =>
    have silent : ¬(before.phase = .analysed ∧ before.attached = true) := by simp [aborted]
    cases submitted
    rw [if_neg silent]
    exact Entrusts.nothing rfl (fun alive => alive) rfl rfl (by simp [perform, Effect.texts])
  split at submitted
  next ready =>
    rw [if_pos ready]
    have prepared : Entrusts before
        (if needsLatestText query.kind then before.pendingErrands else [])
        (if needsLatestText query.kind then before.flush now else before) := by
      split
      · exact flush_entrusts ready.2 now
      · exact Entrusts.nothing rfl (fun alive => alive) rfl rfl rfl
    cases encoded : query.encode? with
    | none => simp [encoded] at submitted
    | some text =>
        simp only [encoded, Option.some.injEq] at submitted
        subst after
        exact prepared.trans (question_entrusts (prepared.attached.trans ready.2) encoded id now)
  next silent =>
    cases submitted
    rw [if_neg silent]
    exact Entrusts.nothing rfl (fun alive => alive) rfl rfl (by simp [perform, Effect.texts])

/-! ## Answers -/

/-- A frame of the compiler that leads to nothing being written. -/
structure Receives (before after : Pipeline) : Prop where
  attached : after.attached = before.attached
  alive : before.phase ≠ .aborted -> after.phase ≠ .aborted
  texts : Effect.texts after.outbox = Effect.texts before.outbox

theorem LeavesDocuments.receives (left : LeavesDocuments before after) :
    Receives before after := by
  refine ⟨left.attached, ?_, ?_⟩
  · rw [left.phase]
    exact fun alive => alive
  · rw [left.speech.texts, List.append_nil]

theorem analysed_receives (pipeline : Pipeline) (now : Instant) :
    Receives pipeline (pipeline.analysed now) := by
  rcases analysed_fields pipeline now with ⟨phase, _, attached, _⟩
  refine ⟨attached, fun _ => by rw [phase]; simp, ?_⟩
  rw [analysed_eq, progress_outbox, (conclude_speaks pipeline).texts, List.append_nil]

theorem analysed_analyses (pipeline : Pipeline) (now : Instant) :
    (pipeline.analysed now).analysesPending = pipeline.analysesPending - 1 := by
  rw [analysed_eq, progress_analyses]
  rfl

theorem respond_analyses (pipeline : Pipeline) (kind : RequestKind) (lines : List String)
    (now : Instant) :
    (pipeline.respond kind lines now).analysesPending = pipeline.analysesPending := by
  unfold respond
  split
  · rw [progress_analyses]
    rfl
  · rfl

theorem raised_analyses (pipeline : Pipeline) (lines : List String) (now : Instant) :
    (pipeline.raised lines now).analysesPending = pipeline.analysesPending := by
  unfold raised
  rw [progress_analyses]
  rfl

/-- A response takes one question of its kind off the queue, if there is one. -/
theorem respond_ofKind_length (pipeline : Pipeline) (kind : RequestKind) (lines : List String)
    (now : Instant) (other : RequestKind) :
    ((pipeline.respond kind lines now).waiting.ofKind other).length =
      (pipeline.waiting.ofKind other).length - if kind = other then 1 else 0 := by
  cases queue : pipeline.waiting.ofKind kind with
  | nil =>
      rw [respond_of_nobody queue]
      by_cases same : kind = other
      · subst other
        rw [queue]
        simp
      · rw [if_neg same, Nat.sub_zero]
  | cons id rest =>
      have answered := (respond_settlesFirst queue lines now).answered
      by_cases same : kind = other
      · subst other
        rw [answered.ofKind, if_pos rfl, List.length_cons, Nat.add_sub_cancel]
      · rw [answered.others other (Ne.symm same), if_neg same, Nat.sub_zero]

end Pipeline

/-! ## A compiler that answers everything -/

/-- A pipeline and a compiler that answers every errand once. -/
structure Service where
  pipeline : Pipeline
  /-- Everything that was written to the compiler, in order. -/
  errands : List Errand
  /-- The errands that the compiler has not answered. -/
  owed : List Errand
  /-- How many batches it has answered by an exception. -/
  spoilt : Nat

/-- What can happen between the editor and such a compiler. -/
inductive Service.Event where
  | edit (document : Document) (version : Option Int) (now : Instant)
  | flush (now : Instant)
  | ask (id : RequestId) (query : Wire.Query) (now : Instant)
  /-- The compiler listens. -/
  | listen (now : Instant)
  /-- The compiler reports diagnostics. -/
  | diagnose (band : Band) (lines : List String) (now : Instant)
  /-- The compiler answers one of the errands that it owes. -/
  | answer (index : Nat) (lines : List String) (now : Instant)
  /-- The compiler answers one of them by an exception. -/
  | fail (index : Nat) (lines : List String) (now : Instant)

namespace Service

/-- A service in which nothing is written yet. -/
def begin (pipeline : Pipeline) : Service := ⟨pipeline, [], [], 0⟩

/-- The pipeline goes on, after writing some errands. -/
def entrust (service : Service) (errands : List Errand) (next : Pipeline) : Service :=
  { service with
    pipeline := next
    errands := service.errands ++ errands
    owed := service.owed ++ errands }

/-- Let something happen.  The compiler answers only what it owes, and a question that has no place
on the wire cannot be asked. -/
def step? (service : Service) : Event -> Option Service
  | .edit document version now =>
      some (service.entrust [] (service.pipeline.edit document version now).1)
  | .flush now =>
      some (service.entrust service.pipeline.pendingErrands (service.pipeline.flush now))
  | .ask id query now =>
      (service.pipeline.submit? id query now).map
        (service.entrust (service.pipeline.requestErrands query))
  | .listen now =>
      some (service.entrust service.pipeline.welcomeErrands
        (service.pipeline.handleFrame ⟨.listen, []⟩ now))
  | .diagnose band lines now =>
      some (service.entrust []
        (service.pipeline.handleFrame ⟨Pipeline.reportCommand band, lines⟩ now))
  | .answer index lines now =>
      (Errand.pick? service.owed index).map (fun (errand, rest) =>
        { service with
          pipeline := service.pipeline.handleFrame ⟨errand.command, lines⟩ now
          owed := rest })
  | .fail index lines now =>
      (Errand.pick? service.owed index).map (fun (errand, rest) =>
        { service with
          pipeline := service.pipeline.handleFrame ⟨.except, lines⟩ now
          owed := rest
          spoilt := service.spoilt + if errand.isBatch then 1 else 0 })

/-- Let one thing happen after the other. -/
def run? (service : Service) (events : List Event) : Option Service :=
  events.foldlM step? service

/-- The analyses that are expected are those of the batches that the compiler owes and of those that
it spoilt.  Of the questions that wait, the compiler owes all answers. -/
structure Balanced (first : Pipeline) (service : Service) : Prop where
  attached : service.pipeline.attached = true
  alive : service.pipeline.phase ≠ .aborted
  watched : service.pipeline.Watched
  analyses : service.pipeline.analysesPending =
    service.owed.countP Errand.isBatch + service.spoilt
  waiting : forall kind, (service.pipeline.waiting.ofKind kind).length ≤
    service.owed.countP (Errand.asks kind)
  texts : exists texts,
    Effect.texts service.pipeline.outbox = Effect.texts first.outbox ++ texts ∧
      service.errands.map (fun errand => errand.message.encode?) = texts.map some

variable {first : Pipeline} {service next : Service}

theorem Balanced.begin (attached : first.attached = true) (starting : first.phase = .starting)
    (nobody : first.waiting = Waiting.empty) (unsent : first.analysesPending = 0) :
    Balanced first (begin first) := by
  refine ⟨attached, ?_, ⟨?_, fun _ => Or.inr starting⟩, unsent, ?_, [],
    by simp [Service.begin], rfl⟩
  · rw [Service.begin, starting]
    simp
  · rintro (waits | analyses)
    · rw [Service.begin, nobody] at waits
      cases waits
    · rw [Service.begin, unsent] at analyses
      cases analyses
  · intro kind
    rw [Service.begin, nobody]
    exact Nat.le_refl 0

theorem Balanced.entrust (balanced : Balanced first service) {errands : List Errand}
    {after : Pipeline} (entrusted : Pipeline.Entrusts service.pipeline errands after)
    (watched : after.Watched) : Balanced first (service.entrust errands after) := by
  refine ⟨entrusted.attached.trans balanced.attached, entrusted.alive balanced.alive, watched, ?_,
    ?_, ?_⟩
  · change after.analysesPending =
      (service.owed ++ errands).countP Errand.isBatch + service.spoilt
    rw [entrusted.analyses, balanced.analyses, List.countP_append]
    omega
  · intro kind
    have before := balanced.waiting kind
    rw [Service.entrust, entrusted.waiting, List.countP_append]
    omega
  · rcases balanced.texts with ⟨texts, written, encoded⟩
    rcases entrusted.texts with ⟨more, writtenNext, encodedNext⟩
    refine ⟨texts ++ more, ?_, ?_⟩
    · rw [Service.entrust, writtenNext, written, List.append_assoc]
    · rw [Service.entrust, List.map_append, encoded, encodedNext, List.map_append]

/-- An answer comes, and with it the books change on both sides. -/
theorem Balanced.receive (balanced : Balanced first service) {after : Pipeline}
    {rest : List Errand} {spoilt : Nat} (received : Pipeline.Receives service.pipeline after)
    (watched : after.Watched)
    (analyses : after.analysesPending = rest.countP Errand.isBatch + spoilt)
    (waiting : forall kind, (after.waiting.ofKind kind).length ≤ rest.countP (Errand.asks kind)) :
    Balanced first { service with pipeline := after, owed := rest, spoilt := spoilt } := by
  refine ⟨received.attached.trans balanced.attached, received.alive balanced.alive, watched,
    analyses, waiting, ?_⟩
  rcases balanced.texts with ⟨texts, written, encoded⟩
  exact ⟨texts, received.texts.trans written, encoded⟩

theorem Balanced.answer (balanced : Balanced first service) {errand : Errand}
    {rest : List Errand} {index : Nat}
    (picked : Errand.pick? service.owed index = some (errand, rest)) (lines : List String)
    (now : Instant) :
    Balanced first { service with
      pipeline := service.pipeline.handleFrame ⟨errand.command, lines⟩ now
      owed := rest } := by
  have watched := balanced.watched.handleFrame ⟨errand.command, lines⟩ now
  have batches := Errand.countP_of_pick? picked Errand.isBatch
  have questions := fun kind => Errand.countP_of_pick? picked (Errand.asks kind)
  cases errand with
  | batch documents =>
      have handled : service.pipeline.handleFrame ⟨.analysed, lines⟩ now =
          service.pipeline.analysed now := by
        rw [Pipeline.handleFrame, if_neg balanced.alive]
      change Pipeline.Watched (service.pipeline.handleFrame ⟨.analysed, lines⟩ now) at watched
      change Balanced first { service with
        pipeline := service.pipeline.handleFrame ⟨.analysed, lines⟩ now, owed := rest }
      rw [handled] at watched ⊢
      refine balanced.receive (Pipeline.analysed_receives _ now) watched ?_ ?_
      · have expected := balanced.analyses
        rw [batches, Errand.isBatch, if_pos rfl] at expected
        rw [Pipeline.analysed_analyses, expected]
        omega
      · intro kind
        have before := balanced.waiting kind
        rw [questions kind] at before
        rw [(Pipeline.analysed_leavesRequests _ now).waiting]
        exact before
  | question asked =>
      have handled : service.pipeline.handleFrame ⟨responseCommand asked.kind, lines⟩ now =
          service.pipeline.respond asked.kind lines now :=
        Pipeline.handleFrame_response (responseKind?_responseCommand asked.kind) balanced.alive now
      change Pipeline.Watched
        (service.pipeline.handleFrame ⟨responseCommand asked.kind, lines⟩ now) at watched
      change Balanced first { service with
        pipeline := service.pipeline.handleFrame ⟨responseCommand asked.kind, lines⟩ now
        owed := rest }
      rw [handled] at watched ⊢
      refine balanced.receive (Pipeline.respond_leavesDocuments _ _ _ now).receives watched ?_ ?_
      · have expected := balanced.analyses
        rw [batches, Errand.isBatch] at expected
        rw [Pipeline.respond_analyses, expected]
        rfl
      · intro kind
        have before := balanced.waiting kind
        rw [questions kind, Errand.asks] at before
        rw [Pipeline.respond_ofKind_length]
        by_cases same : asked.kind = kind
        · rw [if_pos (decide_eq_true same)] at before
          rw [if_pos same]
          omega
        · rw [if_neg (by simpa using same)] at before
          rw [if_neg same]
          omega

/-- An exception settles all questions that wait, and leaves the batches as they are. -/
theorem Balanced.fail (balanced : Balanced first service) {errand : Errand}
    {rest : List Errand} {index : Nat}
    (picked : Errand.pick? service.owed index = some (errand, rest)) (lines : List String)
    (now : Instant) :
    Balanced first { service with
      pipeline := service.pipeline.handleFrame ⟨.except, lines⟩ now
      owed := rest
      spoilt := service.spoilt + if errand.isBatch then 1 else 0 } := by
  have watched := balanced.watched.handleFrame ⟨.except, lines⟩ now
  have handled : service.pipeline.handleFrame ⟨.except, lines⟩ now =
      service.pipeline.raised lines now := by
    rw [Pipeline.handleFrame, if_neg balanced.alive]
  rw [handled] at watched ⊢
  refine balanced.receive (Pipeline.raised_leavesDocuments _ _ now).receives watched ?_ ?_
  · rw [Pipeline.raised_analyses, balanced.analyses, Errand.countP_of_pick? picked Errand.isBatch]
    omega
  · intro kind
    rw [(Pipeline.raised_settlesAll service.pipeline lines now).waiting]
    exact Nat.zero_le _

theorem Balanced.step (balanced : Balanced first service) {event : Event}
    (stepped : service.step? event = some next) : Balanced first next := by
  cases event with
  | edit document version now =>
      cases stepped
      exact balanced.entrust (Pipeline.edit_entrusts _ document version now)
        (balanced.watched.edit document version now)
  | flush now =>
      cases stepped
      exact balanced.entrust (Pipeline.flush_entrusts balanced.attached now)
        (balanced.watched.flush now)
  | ask id query now =>
      rw [step?, Option.map_eq_some_iff] at stepped
      rcases stepped with ⟨after, submitted, same⟩
      subst next
      exact balanced.entrust (Pipeline.submit_entrusts submitted)
        (balanced.watched.submit submitted)
  | listen now =>
      cases stepped
      have handled : service.pipeline.handleFrame ⟨.listen, []⟩ now =
          service.pipeline.listen now := by
        rw [Pipeline.handleFrame, if_neg balanced.alive]
      rw [handled]
      exact balanced.entrust (Pipeline.listen_entrusts balanced.attached now)
        (Pipeline.progress_watched _ now)
  | diagnose band lines now =>
      cases stepped
      have watched := balanced.watched.handleFrame ⟨Pipeline.reportCommand band, lines⟩ now
      rw [Pipeline.handleFrame_report balanced.alive] at watched ⊢
      exact balanced.entrust (Pipeline.addProblems_entrusts _ band lines) watched
  | answer index lines now =>
      rw [step?, Option.map_eq_some_iff] at stepped
      rcases stepped with ⟨⟨errand, rest⟩, picked, same⟩
      subst next
      exact balanced.answer picked lines now
  | fail index lines now =>
      rw [step?, Option.map_eq_some_iff] at stepped
      rcases stepped with ⟨⟨errand, rest⟩, picked, same⟩
      subst next
      exact balanced.fail picked lines now

theorem Balanced.run {last : Service} {events : List Event} (balanced : Balanced first service)
    (ran : service.run? events = some last) : Balanced first last :=
  foldlM_induction (motive := fun _ service => Balanced first service) balanced
    (fun _ _ _ _ balanced stepped => balanced.step stepped) ran

/-- Once everything that was written to a compiler is answered, nobody waits, and the analyses that
are still expected are those of the batches that were answered by an exception.  So the watchdog
rests exactly if there was no such batch.  The errands of the service are what was written. -/
theorem watchdog_rests_iff_no_batch_spoilt {pipeline : Pipeline} {events : List Event}
    {last : Service} (attached : pipeline.attached = true)
    (starting : pipeline.phase = .starting) (nobody : pipeline.waiting = Waiting.empty)
    (unsent : pipeline.analysesPending = 0)
    (ran : (begin pipeline).run? events = some last) (greeted : last.pipeline.phase ≠ .starting)
    (answered : last.owed = []) :
    last.pipeline.waiting = Waiting.empty ∧ last.pipeline.analysesPending = last.spoilt ∧
    (last.pipeline.watchdogDeadline = none ↔ last.spoilt = 0) ∧
    (last.pipeline.analysesPending = 0 ∧ last.pipeline.watchdogDeadline = none ↔
      last.spoilt = 0) ∧
    exists texts, Effect.texts last.pipeline.outbox = Effect.texts pipeline.outbox ++ texts ∧
      last.errands.map (fun errand => errand.message.encode?) = texts.map some := by
  have balanced := (Balanced.begin attached starting nobody unsent).run ran
  have analyses : last.pipeline.analysesPending = last.spoilt := by
    rw [balanced.analyses, answered, List.countP_nil, Nat.zero_add]
  have silent : last.pipeline.waiting = Waiting.empty := by
    apply Waiting.eq_empty
    intro kind
    have bound := balanced.waiting kind
    rw [answered, List.countP_nil] at bound
    exact List.length_eq_zero_iff.mp (Nat.le_zero.mp bound)
  have rests : last.pipeline.watchdogDeadline = none ↔ last.spoilt = 0 := by
    constructor
    · intro unarmed
      apply Nat.eq_zero_of_not_pos
      intro some_spoilt
      have armed := balanced.watched.covered (Or.inr (by rw [analyses]; exact some_spoilt))
      rw [unarmed] at armed
      cases armed
    · intro none_spoilt
      apply Option.not_isSome_iff_eq_none.mp
      intro armed
      rcases (balanced.watched.needed armed).resolve_right greeted with waits | analysing
      · rw [silent] at waits
        cases waits
      · rw [analyses, none_spoilt] at analysing
        cases analysing
  refine ⟨silent, analyses, rests, ?_, balanced.texts⟩
  rw [rests, analyses]
  exact ⟨fun both => both.2, fun none_spoilt => ⟨none_spoilt, none_spoilt⟩⟩

/-- A compiler that has just been launched, with a document of the project to be sent to it. -/
def launched : Pipeline :=
  ((Pipeline.new Timing.default).starting.attach 0).load [⟨"file:///a", "x"⟩] 0

/-- A second batch is sent before the first is analysed, and a question fails in between. -/
def failedQuestion : List Event :=
  [.listen 1, .edit ⟨"file:///a", "y"⟩ (some 1) 2, .flush 3, .answer 0 [] 4,
    .ask 0 (.hover ⟨"file:///a", ⟨0, 0⟩⟩) 5, .fail 1 ["boom"] 6, .answer 0 [] 7]

theorem failedQuestion_unwatched : exists last, (begin launched).run? failedQuestion = some last ∧
    last.owed = [] ∧ last.errands.length = 3 ∧ last.pipeline.waiting = Waiting.empty ∧
    last.pipeline.analysesPending = 0 ∧ last.pipeline.watchdogDeadline = none := by
  have ran : ((begin launched).run? failedQuestion).any (fun last =>
      last.pipeline.phase = .analysed ∧ last.owed = [] ∧ last.errands.length = 3 ∧
        last.spoilt = 0) = true := by
    decide +kernel
  rcases (Option.any_eq_true _ _).mp ran with ⟨last, reached, facts⟩
  rcases of_decide_eq_true facts with ⟨phase, answered, three, unspoilt⟩
  have greeted : last.pipeline.phase ≠ .starting := by
    rw [phase]
    decide
  rcases watchdog_rests_iff_no_batch_spoilt (by decide +kernel) (by decide +kernel)
    (by decide +kernel) (by decide +kernel) reached greeted answered with ⟨nobody, _, _, rests, _⟩
  rcases rests.mpr unspoilt with ⟨analysed, unarmed⟩
  exact ⟨last, reached, answered, three, nobody, analysed, unarmed⟩

/-- The first batch is answered by an exception. -/
def failedBatch : List Event := [.listen 1, .fail 0 ["boom"] 2]

/-- A compiler can have answered everything and still be watched. -/
theorem idle_compiler_can_be_watched :
    ¬forall (pipeline : Pipeline) (events : List Event) (last : Service),
      pipeline.attached = true -> pipeline.phase = .starting ->
      pipeline.waiting = Waiting.empty -> pipeline.analysesPending = 0 ->
      (begin pipeline).run? events = some last -> last.pipeline.phase ≠ .starting ->
      last.owed = [] ->
      last.pipeline.analysesPending = 0 ∧ last.pipeline.watchdogDeadline = none := by
  intro always
  have ran : ((begin launched).run? failedBatch).any (fun last =>
      last.pipeline.phase = .listening ∧ last.owed = [] ∧
        last.pipeline.analysesPending = 1) = true := by
    decide +kernel
  rcases (Option.any_eq_true _ _).mp ran with ⟨last, reached, facts⟩
  rcases of_decide_eq_true facts with ⟨phase, answered, expected⟩
  have greeted : last.pipeline.phase ≠ .starting := by
    rw [phase]
    decide
  have rests := always launched failedBatch last (by decide +kernel) (by decide +kernel)
    (by decide +kernel) (by decide +kernel) reached greeted answered
  cases expected.symm.trans rests.1

end Service
end Session
end LanguageServer
