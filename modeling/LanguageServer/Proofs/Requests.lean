import LanguageServer.Proofs.Operations

namespace LanguageServer

namespace RequestKind

theorem mem_all (kind : RequestKind) : kind ∈ all := by
  cases kind <;> decide

theorem nodup_all : all.Nodup := by decide

end RequestKind

namespace Session

/-!
# Every request is settled once, and in order

A request that is made is either settled at once or joins the queue of its kind.  From then on it
stays in that queue until a response, a fault or the end of a compiler settles it.  What keeps the
books is one invariant: the requests that were settled and those that wait are together the
requests that were made, and those that wait still stand in the order in which they were made.

Operations fall into four classes.  Most leave the requests alone.  Some settle every request that
waits.  A response settles the first request of its kind, and making a request adds one.
-/

/-- The settlements among some effects, in order. -/
def settlements (effects : List Effect) : List Settlement :=
  effects.filterMap (fun effect =>
    match effect with
    | .settle settlement => some settlement
    | _ => none)

@[simp] theorem settlements_nil : settlements [] = [] := rfl

@[simp] theorem settlements_append (earlier later : List Effect) :
    settlements (earlier ++ later) = settlements earlier ++ settlements later :=
  List.filterMap_append

@[simp] theorem settlements_settle (settled : List Settlement) :
    settlements (settled.map .settle) = settled := by
  induction settled with
  | nil => rfl
  | cons first rest inductionHypothesis =>
      exact congrArg (List.cons first) inductionHypothesis

namespace Waiting

/-! ## The queue of one kind -/

/-- The requests of a kind without the first of them. -/
private theorem filter_eraseP {requests : List Pending} {chosen : Pending -> Bool}
    {first : Pending} (found : requests.find? chosen = some first) :
    requests.filter chosen = first :: (requests.eraseP chosen).filter chosen := by
  induction requests with
  | nil => simp at found
  | cons head rest inductionHypothesis =>
      cases holds : chosen head with
      | true =>
          have same : head = first := by simpa [List.find?_cons, holds] using found
          subst head
          simp [holds]
      | false =>
          have later : rest.find? chosen = some first := by
            simpa [List.find?_cons, holds] using found
          simp [holds, inductionHypothesis later]

/-- Requests of another kind are not touched. -/
private theorem filter_eraseP_other {requests : List Pending} {chosen others : Pending -> Bool}
    (apart : forall request, others request = true -> chosen request = false) :
    (requests.eraseP chosen).filter others = requests.filter others := by
  induction requests with
  | nil => rfl
  | cons head rest inductionHypothesis =>
      cases holds : chosen head with
      | true =>
          have outside : others head = false := by
            apply Bool.eq_false_iff.mpr
            intro inside
            rw [apart head inside] at holds
            exact Bool.noConfusion holds
          simp [holds, outside]
      | false => simp [holds, List.filter_cons, inductionHypothesis]

/-- The requests are the first of those that were chosen and the rest, in some order. -/
private theorem perm_eraseP {requests : List Pending} {chosen : Pending -> Bool}
    {first : Pending} (found : requests.find? chosen = some first) :
    requests.Perm (first :: requests.eraseP chosen) := by
  induction requests with
  | nil => simp at found
  | cons head rest inductionHypothesis =>
      cases holds : chosen head with
      | true =>
          have same : head = first := by simpa [List.find?_cons, holds] using found
          subst head
          simp [holds]
      | false =>
          have later : rest.find? chosen = some first := by
            simpa [List.find?_cons, holds] using found
          have swapped := ((inductionHypothesis later).cons head).trans (.swap first head _)
          simpa [holds] using swapped

theorem mem_ofKind {waiting : Waiting} {kind : RequestKind} {id : RequestId} :
    id ∈ waiting.ofKind kind ↔ ⟨kind, id⟩ ∈ waiting.requests := by
  constructor
  · intro member
    rcases List.mem_map.mp member with ⟨request, chosen, same⟩
    rcases List.mem_filter.mp chosen with ⟨inside, ofKind⟩
    have kindEq : request.kind = kind := of_decide_eq_true ofKind
    rw [← kindEq, ← same]
    exact inside
  · intro inside
    exact List.mem_map.mpr ⟨⟨kind, id⟩, List.mem_filter.mpr ⟨inside, by simp⟩, rfl⟩

/-- No request of a kind waits exactly when a response of that kind is discarded. -/
theorem handle_of_ofKind_nil {waiting : Waiting} {kind : RequestKind}
    (none_waits : waiting.ofKind kind = []) (lines : List String) :
    waiting.handle kind lines = (none, waiting) := by
  have nobody : waiting.requests.find? (fun request => request.kind = kind) = none := by
    rw [← List.head?_filter, List.map_eq_nil_iff.mp none_waits]
    rfl
  rw [handle, nobody]

/-- What a response leaves when a request of its kind waits. -/
structure Answered (kind : RequestKind) (id : RequestId) (before after : Waiting) : Prop where
  /-- The queue of the kind loses its head. -/
  ofKind : before.ofKind kind = id :: after.ofKind kind
  /-- Every other queue stays as it is. -/
  others : forall other, other ≠ kind -> after.ofKind other = before.ofKind other
  perm : before.requests.Perm (⟨kind, id⟩ :: after.requests)
  sublist : after.requests.Sublist before.requests

/-- A response settles the head of the queue of its kind. -/
theorem handle_of_ofKind_cons {waiting : Waiting} {kind : RequestKind} {id : RequestId}
    {rest : List RequestId} (queue : waiting.ofKind kind = id :: rest) (lines : List String) :
    ∃ after, waiting.handle kind lines = (some ⟨id, outcomeOf kind lines⟩, after) ∧
      Answered kind id waiting after := by
  rcases List.map_eq_cons_iff.mp queue with ⟨first, others, filtered, same, _⟩
  have found : waiting.requests.find? (fun request => request.kind = kind) = some first := by
    rw [← List.head?_filter, filtered]
    rfl
  have firstKind : first.kind = kind := by simpa using List.find?_some found
  have firstEq : first = ⟨kind, id⟩ := by rw [← firstKind, ← same]
  refine ⟨⟨waiting.requests.eraseP (fun request => request.kind = kind)⟩, ?_, ?_, ?_, ?_, ?_⟩
  · rw [handle, found, ← same]
  · have split := filter_eraseP found
    simp only [Waiting.ofKind, split, List.map_cons, same]
  · intro other different
    simp only [Waiting.ofKind]
    rw [filter_eraseP_other]
    intro request isOther
    have otherKind : request.kind = other := of_decide_eq_true isOther
    exact decide_eq_false (fun isKind => different (otherKind.symm.trans isKind))
  · rw [← firstEq]
    exact perm_eraseP found
  · exact List.eraseP_sublist

/-! ## The queues of all kinds -/

/-- Requests that are put together kind by kind are the requests, in some order.  By induction over
the requests: each of them joins those of its kind, and no others. -/
theorem regroup_perm {kinds : List RequestKind} (once : kinds.Nodup)
    (complete : forall kind, kind ∈ kinds) (requests : List Pending) :
    (kinds.flatMap (fun kind => requests.filter (fun request => request.kind = kind))).Perm
      requests := by
  induction requests with
  | nil => simp
  | cons request rest inductionHypothesis =>
      have others : forall kinds : List RequestKind, request.kind ∉ kinds ->
          kinds.flatMap (fun kind => (request :: rest).filter (fun other => other.kind = kind)) =
            kinds.flatMap (fun kind => rest.filter (fun other => other.kind = kind)) := by
        intro kinds absent
        rw [List.flatMap_def, List.flatMap_def]
        apply congrArg List.flatten
        apply List.map_congr_left
        intro kind member
        apply List.filter_cons_of_neg
        intro same
        exact absent (of_decide_eq_true same ▸ member)
      have own : (request :: rest).filter (fun other => other.kind = request.kind) =
          request :: rest.filter (fun other => other.kind = request.kind) :=
        List.filter_cons_of_pos (decide_eq_true rfl)
      rcases List.append_of_mem (complete request.kind) with ⟨before, after, rfl⟩
      have fresh := (List.nodup_cons.mp (List.perm_middle.nodup_iff.mp once)).1
      rw [List.mem_append, not_or] at fresh
      rw [List.flatMap_append, List.flatMap_cons] at inductionHypothesis ⊢
      rw [others before fresh.1, others after fresh.2, own, List.cons_append]
      exact List.perm_middle.trans (inductionHypothesis.cons request)

/-- The settlements of the requests that wait, for kinds in the given order. -/
theorem drained_perm {kinds : List RequestKind} (once : kinds.Nodup)
    (complete : forall kind, kind ∈ kinds) (waiting : Waiting) (outcome : RequestKind -> Outcome) :
    (kinds.flatMap (fun kind =>
      (waiting.ofKind kind).map (fun id => Settlement.mk id (outcome kind)))).Perm
        (waiting.requests.map (fun request => ⟨request.id, outcome request.kind⟩)) := by
  have grouped : kinds.flatMap (fun kind =>
      (waiting.ofKind kind).map (fun id => Settlement.mk id (outcome kind))) =
        (kinds.flatMap (fun kind =>
          waiting.requests.filter (fun request => request.kind = kind))).map
            (fun request => ⟨request.id, outcome request.kind⟩) := by
    rw [List.map_flatMap]
    apply congrArg kinds.flatMap
    funext kind
    rw [ofKind, List.map_map]
    apply List.map_congr_left
    intro request member
    have same : request.kind = kind := of_decide_eq_true (List.mem_filter.mp member).2
    rw [← same]
    rfl
  rw [grouped]
  exact (regroup_perm once complete waiting.requests).map _

end Waiting

namespace Pipeline

/-- What was settled since the outbox was last emptied, in order. -/
def settled (pipeline : Pipeline) : List Settlement :=
  settlements pipeline.outbox

/-- How often a request was settled. -/
def timesSettled (pipeline : Pipeline) (id : RequestId) : Nat :=
  (pipeline.settled.map Settlement.id).count id

/-! ## Operations that leave the requests alone -/

/-- No request is made or settled on the way from one pipeline to another, and an abort, which
settles every request, does not happen either. -/
structure LeavesRequests (before after : Pipeline) : Prop where
  waiting : after.waiting = before.waiting
  settled : after.settled = before.settled
  aborted : after.phase = .aborted -> before.phase = .aborted

namespace LeavesRequests

theorem trans {first second third : Pipeline} (earlier : LeavesRequests first second)
    (later : LeavesRequests second third) : LeavesRequests first third where
  waiting := later.waiting.trans earlier.waiting
  settled := later.settled.trans earlier.settled
  aborted := fun aborted => earlier.aborted (later.aborted aborted)

end LeavesRequests

theorem perform_leavesRequests (pipeline : Pipeline) {effects : List Effect}
    (quiet : settlements effects = []) : LeavesRequests pipeline (pipeline.perform effects) where
  waiting := rfl
  settled := by simp [Pipeline.settled, perform, quiet]
  aborted := id

theorem emit_leavesRequests (pipeline : Pipeline) (stage : Lifecycle) :
    LeavesRequests pipeline (pipeline.emit stage) :=
  perform_leavesRequests pipeline rfl

theorem publish_leavesRequests (pipeline : Pipeline)
    (listing : List (String × List Diagnostic)) :
    LeavesRequests pipeline (pipeline.publish listing) := by
  apply perform_leavesRequests
  induction listing with
  | nil => rfl
  | cons first rest inductionHypothesis => exact inductionHypothesis

theorem write_leavesRequests (pipeline : Pipeline) (text : String) :
    LeavesRequests pipeline (pipeline.write text) := by
  rw [write]
  split
  · exact perform_leavesRequests pipeline rfl
  · exact ⟨rfl, rfl, id⟩

theorem starting_leavesRequests (pipeline : Pipeline) :
    LeavesRequests pipeline pipeline.starting := by
  have told := emit_leavesRequests { pipeline with phase := .starting } .starting
  exact ⟨told.waiting, told.settled, nofun⟩

theorem attach_leavesRequests (pipeline : Pipeline) (now : Instant) :
    LeavesRequests pipeline (pipeline.attach now) := by
  have told := emit_leavesRequests { pipeline with
    frames := Wire.FrameBuffer.empty
    attached := true
    phase := .starting
    analysesPending := 0
    watchdog := pipeline.watchdog.arm now } .running
  exact ⟨told.waiting, told.settled, nofun⟩

theorem resetForReload_leavesRequests (pipeline : Pipeline) :
    LeavesRequests pipeline pipeline.resetForReload := by
  have told := publish_leavesRequests
    { pipeline.keepForReload with problems := ProblemStore.empty }
    (pipeline.problems.uris.map (fun uri => (uri, [])))
  exact ⟨told.waiting, told.settled, told.aborted⟩

theorem sendBatch_leavesRequests (pipeline : Pipeline) (now : Instant) :
    LeavesRequests pipeline (pipeline.sendBatch now) := by
  rw [sendBatch]
  split
  · exact ⟨rfl, rfl, id⟩
  next batch taken _ =>
    have written := write_leavesRequests
      { pipeline with problems := clearProblems pipeline.problems batch } (Wire.editText batch)
    exact ⟨written.waiting, written.settled, written.aborted⟩

theorem load_leavesRequests (pipeline : Pipeline) (documents : List Document) (now : Instant) :
    LeavesRequests pipeline (pipeline.load documents now) := by
  rw [load]
  split
  · have sent := sendBatch_leavesRequests
      { pipeline with edits := pipeline.edits.seed documents } now
    exact ⟨sent.waiting, sent.settled, sent.aborted⟩
  · exact ⟨rfl, rfl, id⟩

theorem edit_leavesRequests (pipeline : Pipeline) (document : Document) (version : Option Int)
    (now : Instant) : LeavesRequests pipeline (pipeline.edit document version now).1 := by
  rcases edit_files pipeline document version now with ⟨edits, same, _⟩
  rw [same]
  exact ⟨rfl, rfl, id⟩

theorem flush_leavesRequests (pipeline : Pipeline) (now : Instant) :
    LeavesRequests pipeline (pipeline.flush now) := by
  rw [flush]
  split
  · exact sendBatch_leavesRequests pipeline now
  · exact ⟨rfl, rfl, id⟩

theorem requestRestart_leavesRequests (pipeline : Pipeline) :
    LeavesRequests pipeline pipeline.requestRestart := by
  rw [requestRestart]
  split
  · exact write_leavesRequests _ _
  · exact ⟨rfl, rfl, id⟩

theorem progress_leavesRequests (pipeline : Pipeline) (now : Instant) :
    LeavesRequests pipeline (pipeline.progress now) := by
  rw [progress]
  split <;> exact ⟨rfl, rfl, id⟩

theorem listen_leavesRequests (pipeline : Pipeline) (now : Instant) :
    LeavesRequests pipeline (pipeline.listen now) := by
  have told := emit_leavesRequests { pipeline with phase := .listening } .listening
  have greeted : LeavesRequests pipeline pipeline.welcome := ⟨told.waiting, told.settled, nofun⟩
  exact (greeted.trans (sendBatch_leavesRequests _ now)).trans (progress_leavesRequests _ now)

theorem analysed_leavesRequests (pipeline : Pipeline) (now : Instant) :
    LeavesRequests pipeline (pipeline.analysed now) := by
  have counted : LeavesRequests pipeline { pipeline with
      phase := .analysed, analysesPending := pipeline.analysesPending - 1 } := ⟨rfl, rfl, nofun⟩
  exact ((counted.trans (publish_leavesRequests _ _)).trans (emit_leavesRequests _ _)).trans
    (progress_leavesRequests _ now)

theorem restarted_leavesRequests (pipeline : Pipeline) (now : Instant) :
    LeavesRequests pipeline (pipeline.restarted now) := by
  have reset := resetForReload_leavesRequests pipeline
  have greeted := listen_leavesRequests { pipeline.resetForReload with analysesPending := 0 } now
  exact reset.trans ⟨greeted.waiting, greeted.settled, greeted.aborted⟩

/-! ## Operations that settle every request -/

/-- Every request that waits is settled, with an outcome that may depend on its kind only, and no
request waits any more.  The queues are drained one after the other, each from its head; which kind
comes first is left open. -/
structure SettlesAll (outcome : RequestKind -> Outcome) (before after : Pipeline) : Prop where
  waiting : after.waiting = Waiting.empty
  settled : exists kinds : List RequestKind, kinds.Nodup ∧ (forall kind, kind ∈ kinds) ∧
    after.settled = before.settled ++ kinds.flatMap (fun kind =>
      (before.waiting.ofKind kind).map (fun id => ⟨id, outcome kind⟩))

namespace SettlesAll

variable {outcome : RequestKind -> Outcome} {first second third : Pipeline}

theorem drain {before after : Pipeline} (waiting : after.waiting = Waiting.empty)
    (settled : after.settled = before.settled ++ before.waiting.drain outcome) :
    SettlesAll outcome before after :=
  ⟨waiting, RequestKind.all, RequestKind.nodup_all, RequestKind.mem_all, settled⟩

/-- Where nobody waits there is nobody to settle. -/
theorem ofNobody {pipeline : Pipeline} (nobody : pipeline.waiting = Waiting.empty) :
    SettlesAll outcome pipeline pipeline := by
  refine drain nobody ?_
  rw [nobody]
  exact (List.append_nil _).symm

/-- Everybody who waited was settled once. -/
theorem perm (drained : SettlesAll outcome first second) :
    exists told, second.settled = first.settled ++ told ∧
      told.Perm (first.waiting.requests.map
        (fun request => ⟨request.id, outcome request.kind⟩)) := by
  rcases drained.settled with ⟨kinds, once, complete, settled⟩
  exact ⟨_, settled, Waiting.drained_perm once complete first.waiting outcome⟩

/-- Whatever happens afterwards, if the requests stay as they are. -/
theorem carried (drained : SettlesAll outcome first second)
    (waiting : third.waiting = second.waiting) (settled : third.settled = second.settled) : SettlesAll outcome first third where
  waiting := waiting.trans drained.waiting
  settled := by
    rw [settled]
    exact drained.settled

theorem thenLeaves (drained : SettlesAll outcome first second)
    (later : LeavesRequests second third) : SettlesAll outcome first third :=
  drained.carried later.waiting later.settled

theorem afterLeaves (earlier : LeavesRequests first second)
    (drained : SettlesAll outcome second third) : SettlesAll outcome first third where
  waiting := drained.waiting
  settled := by
    rw [← earlier.settled, ← earlier.waiting]
    exact drained.settled

end SettlesAll

theorem resolveAll_settlesAll (pipeline : Pipeline) :
    SettlesAll (fun kind => .ok (Answer.empty kind)) pipeline pipeline.resolveAll := by
  refine .drain rfl ?_
  simp only [Pipeline.settled, resolveAll, perform, settlements_append, settlements_settle]
  rfl

theorem rejectAll_settlesAll (pipeline : Pipeline) (failure : Failure) :
    SettlesAll (fun _ => .error failure) pipeline (pipeline.rejectAll failure) := by
  refine .drain rfl ?_
  simp only [Pipeline.settled, rejectAll, perform, settlements_append, settlements_settle]
  rfl

theorem block_settlesAll (pipeline : Pipeline) :
    SettlesAll (fun kind => .ok (Answer.empty kind)) pipeline pipeline.block := by
  have resolved := resolveAll_settlesAll pipeline
  have told := emit_leavesRequests
    { pipeline.resolveAll.detach.holdEdits with phase := .blocked } .blocked
  exact resolved.carried told.waiting told.settled

theorem spawnFailed_settlesAll (pipeline : Pipeline) (reason : String) :
    SettlesAll (fun _ => .error .aborted) pipeline (pipeline.spawnFailed reason) := by
  have rejected := rejectAll_settlesAll pipeline .aborted
  have told := emit_leavesRequests
    { (pipeline.rejectAll .aborted).detach.holdEdits with phase := .aborted } (.aborted reason)
  exact rejected.carried told.waiting told.settled

/-- What the two ways to lose a compiler that was not given up have in common. -/
private theorem gone_settlesAll (pipeline : Pipeline) (stage : Lifecycle) :
    SettlesAll (fun kind => .ok (Answer.empty kind)) pipeline
      ({ pipeline.resolveAll.resetForReload.detach with phase := .stopped }.emit stage) := by
  have resolved := (resolveAll_settlesAll pipeline).thenLeaves
    (resetForReload_leavesRequests pipeline.resolveAll)
  have told := emit_leavesRequests
    { pipeline.resolveAll.resetForReload.detach with phase := .stopped } stage
  exact resolved.carried told.waiting told.settled

theorem stopped_settlesAll (pipeline : Pipeline) :
    SettlesAll (fun kind => .ok (Answer.empty kind)) pipeline pipeline.stopped :=
  gone_settlesAll pipeline .killed

theorem recover_settlesAll (pipeline : Pipeline) (status : String) :
    SettlesAll (fun kind => .ok (Answer.empty kind)) pipeline (pipeline.recover status) :=
  gone_settlesAll pipeline (.crashed status)

theorem raised_settlesAll (pipeline : Pipeline) (lines : List String) (now : Instant) :
    SettlesAll (fun _ => .error (.exception (Text.join "\n" lines))) pipeline
      (pipeline.raised lines now) :=
  ((rejectAll_settlesAll _ _).afterLeaves (emit_leavesRequests pipeline _)).thenLeaves
    (progress_leavesRequests _ now)

theorem protocolError_settlesAll (pipeline : Pipeline) (fault : Wire.FrameFault)
    (now : Instant) :
    SettlesAll (fun _ => .error (.protocol fault)) pipeline (pipeline.protocolError fault now) :=
  ((rejectAll_settlesAll pipeline _).thenLeaves (emit_leavesRequests _ _)).thenLeaves
    (progress_leavesRequests _ now)

theorem watchdogExpired_settlesAll (pipeline : Pipeline) :
    SettlesAll (fun _ => .error (.stalled pipeline.watchdog.timeout)) pipeline
      pipeline.watchdogExpired := by
  have rejected := rejectAll_settlesAll pipeline (.stalled pipeline.watchdog.timeout)
  have told := emit_leavesRequests
    { (pipeline.rejectAll (.stalled pipeline.watchdog.timeout)).keepForReload.detach with
      phase := .aborted }
    (.aborted ("no response from compiler for " ++ pipeline.watchdog.timeout.display))
  exact rejected.carried told.waiting told.settled

/-! ## Responses and new requests -/

/-- The first request of a kind is settled and leaves its queue. -/
structure SettlesFirst (kind : RequestKind) (id : RequestId) (outcome : Outcome)
    (before after : Pipeline) : Prop where
  answered : Waiting.Answered kind id before.waiting after.waiting
  settled : after.settled = before.settled ++ [⟨id, outcome⟩]
  phase : after.phase = before.phase

/-- A response that nobody waits for changes nothing. -/
theorem respond_of_nobody {pipeline : Pipeline} {kind : RequestKind}
    (nobody : pipeline.waiting.ofKind kind = []) (lines : List String) (now : Instant) :
    pipeline.respond kind lines now = pipeline := by
  rw [respond, Waiting.handle_of_ofKind_nil nobody]

/-- A response settles the head of the queue of its kind with what its payload says. -/
theorem respond_settlesFirst {pipeline : Pipeline} {kind : RequestKind} {id : RequestId}
    {rest : List RequestId} (queue : pipeline.waiting.ofKind kind = id :: rest)
    (lines : List String) (now : Instant) :
    SettlesFirst kind id (Waiting.outcomeOf kind lines) pipeline
      (pipeline.respond kind lines now) := by
  rcases Waiting.handle_of_ofKind_cons queue lines with ⟨after, handled, answered⟩
  rw [respond, handled]
  have settling : SettlesFirst kind id (Waiting.outcomeOf kind lines) pipeline
      ({ pipeline with waiting := after }.perform
        [.settle ⟨id, Waiting.outcomeOf kind lines⟩]) :=
    ⟨answered, by simp [Pipeline.settled, perform, settlements], rfl⟩
  have rearmed := progress_leavesRequests ({ pipeline with waiting := after }.perform
    [.settle ⟨id, Waiting.outcomeOf kind lines⟩]) now
  refine ⟨?_, rearmed.settled.trans settling.settled, ?_⟩
  · rw [rearmed.waiting]
    exact answered
  · dsimp only
    rw [progress]
    split <;> rfl

/-- Making a request either settles it at once or puts it at the end of the queue. -/
theorem submit?_cases {before after : Pipeline} {id : RequestId} {query : Wire.Query}
    {now : Instant} (submitted : before.submit? id query now = some after) :
    (¬(before.phase = .analysed ∧ before.attached = true) ∧
      after.waiting = before.waiting ∧ after.phase = before.phase ∧
      ∃ outcome, after.settled = before.settled ++ [⟨id, outcome⟩]) ∨
    (after.waiting = before.waiting.expect query.kind id ∧ before.phase = .analysed ∧
      after.phase ≠ .aborted ∧ after.settled = before.settled) := by
  rw [submit?] at submitted
  split at submitted
  next aborted =>
    cases submitted
    exact Or.inl ⟨by simp [aborted], rfl, rfl, _, by
      simp [Pipeline.settled, perform, settlements]; rfl⟩
  · split at submitted
    next alive =>
      have ready : LeavesRequests before
          (if needsLatestText query.kind then before.flush now else before) := by
        split
        · exact flush_leavesRequests before now
        · exact ⟨rfl, rfl, fun aborted => aborted⟩
      cases encoded : query.encode? with
      | none => simp [encoded] at submitted
      | some text =>
          simp only [encoded, Option.some.injEq] at submitted
          subst after
          have written := ready.trans (write_leavesRequests _ text)
          refine Or.inr ⟨by simp only [written.waiting], alive.1, ?_, written.settled⟩
          intro aborted
          have analysed := alive.1
          rw [written.aborted aborted] at analysed
          cases analysed
    next silent =>
      cases submitted
      exact Or.inl ⟨silent, rfl, rfl, _, by simp [Pipeline.settled, perform, settlements]; rfl⟩

/-! ## Operations that make no request -/

/-- What survives that the requests are left alone, that all of them are settled, and that the first
of a kind is answered. -/
structure KeptBySettling (motive : Pipeline -> Prop) : Prop where
  leaves : forall {before after : Pipeline}, motive before -> LeavesRequests before after ->
    motive after
  settlesAll : forall {before after : Pipeline} {outcome : RequestKind -> Outcome},
    motive before -> SettlesAll outcome before after -> motive after
  settlesFirst : forall {before after : Pipeline} {kind : RequestKind} {id : RequestId}
    {outcome : Outcome}, motive before -> SettlesFirst kind id outcome before after -> motive after

namespace KeptBySettling

variable {motive : Pipeline -> Prop} {before after : Pipeline}

theorem handleFrame (kept : KeptBySettling motive) (held : motive before) (frame : Wire.Frame)
    (now : Instant) : motive (before.handleFrame frame now) := by
  apply handleFrame_cases (motive := motive)
  case ignored => exact fun _ => held
  case listen => exact fun _ => kept.leaves held (listen_leavesRequests before now)
  case report => exact fun _ _ => kept.leaves held ⟨rfl, rfl, id⟩
  case analysed => exact fun _ => kept.leaves held (analysed_leavesRequests before now)
  case raised => exact fun _ => kept.settlesAll held (raised_settlesAll before frame.lines now)
  case restarted => exact fun _ => kept.leaves held (restarted_leavesRequests before now)
  case respond =>
    intro kind _
    cases queue : before.waiting.ofKind kind with
    | nil =>
        rw [respond_of_nobody queue]
        exact held
    | cons id rest => exact kept.settlesFirst held (respond_settlesFirst queue frame.lines now)

theorem handleSegment (kept : KeptBySettling motive) (held : motive before) (now : Instant)
    (received : Except Wire.FrameFault Wire.Frame) :
    motive (before.handleSegment now received) := by
  cases received with
  | ok frame => exact kept.handleFrame held frame now
  | error fault => exact kept.settlesAll held (protocolError_settlesAll before fault now)

theorem operate (kept : KeptBySettling motive) (held : motive before) {operation : Operation}
    (unasked : operation.request? = none) (applied : before.operate? operation = some after) :
    motive after := by
  cases operation with
  | submit id query now => cases unasked
  | starting => cases applied; exact kept.leaves held (starting_leavesRequests before)
  | attach now => cases applied; exact kept.leaves held (attach_leavesRequests before now)
  | block => cases applied; exact kept.settlesAll held (block_settlesAll before)
  | spawnFailed reason =>
      cases applied
      exact kept.settlesAll held (spawnFailed_settlesAll before reason)
  | stopped => cases applied; exact kept.settlesAll held (stopped_settlesAll before)
  | recover status => cases applied; exact kept.settlesAll held (recover_settlesAll before status)
  | load documents now =>
      cases applied
      exact kept.leaves held (load_leavesRequests before documents now)
  | edit document version now =>
      cases applied
      exact kept.leaves held (edit_leavesRequests before document version now)
  | flush now => cases applied; exact kept.leaves held (flush_leavesRequests before now)
  | requestRestart => cases applied; exact kept.leaves held (requestRestart_leavesRequests before)
  | chunk bytes now =>
      cases applied
      apply handleChunk_induction (motive := motive) _ _ held bytes
      · exact fun _ _ held => kept.leaves held ⟨rfl, rfl, id⟩
      · exact fun _ received held => kept.handleSegment held now received
  | watchdogExpired => cases applied; exact kept.settlesAll held (watchdogExpired_settlesAll before)
  | applyTiming timing => cases applied; exact kept.leaves held ⟨rfl, rfl, id⟩

end KeptBySettling

/-! ## The books -/

/-- The books are in order: what was settled and what waits is what was made, what waits stands in
the order in which it was made, and nothing waits after an abort. -/
structure Accounted (requests : List Pending) (pipeline : Pipeline) : Prop where
  tally : (pipeline.settled.map Settlement.id ++
    pipeline.waiting.requests.map Pending.id).Perm (requests.map Pending.id)
  order : pipeline.waiting.requests.Sublist requests
  aborted : pipeline.phase = .aborted -> pipeline.waiting = Waiting.empty

namespace Accounted

variable {requests : List Pending} {before after : Pipeline}

theorem new (timing : Timing) : Accounted [] (Pipeline.new timing) :=
  ⟨.refl _, .refl _, fun _ => rfl⟩

theorem leaves (books : Accounted requests before) (quiet : LeavesRequests before after) :
    Accounted requests after where
  tally := by
    rw [quiet.settled, quiet.waiting]
    exact books.tally
  order := by
    rw [quiet.waiting]
    exact books.order
  aborted := fun aborted => quiet.waiting.trans (books.aborted (quiet.aborted aborted))

theorem settlesAll (books : Accounted requests before) {outcome : RequestKind -> Outcome}
    (drained : SettlesAll outcome before after) : Accounted requests after where
  tally := by
    rcases drained.perm with ⟨told, settled, everybody⟩
    have ids : (told.map Settlement.id).Perm (before.waiting.requests.map Pending.id) := by
      have mapped := everybody.map Settlement.id
      rwa [List.map_map] at mapped
    rw [settled, drained.waiting, List.map_append, Waiting.empty, List.map_nil, List.append_nil]
    exact (ids.append_left _).trans books.tally
  order := by
    rw [drained.waiting]
    exact List.nil_sublist _
  aborted := fun _ => drained.waiting

theorem settlesFirst (books : Accounted requests before) {kind : RequestKind} {id : RequestId}
    {outcome : Outcome} (settling : SettlesFirst kind id outcome before after) :
    Accounted requests after where
  tally := by
    have moved : (before.waiting.requests.map Pending.id).Perm
        (id :: after.waiting.requests.map Pending.id) := settling.answered.perm.map Pending.id
    have whole := (moved.symm.append_left (before.settled.map Settlement.id)).trans books.tally
    rw [settling.settled]
    simpa using whole
  order := settling.answered.sublist.trans books.order
  aborted := by
    intro aborted
    have empty := books.aborted (settling.phase ▸ aborted)
    have queue := settling.answered.ofKind
    rw [empty] at queue
    exact nomatch queue

/-- A request that is settled as soon as it is made. -/
theorem settlesAtOnce (books : Accounted requests before) (request : Pending) {outcome : Outcome}
    (waiting : after.waiting = before.waiting) (phase : after.phase = before.phase)
    (settled : after.settled = before.settled ++ [⟨request.id, outcome⟩]) :
    Accounted (requests ++ [request]) after := by
  refine ⟨?_, ?_, ?_⟩
  · rw [settled, waiting]
    have last : ([request.id] ++ before.waiting.requests.map Pending.id).Perm
        (before.waiting.requests.map Pending.id ++ [request.id]) := List.perm_append_comm
    have shuffled := last.append_left (before.settled.map Settlement.id)
    have whole := books.tally.append_right [request.id]
    simp only [List.append_assoc] at whole
    simpa using shuffled.trans whole
  · rw [waiting]
    exact books.order.trans (List.sublist_append_left _ _)
  · intro aborted
    exact waiting.trans (books.aborted (phase ▸ aborted))

theorem submit (books : Accounted requests before) {id : RequestId} {query : Wire.Query}
    {now : Instant} (submitted : before.submit? id query now = some after) :
    Accounted (requests ++ [⟨query.kind, id⟩]) after := by
  rcases submit?_cases submitted with ⟨_, waiting, phase, outcome, settled⟩ |
    ⟨waiting, analysed, notAborted, settled⟩
  · exact books.settlesAtOnce ⟨query.kind, id⟩ waiting phase settled
  · refine ⟨?_, ?_, fun aborted => absurd aborted notAborted⟩
    · rw [settled, waiting]
      have whole := books.tally.append_right [id]
      simpa [Waiting.expect] using whole
    · rw [waiting]
      exact books.order.append (List.Sublist.refl _)

/-- The books are in order after everything that makes no request. -/
theorem kept : KeptBySettling (Accounted requests) where
  leaves := fun books quiet => books.leaves quiet
  settlesAll := fun books drained => books.settlesAll drained
  settlesFirst := fun books settling => books.settlesFirst settling

/-- One operation keeps the books, once the request that it may make is entered. -/
theorem step (books : Accounted requests before) {operation : Operation}
    (applied : before.operate? operation = some after) :
    Accounted (requests ++ Operation.requests [operation]) after := by
  cases asked : operation.request? with
  | none =>
      have unchanged : Operation.requests [operation] = [] := by simp [Operation.requests, asked]
      rw [unchanged, List.append_nil]
      exact kept.operate books asked applied
  | some request =>
      cases operation with
      | submit id query now => exact books.submit applied
      | _ => cases asked

/-- The books are in order after every run. -/
theorem run {timing : Timing} {operations : List Operation} {last : Pipeline}
    (ran : (Pipeline.new timing).run? operations = some last) :
    Accounted (Operation.requests operations) last := by
  refine run?_induction (motive := fun operations pipeline =>
    Accounted (Operation.requests operations) pipeline) (Accounted.new timing) ?_ ran
  intro earlier before after operation books applied
  rw [Operation.requests_append]
  exact books.step applied

/-! ## What the books tell -/

/-- A request that was made is either settled or waits. -/
theorem timesSettled_add_count (books : Accounted requests before)
    (distinct : (requests.map Pending.id).Nodup) {request : Pending} (made : request ∈ requests) :
    before.timesSettled request.id +
      (before.waiting.requests.map Pending.id).count request.id = 1 := by
  rw [timesSettled, ← List.count_append, books.tally.count_eq, distinct.count,
    if_pos (List.mem_map_of_mem made)]

/-- Two requests of one number are one request. -/
theorem eq_of_id_eq {made : List Pending} (distinct : (made.map Pending.id).Nodup)
    {left right : Pending} (leftMade : left ∈ made) (rightMade : right ∈ made)
    (same : left.id = right.id) : left = right := by
  induction made with
  | nil => cases leftMade
  | cons head rest inductionHypothesis =>
      rw [List.map_cons, List.nodup_cons] at distinct
      rcases List.mem_cons.mp leftMade with leftHead | leftLater
      · rcases List.mem_cons.mp rightMade with rightHead | rightLater
        · rw [leftHead, rightHead]
        · rw [leftHead] at same
          exact absurd (same ▸ List.mem_map_of_mem rightLater) distinct.1
      · rcases List.mem_cons.mp rightMade with rightHead | rightLater
        · rw [rightHead] at same
          exact absurd (same ▸ List.mem_map_of_mem leftLater) distinct.1
        · exact inductionHypothesis distinct.2 leftLater rightLater

/-- Among the requests that were made, those that wait are those that were never settled. -/
theorem mem_waiting_iff (books : Accounted requests before)
    (distinct : (requests.map Pending.id).Nodup) {request : Pending} (made : request ∈ requests) :
    request ∈ before.waiting.requests ↔ before.timesSettled request.id = 0 := by
  have one := books.timesSettled_add_count distinct made
  constructor
  · intro waits
    have counted : 0 < (before.waiting.requests.map Pending.id).count request.id :=
      List.count_pos_iff.mpr (List.mem_map_of_mem waits)
    omega
  · intro unsettled
    have counted : 0 < (before.waiting.requests.map Pending.id).count request.id := by omega
    rcases List.mem_map.mp (List.count_pos_iff.mp counted) with ⟨other, waits, same⟩
    have equal := eq_of_id_eq distinct (books.order.subset waits) made same
    exact equal ▸ waits

end Accounted

/-! ## The law of requests -/

end Pipeline
end Session
end LanguageServer
