import LanguageServer.Proofs.Requests

namespace LanguageServer
namespace Session

/-!
# Which request a response reaches

Take a compiler that reads requests in order and answers each of them by one frame, a response of
its kind or an exception.  Responses carry no number, so the pipeline hands each one to the oldest
request of its kind that waits.  As long as the requests that wait are the requests that are not
answered yet, that is the right one.

An exception breaks this: it answers one request and settles all that wait.  The others are
abandoned, but the compiler does not know that and still answers them.  When such a late response
arrives and a newer request of its kind waits, the newer request takes it.  The ledger below keeps
abandoned and awaited requests apart, from the course of the exchange alone; the main result says
that responses reach their own requests exactly when the ledger never shows such an overtaking.
-/

/-- The command of the responses to requests of a kind. -/
def responseCommand : RequestKind -> Wire.Command
  | .hover => .hover
  | .definition => .definition
  | .declaration => .declaration
  | .completion => .completion
  | .signatureHelp => .signature
  | .symbols => .symbols
  | .references => .references
  | .implementation => .implementation
  | .rename => .rename

theorem responseKind?_responseCommand (kind : RequestKind) :
    Pipeline.responseKind? (responseCommand kind) = some kind := by
  cases kind <;> rfl

/-- One turn of an exchange with the compiler. -/
inductive Turn where
  | ask (id : RequestId) (query : Wire.Query) (now : Instant)
  /-- The compiler responds to the oldest request that it has not answered. -/
  | respond (lines : List String) (now : Instant)
  /-- The compiler answers the oldest request that it has not answered by an exception. -/
  | raise (lines : List String) (now : Instant)
  | edit (document : Document) (version : Option Int) (now : Instant)
  | flush (now : Instant)
  /-- The compiler reports diagnostics. -/
  | diagnose (band : Band) (lines : List String) (now : Instant)
  /-- The compiler has completed an analysis. -/
  | analysed (now : Instant)

namespace Turn

/-- The request that is made on a turn. -/
def request? : Turn -> Option Pending
  | .ask id query _ => some ⟨query.kind, id⟩
  | _ => none

/-- The requests that are made on some turns, in order. -/
def requests (turns : List Turn) : List Pending :=
  turns.filterMap request?

end Turn

/-- A response as it was produced and as it was received. -/
structure Delivery where
  /-- The request that the compiler answered. -/
  request : Pending
  /-- The payload of its response. -/
  lines : List String
  /-- What was settled when the response arrived. -/
  settled : List Settlement

namespace Delivery

/-- The response settled no request but the one it was produced for, and that one with what the
payload says. -/
def Faithful (delivery : Delivery) : Prop :=
  forall settlement, settlement ∈ delivery.settled ->
    settlement = ⟨delivery.request.id, Waiting.outcomeOf delivery.request.kind delivery.lines⟩

end Delivery

/-- A pipeline and a compiler that answers every request that it reads by one frame. -/
structure Exchange where
  pipeline : Pipeline
  /-- The requests that were written and are not answered, the oldest first. -/
  unanswered : List Pending
  /-- The responses so far, in order. -/
  deliveries : List Delivery

namespace Exchange

/-- An exchange in which the compiler owes no answer. -/
def begin (pipeline : Pipeline) : Exchange := ⟨pipeline, [], []⟩

/-- A frame that answers no request. -/
def report (exchange : Exchange) (frame : Wire.Frame) (now : Instant) : Exchange :=
  { exchange with pipeline := exchange.pipeline.handleFrame frame now }

/-- Take one turn.  The compiler answers only what it was asked, and a request that has no place on
the wire cannot be made. -/
def step? (exchange : Exchange) : Turn -> Option Exchange
  | .ask id query now =>
      (exchange.pipeline.submit? id query now).map (fun next =>
        { exchange with
          pipeline := next
          unanswered :=
            if exchange.pipeline.phase = .analysed ∧ exchange.pipeline.attached then
              exchange.unanswered ++ [⟨query.kind, id⟩]
            else exchange.unanswered })
  | .respond lines now =>
      match exchange.unanswered with
      | [] => none
      | request :: rest =>
          let next := exchange.pipeline.handleFrame ⟨responseCommand request.kind, lines⟩ now
          some
            { pipeline := next
              unanswered := rest
              deliveries := exchange.deliveries ++
                [⟨request, lines, next.settled.drop exchange.pipeline.settled.length⟩] }
  | .raise lines now =>
      match exchange.unanswered with
      | [] => none
      | _ :: rest => some { exchange.report ⟨.except, lines⟩ now with unanswered := rest }
  | .edit document version now =>
      some { exchange with pipeline := (exchange.pipeline.edit document version now).1 }
  | .flush now => some { exchange with pipeline := exchange.pipeline.flush now }
  | .diagnose .parse lines now => some (exchange.report ⟨.diagParse, lines⟩ now)
  | .diagnose .analysis lines now => some (exchange.report ⟨.diagAnalysis, lines⟩ now)
  | .analysed now => some (exchange.report ⟨.analysed, []⟩ now)

/-- Take turns one after the other. -/
def run? (exchange : Exchange) (turns : List Turn) : Option Exchange :=
  turns.foldlM step? exchange

end Exchange

/-- The requests that the compiler has not answered, the oldest first: those that an exception has
settled before their answer came, and behind them those that wait. -/
structure Ledger where
  abandoned : List Pending
  awaited : List Pending
deriving DecidableEq, Repr, Inhabited

namespace Ledger

def empty : Ledger := ⟨[], []⟩

/-- Enter a turn.  An exception answers the oldest request and abandons all others. -/
def enter (ledger : Ledger) : Turn -> Ledger
  | .ask id query _ => { ledger with awaited := ledger.awaited ++ [⟨query.kind, id⟩] }
  | .respond .. =>
      match ledger.abandoned with
      | [] => { ledger with awaited := ledger.awaited.tail }
      | _ :: rest => { ledger with abandoned := rest }
  | .raise .. => ⟨(ledger.abandoned ++ ledger.awaited).tail, []⟩
  | .edit .. | .flush _ | .diagnose .. | .analysed _ => ledger

/-- The next answer is for an abandoned request, and a request of the same kind is awaited. -/
def Overtaken (ledger : Ledger) : Prop :=
  match ledger.abandoned with
  | [] => False
  | late :: _ => exists newer, newer ∈ ledger.awaited ∧ newer.kind = late.kind

/-- No response comes while its request is overtaken. -/
def Untangled (ledger : Ledger) : List Turn -> Prop
  | [] => True
  | turn :: rest =>
      (forall lines now, turn = .respond lines now -> ¬ledger.Overtaken) ∧
        (ledger.enter turn).Untangled rest

end Ledger

namespace Pipeline

/-! ## The compiler stays in contact -/

/-- The compiler answers requests. -/
structure InContact (pipeline : Pipeline) : Prop where
  analysed : pipeline.phase = .analysed
  attached : pipeline.attached = true

variable {pipeline : Pipeline}

/-- In contact, a request that is made is written and waits. -/
theorem InContact.submit (contact : InContact pipeline) {id : RequestId} {query : Wire.Query}
    {now : Instant} {after : Pipeline} (submitted : pipeline.submit? id query now = some after) :
    InContact after ∧ after.waiting = pipeline.waiting.expect query.kind id := by
  have alive : pipeline.phase ≠ .aborted := by simp [contact.analysed]
  rw [submit?, if_neg alive, if_pos ⟨contact.analysed, contact.attached⟩] at submitted
  have ready : InContact (if needsLatestText query.kind then pipeline.flush now else pipeline) ∧
      (if needsLatestText query.kind then pipeline.flush now else pipeline).waiting =
        pipeline.waiting := by
    split
    · exact ⟨⟨by simp [contact.analysed], by simp [contact.attached]⟩,
        (flush_leavesRequests pipeline now).waiting⟩
    · exact ⟨contact, rfl⟩
  cases encoded : query.encode? with
  | none => simp [encoded] at submitted
  | some text =>
      simp only [encoded, write_eq, perform, Option.some.injEq] at submitted
      subst after
      exact ⟨⟨ready.1.analysed, ready.1.attached⟩, by rw [ready.2]⟩

theorem InContact.respond (contact : InContact pipeline) (kind : RequestKind)
    (lines : List String) (now : Instant) : InContact (pipeline.respond kind lines now) := by
  rw [Pipeline.respond]
  split
  · exact ⟨by simp [perform, contact.analysed], by simp [perform, contact.attached]⟩
  · exact contact

theorem InContact.raised (contact : InContact pipeline) (lines : List String) (now : Instant) :
    InContact (pipeline.raised lines now) :=
  ⟨by simp [Pipeline.raised, rejectAll, emit, perform, contact.analysed],
    by simp [Pipeline.raised, rejectAll, emit, perform, contact.attached]⟩

theorem InContact.completed (contact : InContact pipeline) (now : Instant) :
    InContact (pipeline.analysed now) :=
  ⟨by simp [Pipeline.analysed, emit, publish, perform],
    by simp [Pipeline.analysed, emit, publish, perform, contact.attached]⟩

/-- A response to the oldest request of all settles it, and the others stay. -/
theorem respond_oldest {first : Pending} {rest : List Pending}
    (waiting : pipeline.waiting.requests = first :: rest) (lines : List String) (now : Instant) :
    (pipeline.respond first.kind lines now).waiting.requests = rest ∧
      (pipeline.respond first.kind lines now).settled =
        pipeline.settled ++ [⟨first.id, Waiting.outcomeOf first.kind lines⟩] := by
  have handled : pipeline.waiting.handle first.kind lines =
      (some ⟨first.id, Waiting.outcomeOf first.kind lines⟩, ⟨rest⟩) := by
    simp [Waiting.handle, waiting]
  rw [Pipeline.respond, handled]
  have rearmed := progress_leavesRequests ({ pipeline with waiting := ⟨rest⟩ }.perform
    [.settle ⟨first.id, Waiting.outcomeOf first.kind lines⟩]) now
  refine ⟨by rw [rearmed.waiting]; rfl, rearmed.settled.trans ?_⟩
  simp [Pipeline.settled, perform, settlements]

end Pipeline

namespace Ledger

/-! ## The ledger describes the exchange until a response goes astray -/

/-- The ledger shows what the pipeline and the compiler wait for. -/
structure Describes (ledger : Ledger) (exchange : Exchange) : Prop where
  contact : exchange.pipeline.InContact
  waiting : exchange.pipeline.waiting.requests = ledger.awaited
  unanswered : exchange.unanswered = ledger.abandoned ++ ledger.awaited

theorem Describes.begin {pipeline : Pipeline} (contact : pipeline.InContact)
    (idle : pipeline.waiting = Waiting.empty) :
    Ledger.empty.Describes (Exchange.begin pipeline) :=
  ⟨contact, by rw [Exchange.begin, idle]; rfl, rfl⟩

/-- A frame that answers no request, or an operation of the editor, leaves both as they are. -/
theorem Describes.aside {ledger : Ledger} {exchange : Exchange}
    (describes : ledger.Describes exchange) {next : Pipeline} (contact : next.InContact)
    (quiet : Pipeline.LeavesRequests exchange.pipeline next) :
    ledger.Describes { exchange with pipeline := next } :=
  ⟨contact, by rw [quiet.waiting]; exact describes.waiting, describes.unanswered⟩

theorem Describes.turn {ledger : Ledger} {exchange next : Exchange} {turn : Turn}
    (describes : ledger.Describes exchange)
    (notResponse : forall lines now, turn ≠ .respond lines now)
    (stepped : exchange.step? turn = some next) :
    (ledger.enter turn).Describes next ∧ next.deliveries = exchange.deliveries := by
  have contact := describes.contact
  have alive : exchange.pipeline.phase ≠ .aborted := by simp [contact.analysed]
  cases turn with
  | respond lines now => exact absurd rfl (notResponse lines now)
  | ask id query now =>
      rw [Exchange.step?, Option.map_eq_some_iff] at stepped
      rcases stepped with ⟨after, submitted, same⟩
      rw [if_pos ⟨contact.analysed, contact.attached⟩] at same
      subst next
      have waits := contact.submit submitted
      refine ⟨⟨waits.1, ?_, ?_⟩, rfl⟩
      · rw [waits.2, Waiting.expect, describes.waiting]
        rfl
      · rw [describes.unanswered, List.append_assoc]
        rfl
  | raise lines now =>
      rw [Exchange.step?] at stepped
      split at stepped
      · cases stepped
      next request rest owed =>
        cases stepped
        have handled : exchange.pipeline.handleFrame ⟨.except, lines⟩ now =
            exchange.pipeline.raised lines now := by rw [Pipeline.handleFrame, if_neg alive]
        refine ⟨⟨?_, ?_, ?_⟩, rfl⟩
        · rw [Exchange.report, handled]
          exact contact.raised lines now
        · rw [Exchange.report, handled,
            (Pipeline.raised_settlesAll exchange.pipeline lines now).waiting]
          rfl
        · have order := describes.unanswered
          rw [owed] at order
          rw [enter, ← order, List.tail_cons, List.append_nil]
  | edit document version now =>
      cases stepped
      have kept : (exchange.pipeline.edit document version now).1.InContact :=
        ⟨by simp [contact.analysed], by simp [contact.attached]⟩
      exact ⟨describes.aside kept (Pipeline.edit_leavesRequests _ _ _ _), rfl⟩
  | flush now =>
      cases stepped
      have kept : (exchange.pipeline.flush now).InContact :=
        ⟨by simp [contact.analysed], by simp [contact.attached]⟩
      exact ⟨describes.aside kept (Pipeline.flush_leavesRequests _ _), rfl⟩
  | diagnose band lines now =>
      have handled : exchange.step? (.diagnose band lines now) =
          some { exchange with pipeline := exchange.pipeline.addProblems band lines } := by
        cases band <;>
          simp only [Exchange.step?, Exchange.report, Pipeline.handleFrame, if_neg alive]
      rw [handled] at stepped
      cases stepped
      have kept : (exchange.pipeline.addProblems band lines).InContact :=
        ⟨contact.analysed, contact.attached⟩
      exact ⟨describes.aside kept ⟨rfl, rfl, fun aborted => aborted⟩, rfl⟩
  | analysed now =>
      have handled : exchange.pipeline.handleFrame ⟨.analysed, []⟩ now =
          exchange.pipeline.analysed now := by rw [Pipeline.handleFrame, if_neg alive]
      cases stepped
      rw [Exchange.report, handled]
      exact ⟨describes.aside (contact.completed now) (Pipeline.analysed_leavesRequests _ now), rfl⟩

/-- The response to the oldest request that is not answered, as the pipeline takes it. -/
theorem Describes.respond_eq {ledger : Ledger} {exchange next : Exchange} {lines : List String}
    {now : Instant} (describes : ledger.Describes exchange)
    (stepped : exchange.step? (.respond lines now) = some next) :
    exists request rest, ledger.abandoned ++ ledger.awaited = request :: rest ∧
      next =
        { pipeline := exchange.pipeline.respond request.kind lines now
          unanswered := rest
          deliveries := exchange.deliveries ++ [⟨request, lines,
            (exchange.pipeline.respond request.kind lines now).settled.drop
              exchange.pipeline.settled.length⟩] } := by
  have alive : exchange.pipeline.phase ≠ .aborted := by simp [describes.contact.analysed]
  rw [Exchange.step?] at stepped
  split at stepped
  · exact nomatch stepped
  next request rest owed =>
    refine ⟨request, rest, describes.unanswered.symm.trans owed, ?_⟩
    cases stepped
    rw [Pipeline.handleFrame_response (responseKind?_responseCommand request.kind) alive]

/-- A response that is not overtaken goes to the request it was produced for, or to nobody when that
request was abandoned. -/
theorem Describes.response {ledger : Ledger} {exchange next : Exchange} {lines : List String}
    {now : Instant} (describes : ledger.Describes exchange) (clear : ¬ledger.Overtaken)
    (stepped : exchange.step? (.respond lines now) = some next) :
    (ledger.enter (.respond lines now)).Describes next ∧
      exists delivery, next.deliveries = exchange.deliveries ++ [delivery] ∧
        delivery.Faithful := by
  rcases describes.respond_eq stepped with ⟨request, rest, owed, taken⟩
  subst next
  have contact := describes.contact.respond request.kind lines now
  cases abandoned : ledger.abandoned with
  | nil =>
      -- the compiler answers the oldest request that waits
      rw [abandoned, List.nil_append] at owed
      have waiting := describes.waiting.trans owed
      have settling := Pipeline.respond_oldest waiting lines now
      refine ⟨⟨contact, ?_, ?_⟩, _, rfl, ?_⟩
      · rw [settling.1, enter, abandoned]
        simp [owed]
      · simp [enter, abandoned, owed]
      · intro settlement member
        rw [settling.2, List.drop_left] at member
        exact List.mem_singleton.mp member
  | cons late others =>
      -- the answer comes too late, and nobody of its kind waits
      rw [abandoned, List.cons_append, List.cons.injEq] at owed
      have nobody : exchange.pipeline.waiting.ofKind request.kind = [] := by
        apply List.eq_nil_iff_forall_not_mem.mpr
        intro id queued
        have waits := Waiting.mem_ofKind.mp queued
        rw [describes.waiting] at waits
        apply clear
        rw [Overtaken, abandoned]
        exact ⟨_, waits, by rw [owed.1]⟩
      rw [Pipeline.respond_of_nobody nobody] at contact ⊢
      refine ⟨⟨contact, ?_, ?_⟩, _, rfl, ?_⟩
      · rw [describes.waiting, enter, abandoned]
      · rw [enter, abandoned]
        exact owed.2.symm
      · intro settlement member
        rw [List.drop_length] at member
        exact nomatch member

/-- A response that is overtaken goes to a request that it was not produced for. -/
theorem Describes.astray {ledger : Ledger} {exchange next : Exchange} {lines : List String}
    {now : Instant} (describes : ledger.Describes exchange)
    (distinct : (exchange.unanswered.map Pending.id).Nodup) (overtaken : ledger.Overtaken)
    (stepped : exchange.step? (.respond lines now) = some next) :
    exists delivery, delivery ∈ next.deliveries ∧ ¬delivery.Faithful := by
  rcases describes.respond_eq stepped with ⟨request, rest, owed, taken⟩
  subst next
  cases abandoned : ledger.abandoned with
  | nil =>
      rw [Overtaken, abandoned] at overtaken
      exact overtaken.elim
  | cons late others =>
      rw [Overtaken, abandoned] at overtaken
      rcases overtaken with ⟨newer, awaited, sameKind⟩
      rw [abandoned, List.cons_append, List.cons.injEq] at owed
      rw [describes.unanswered, abandoned, List.cons_append, List.map_cons,
        List.nodup_cons] at distinct
      -- somebody of the kind waits, so the response settles a request that is awaited
      have queued : newer.id ∈ exchange.pipeline.waiting.ofKind request.kind := by
        apply Waiting.mem_ofKind.mpr
        rw [describes.waiting, ← owed.1, ← sameKind]
        exact awaited
      cases queue : exchange.pipeline.waiting.ofKind request.kind with
      | nil =>
          rw [queue] at queued
          exact nomatch queued
      | cons taker others' =>
          have settling := Pipeline.respond_settlesFirst queue lines now
          have waits : ⟨request.kind, taker⟩ ∈ ledger.awaited := by
            rw [← describes.waiting]
            exact Waiting.mem_ofKind.mp (by rw [queue]; exact List.mem_cons_self)
          refine ⟨_, List.mem_append_right _ (List.mem_singleton.mpr rfl), ?_⟩
          intro faithful
          have own := faithful ⟨taker, Waiting.outcomeOf request.kind lines⟩
            (by rw [settling.settled, List.drop_left]; exact List.mem_singleton.mpr rfl)
          have sameId : taker = request.id := congrArg Settlement.id own
          apply distinct.1
          rw [owed.1, ← sameId]
          exact List.mem_map.mpr ⟨_, List.mem_append_right _ waits, rfl⟩

end Ledger

namespace Exchange

/-! ## The exact condition -/

/-- A turn only adds to the deliveries, and what is not answered after it was not answered before
it or is asked on it. -/
theorem step?_grows {exchange next : Exchange} {turn : Turn}
    (stepped : exchange.step? turn = some next) :
    exchange.deliveries <+: next.deliveries ∧
      next.unanswered.Sublist (exchange.unanswered ++ Turn.requests [turn]) := by
  cases turn with
  | ask id query now =>
      rw [step?, Option.map_eq_some_iff] at stepped
      rcases stepped with ⟨after, _, same⟩
      subst next
      refine ⟨List.prefix_rfl, ?_⟩
      dsimp only
      split
      · exact List.Sublist.refl _
      · exact List.sublist_append_left _ _
  | respond lines now =>
      rw [step?] at stepped
      split at stepped
      · exact nomatch stepped
      next request rest owed =>
        cases stepped
        rw [owed]
        exact ⟨List.prefix_append _ _,
          (List.sublist_cons_self request rest).trans (List.sublist_append_left _ _)⟩
  | raise lines now =>
      rw [step?] at stepped
      split at stepped
      · exact nomatch stepped
      next request rest owed =>
        cases stepped
        rw [owed]
        exact ⟨List.prefix_rfl,
          (List.sublist_cons_self request rest).trans (List.sublist_append_left _ _)⟩
  | edit document version now =>
      cases stepped
      exact ⟨List.prefix_rfl, List.sublist_append_left _ _⟩
  | flush now =>
      cases stepped
      exact ⟨List.prefix_rfl, List.sublist_append_left _ _⟩
  | diagnose band lines now =>
      cases band <;> cases stepped <;> exact ⟨List.prefix_rfl, List.sublist_append_left _ _⟩
  | analysed now =>
      cases stepped
      exact ⟨List.prefix_rfl, List.sublist_append_left _ _⟩

theorem run?_cons {exchange last : Exchange} {turn : Turn} {rest : List Turn}
    (ran : exchange.run? (turn :: rest) = some last) :
    exists next, exchange.step? turn = some next ∧ next.run? rest = some last := by
  rw [run?, List.foldlM_cons, Option.bind_eq_bind, Option.bind_eq_some_iff] at ran
  exact ran

theorem run?_deliveries {exchange last : Exchange} {turns : List Turn}
    (ran : exchange.run? turns = some last) : exchange.deliveries <+: last.deliveries := by
  induction turns generalizing exchange with
  | nil =>
      cases ran
      exact List.prefix_rfl
  | cons turn rest inductionHypothesis =>
      rcases run?_cons ran with ⟨next, stepped, remaining⟩
      exact (step?_grows stepped).1.trans (inductionHypothesis remaining)

/-- From a point where the ledger describes the exchange, the responses to come are all faithful
exactly when none of them is overtaken. -/
theorem faithful_iff_untangled {ledger : Ledger} {exchange last : Exchange} {turns : List Turn}
    (describes : ledger.Describes exchange)
    (distinct : ((exchange.unanswered ++ Turn.requests turns).map Pending.id).Nodup)
    (faithful : forall delivery, delivery ∈ exchange.deliveries -> delivery.Faithful)
    (ran : exchange.run? turns = some last) :
    (forall delivery, delivery ∈ last.deliveries -> delivery.Faithful) ↔
      ledger.Untangled turns := by
  induction turns generalizing exchange ledger with
  | nil =>
      cases ran
      exact ⟨fun _ => trivial, fun _ => faithful⟩
  | cons turn rest inductionHypothesis =>
      rcases run?_cons ran with ⟨next, stepped, remaining⟩
      have grows := step?_grows stepped
      have owed : (next.unanswered ++ Turn.requests rest).Sublist
          (exchange.unanswered ++ Turn.requests (turn :: rest)) := by
        have split : Turn.requests (turn :: rest) = Turn.requests [turn] ++ Turn.requests rest :=
          List.filterMap_append (l := [turn])
        rw [split, ← List.append_assoc]
        exact grows.2.append_right _
      have nextDistinct := distinct.sublist (owed.map Pending.id)
      by_cases response : exists lines now, turn = .respond lines now
      · rcases response with ⟨lines, now, same⟩
        subst turn
        by_cases overtaken : ledger.Overtaken
        · have unanswered : (exchange.unanswered.map Pending.id).Nodup := by
            rw [List.map_append] at distinct
            exact (List.nodup_append.mp distinct).1
          rcases describes.astray unanswered overtaken stepped with ⟨delivery, member, astray⟩
          constructor
          · intro all
            exact absurd (all delivery ((run?_deliveries remaining).subset member)) astray
          · intro untangled
            exact absurd overtaken (untangled.1 lines now rfl)
        · rcases describes.response overtaken stepped with ⟨described, delivery, added, own⟩
          have faithfulNext : forall delivery, delivery ∈ next.deliveries ->
              delivery.Faithful := by
            intro other member
            rw [added] at member
            rcases List.mem_append.mp member with earlier | now
            · exact faithful other earlier
            · rw [List.mem_singleton.mp now]
              exact own
          rw [inductionHypothesis described nextDistinct faithfulNext remaining, Ledger.Untangled]
          exact ⟨fun untangled => ⟨fun _ _ _ => overtaken, untangled⟩, fun both => both.2⟩
      · have notResponse : forall lines now, turn ≠ .respond lines now :=
          fun lines now same => response ⟨lines, now, same⟩
        have described := describes.turn notResponse stepped
        have faithfulNext : forall delivery, delivery ∈ next.deliveries -> delivery.Faithful := by
          rw [described.2]
          exact faithful
        rw [inductionHypothesis described.1 nextDistinct faithfulNext remaining, Ledger.Untangled]
        constructor
        · intro untangled
          exact ⟨fun lines now same => absurd same (notResponse lines now), untangled⟩
        · exact fun both => both.2

/-- Let a compiler answer every request that it reads, in order, by one response of its kind or by
one exception, while requests are made at any time.  Every response reaches the very request that
it was produced for, or nobody, exactly when no response comes for a request that an exception has
settled already while a newer request of the same kind waits. -/
theorem responses_reach_own_requests_iff {pipeline : Pipeline} {turns : List Turn}
    {last : Exchange} (analysed : pipeline.phase = .analysed) (attached : pipeline.attached = true)
    (idle : pipeline.waiting = Waiting.empty)
    (distinct : ((Turn.requests turns).map Pending.id).Nodup)
    (ran : (begin pipeline).run? turns = some last) :
    (forall delivery, delivery ∈ last.deliveries -> delivery.Faithful) ↔
      Ledger.empty.Untangled turns :=
  faithful_iff_untangled (Ledger.Describes.begin ⟨analysed, attached⟩ idle) distinct
    (fun _ member => nomatch member) ran

/-- A compiler that has listened and analysed, and has nothing to answer. -/
def ready : Pipeline :=
  (((Pipeline.new Timing.default).starting.attach 0).handleFrame ⟨.listen, []⟩ 0).handleFrame
    ⟨.analysed, []⟩ 0

/-- An exception abandons a search for symbols, and a hover is asked after it. -/
def lateSymbols : List Turn :=
  [.ask 0 (.hover ⟨"file:///a", ⟨0, 0⟩⟩) 0, .ask 1 (.symbols none) 0, .raise ["boom"] 1,
    .ask 2 (.hover ⟨"file:///a", ⟨2, 0⟩⟩) 2, .respond ["WORKSPACE"] 3, .respond ["int a"] 3]

theorem lateSymbols_faithful : exists last, (begin ready).run? lateSymbols = some last ∧
    last.deliveries.map (fun delivery => delivery.settled.map Settlement.id) = [[], [2]] ∧
    forall delivery, delivery ∈ last.deliveries -> delivery.Faithful := by
  have ran : ((begin ready).run? lateSymbols).isSome := by decide +kernel
  rcases Option.isSome_iff_exists.mp ran with ⟨last, reached⟩
  have shown : ((begin ready).run? lateSymbols).map (fun exchange =>
      exchange.deliveries.map (fun delivery => delivery.settled.map Settlement.id)) =
        some [[], [2]] := by decide +kernel
  rw [reached] at shown
  refine ⟨last, reached, Option.some.inj shown, ?_⟩
  apply (responses_reach_own_requests_iff (by decide +kernel) (by decide +kernel)
    (by decide +kernel) (by decide) reached).mpr
  simp [lateSymbols, Ledger.empty, Ledger.Untangled, Ledger.enter, Ledger.Overtaken,
    Wire.Query.kind]

/-- An exception abandons a hover, and another hover is asked before its response comes. -/
def lateHover : List Turn :=
  [.ask 0 (.hover ⟨"file:///a", ⟨0, 0⟩⟩) 0, .ask 1 (.hover ⟨"file:///a", ⟨1, 0⟩⟩) 0,
    .raise ["boom"] 0, .ask 2 (.hover ⟨"file:///a", ⟨2, 0⟩⟩) 0, .respond ["second"] 0]

/-- The response to the abandoned hover settles the newer one. -/
theorem responses_can_go_astray :
    ¬forall (pipeline : Pipeline) (turns : List Turn) (last : Exchange),
      pipeline.phase = .analysed -> pipeline.attached = true ->
      pipeline.waiting = Waiting.empty -> ((Turn.requests turns).map Pending.id).Nodup ->
      (begin pipeline).run? turns = some last ->
      forall delivery, delivery ∈ last.deliveries -> delivery.Faithful := by
  intro always
  have ran : ((begin ready).run? lateHover).isSome := by decide +kernel
  rcases Option.isSome_iff_exists.mp ran with ⟨last, reached⟩
  have faithful := always ready lateHover last (by decide +kernel) (by decide +kernel)
    (by decide +kernel) (by decide) reached
  have shown : ((begin ready).run? lateHover).map (fun exchange =>
      exchange.deliveries.map (fun delivery =>
        (delivery.request.id, delivery.settled.map Settlement.id))) =
        some [(1, [2])] := by decide +kernel
  rw [reached] at shown
  rcases List.map_eq_cons_iff.mp (Option.some.inj shown) with ⟨delivery, rest, made, ids, _⟩
  have sameRequest : delivery.request.id = 1 := congrArg Prod.fst ids
  have settledIds : delivery.settled.map Settlement.id = [2] := congrArg Prod.snd ids
  rcases List.map_eq_cons_iff.mp settledIds with ⟨settlement, others, settled, id, _⟩
  have own := faithful delivery (by rw [made]; exact List.mem_cons_self) settlement
    (by rw [settled]; exact List.mem_cons_self)
  rw [own, sameRequest] at id
  exact nomatch id

end Exchange
end Session
end LanguageServer
