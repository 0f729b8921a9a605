import LanguageServer.Proofs.Attachment
import LanguageServer.Proofs.Occasions

namespace LanguageServer
namespace Session

/-!
# Requests of one kind are settled in order, unless one is overtaken

A response settles the oldest request of its kind, and whatever settles more than one request
settles all that wait.  So requests that wait are settled in the order in which they were made.  A
request that does not wait is settled at once, and is in its place only if no older request of its
kind waits.

Nobody waits while there is no compiler, while it is starting, after an abort and after the end of
the session.  But a compiler that answers requests may say once more that it listens, or that it
started afresh.  The requests that wait stay, and until the next analysis every new request is
settled at once.  This is the only way in which a request can overtake another one of its kind.
-/

namespace Pending

/-- The numbers of the requests of one kind, in order. -/
def idsOf (kind : RequestKind) (requests : List Pending) : List RequestId :=
  (requests.filter (fun request => request.kind = kind)).map Pending.id

theorem mem_idsOf {kind : RequestKind} {requests : List Pending} {id : RequestId} :
    id ∈ idsOf kind requests ↔ ⟨kind, id⟩ ∈ requests :=
  @Waiting.mem_ofKind ⟨requests⟩ kind id

theorem idsOf_append (kind : RequestKind) (earlier later : List Pending) :
    idsOf kind (earlier ++ later) = idsOf kind earlier ++ idsOf kind later := by
  rw [idsOf, List.filter_append, List.map_append, idsOf, idsOf]

theorem idsOf_singleton (kind : RequestKind) (request : Pending) :
    idsOf kind [request] = if request.kind = kind then [request.id] else [] := by
  by_cases same : request.kind = kind <;> simp [idsOf, same]

/-- A number belongs to the requests of one kind only. -/
theorem id_mem_idsOf {kind : RequestKind} {requests : List Pending} {request : Pending}
    (distinct : (requests.map Pending.id).Nodup) (made : request ∈ requests) :
    request.id ∈ idsOf kind requests ↔ request.kind = kind := by
  rw [mem_idsOf]
  constructor
  · intro member
    exact congrArg Pending.kind (Pipeline.Accounted.eq_of_id_eq distinct made member rfl)
  · intro same
    rw [← same]
    exact made

theorem nodup_of_append {earlier later : List Pending}
    (distinct : ((earlier ++ later).map Pending.id).Nodup) : (earlier.map Pending.id).Nodup := by
  rw [List.map_append] at distinct
  exact (List.nodup_append.mp distinct).1

theorem idsOf_sublist (kind : RequestKind) (requests : List Pending) :
    (idsOf kind requests).Sublist (requests.map Pending.id) :=
  List.filter_sublist.map Pending.id

end Pending

namespace Pipeline

/-! ## Settled, then waiting, is what was made -/

/-- For each kind, the requests that are settled, in the order in which they were settled, and
behind them those that wait, are the requests that were made. -/
structure Sequenced (requests : List Pending) (pipeline : Pipeline) : Prop where
  books : Accounted requests pipeline
  order : forall kind,
    (pipeline.settled.map Settlement.id).filter (fun id => id ∈ Pending.idsOf kind requests) ++
      pipeline.waiting.ofKind kind = Pending.idsOf kind requests

namespace Sequenced

variable {requests : List Pending} {before after : Pipeline}

theorem leaves (sequenced : Sequenced requests before) (quiet : LeavesRequests before after) :
    Sequenced requests after := by
  refine ⟨sequenced.books.leaves quiet, ?_⟩
  rw [quiet.settled, quiet.waiting]
  exact sequenced.order

/-- Where only one kind has a part, the parts of all kinds together are that part. -/
private theorem flatMap_of_alone {Item : Type} {kinds : List RequestKind} {kind : RequestKind}
    {parts : RequestKind -> List Item} (once : kinds.Nodup) (member : kind ∈ kinds)
    (alone : forall other, other ≠ kind -> parts other = []) :
    kinds.flatMap parts = parts kind := by
  induction kinds with
  | nil => cases member
  | cons first rest inductionHypothesis =>
      rw [List.nodup_cons] at once
      rw [List.flatMap_cons]
      by_cases same : first = kind
      · subst same
        have behind : rest.flatMap parts = [] := by
          rw [List.flatMap_eq_nil_iff]
          intro other later
          exact alone other (fun equal => once.1 (equal ▸ later))
        rw [behind, List.append_nil]
      · rw [alone first same, List.nil_append]
        exact inductionHypothesis once.2 (List.mem_of_ne_of_mem (Ne.symm same) member)

theorem settlesAll (distinct : (requests.map Pending.id).Nodup)
    (sequenced : Sequenced requests before) {outcome : RequestKind -> Outcome}
    (drained : SettlesAll outcome before after) : Sequenced requests after := by
  refine ⟨sequenced.books.settlesAll drained, ?_⟩
  intro kind
  obtain ⟨kinds, once, complete, settled⟩ := drained.settled
  have belongs : forall other id, id ∈ before.waiting.ofKind other ->
      (id ∈ Pending.idsOf kind requests ↔ other = kind) := by
    intro other id queued
    exact Pending.id_mem_idsOf distinct
      (sequenced.books.order.subset (Waiting.mem_ofKind.mp queued))
  -- Every queue is drained in order, and only one of them holds requests of this kind.
  have told : ((kinds.flatMap (fun other =>
      (before.waiting.ofKind other).map (fun id => Settlement.mk id (outcome other)))).map
        Settlement.id).filter (fun id => id ∈ Pending.idsOf kind requests) =
          before.waiting.ofKind kind := by
    rw [List.map_flatMap, List.filter_flatMap]
    refine (flatMap_of_alone once (complete kind) ?_).trans ?_
    · intro other different
      rw [List.filter_eq_nil_iff]
      intro id member isOfKind
      rw [List.map_map, Function.comp_def, List.map_id'] at member
      exact different ((belongs other id member).mp (of_decide_eq_true isOfKind))
    · rw [List.map_map, Function.comp_def, List.map_id', List.filter_eq_self]
      intro id queued
      exact decide_eq_true ((belongs kind id queued).mpr rfl)
  have nobody : Waiting.empty.ofKind kind = [] := rfl
  rw [settled, drained.waiting, List.map_append, List.filter_append, told, nobody,
    List.append_nil]
  exact sequenced.order kind

theorem settlesFirst (distinct : (requests.map Pending.id).Nodup)
    (sequenced : Sequenced requests before) {kind : RequestKind} {id : RequestId}
    {outcome : Outcome} (settling : SettlesFirst kind id outcome before after) :
    Sequenced requests after := by
  refine ⟨sequenced.books.settlesFirst settling, ?_⟩
  intro other
  have waits : ⟨kind, id⟩ ∈ before.waiting.requests := by
    apply Waiting.mem_ofKind.mp
    rw [settling.answered.ofKind]
    exact List.mem_cons_self
  have belongs : id ∈ Pending.idsOf other requests ↔ kind = other :=
    Pending.id_mem_idsOf distinct (sequenced.books.order.subset waits)
  have law := sequenced.order other
  rw [settling.settled, List.map_append, List.filter_append]
  by_cases same : kind = other
  · subst other
    rw [settling.answered.ofKind] at law
    simpa [belongs] using law
  · rw [settling.answered.others other (Ne.symm same)]
    simpa [belongs, same] using law

theorem kept (distinct : (requests.map Pending.id).Nodup) :
    KeptBySettling (Sequenced requests) where
  leaves := fun sequenced quiet => sequenced.leaves quiet
  settlesAll := fun sequenced drained => sequenced.settlesAll distinct drained
  settlesFirst := fun sequenced settling => sequenced.settlesFirst distinct settling

/-! ## New requests -/

/-- A new request is not among those that were settled before. -/
theorem filter_entered (sequenced : Sequenced requests before) (request : Pending)
    (distinct : ((requests ++ [request]).map Pending.id).Nodup) (kind : RequestKind) :
    (before.settled.map Settlement.id).filter
        (fun id => id ∈ Pending.idsOf kind (requests ++ [request])) =
      (before.settled.map Settlement.id).filter (fun id => id ∈ Pending.idsOf kind requests) := by
  apply List.filter_congr
  intro id settled
  have made : id ∈ requests.map Pending.id :=
    sequenced.books.tally.subset (List.mem_append_left _ settled)
  have different : id ≠ request.id := by
    rw [List.map_append, List.nodup_append] at distinct
    exact distinct.2.2 id made request.id (by simp)
  apply decide_eq_decide.mpr
  rw [Pending.mem_idsOf, Pending.mem_idsOf, List.mem_append]
  constructor
  · rintro (earlier | new)
    · exact earlier
    · have same := congrArg Pending.id (List.mem_singleton.mp new)
      exact absurd same different
  · exact Or.inl

/-- A request that is settled at once is in its place if nobody of its kind waits. -/
theorem settlesAtOnce (sequenced : Sequenced requests before) (request : Pending)
    {outcome : Outcome} (distinct : ((requests ++ [request]).map Pending.id).Nodup)
    (nobody : before.waiting.ofKind request.kind = [])
    (waiting : after.waiting = before.waiting) (phase : after.phase = before.phase)
    (settled : after.settled = before.settled ++ [⟨request.id, outcome⟩]) :
    Sequenced (requests ++ [request]) after := by
  refine ⟨sequenced.books.settlesAtOnce request waiting phase settled, ?_⟩
  intro kind
  have law := sequenced.order kind
  have belongs : request.id ∈ Pending.idsOf kind (requests ++ [request]) ↔ request.kind = kind :=
    Pending.id_mem_idsOf distinct (by simp)
  have entered : [request.id].filter
      (fun id => id ∈ Pending.idsOf kind (requests ++ [request])) =
        Pending.idsOf kind [request] := by
    rw [Pending.idsOf_singleton]
    by_cases same : request.kind = kind <;> simp [belongs, same]
  rw [settled, waiting, List.map_append, List.filter_append,
    sequenced.filter_entered request distinct, List.map_singleton, entered, Pending.idsOf_append]
  by_cases same : request.kind = kind
  · rw [same] at nobody
    rw [nobody, List.append_nil] at law ⊢
    rw [law]
  · rw [Pending.idsOf_singleton, if_neg same, List.append_nil, List.append_nil]
    exact law

/-- A request that waits stands behind all that were made before it. -/
theorem queued (sequenced : Sequenced requests before) (request : Pending)
    (distinct : ((requests ++ [request]).map Pending.id).Nodup)
    (books : Accounted (requests ++ [request]) after)
    (waiting : after.waiting = before.waiting.expect request.kind request.id)
    (settled : after.settled = before.settled) : Sequenced (requests ++ [request]) after := by
  refine ⟨books, ?_⟩
  intro kind
  have law := sequenced.order kind
  have queue : (before.waiting.expect request.kind request.id).ofKind kind =
      before.waiting.ofKind kind ++ Pending.idsOf kind [request] :=
    Pending.idsOf_append kind before.waiting.requests [request]
  rw [settled, waiting, sequenced.filter_entered request distinct, queue, ← List.append_assoc, law,
    ← Pending.idsOf_append]

end Sequenced
end Pipeline

/-! ## Turns of the supervisor -/

namespace Supervisor

variable {supervisor : Supervisor} {requests : List Pending}

/-- A turn that is asked for nothing leaves the requests alone or settles them. -/
theorem step_settling {motive : Pipeline -> Prop} (kept : Pipeline.KeptBySettling motive)
    (held : motive supervisor.pipeline) (launch : Launcher) (now : Instant) {input : Input}
    (unasked : input.request? = none) : motive (supervisor.step launch now input).pipeline := by
  have silent := turn_requests supervisor launch now input
  rw [unasked] at silent
  refine moves?_induction (motive := fun moves next =>
    moves.filterMap Move.request? = [] -> motive next.pipeline) ?_ ?_
    (moves?_turn supervisor launch now input) silent
  · intro _
    rw [noted_pipeline]
    exact held
  · intro earlier before after move heldBefore made silent
    rw [List.filterMap_append, List.append_eq_nil_iff] at silent
    have quiet : move.request? = none := by simpa using silent.2
    exact move?_settling kept (heldBefore silent.1) quiet made

/-- A turn that is asked for something keeps the order if a request that is not to be answered by
the compiler finds nobody of its kind. -/
theorem sequenced_request {id : RequestId} {query : Wire.Query}
    (distinct : ((requests ++ [Pending.mk query.kind id]).map Pending.id).Nodup)
    (sequenced : Pipeline.Sequenced requests supervisor.pipeline)
    (clear : (supervisor.ended = true ∨
        ¬(supervisor.pipeline.phase = .analysed ∧ supervisor.pipeline.attached = true)) ->
      supervisor.pipeline.waiting.ofKind query.kind = []) (launch : Launcher) (now : Instant) :
    Pipeline.Sequenced (requests ++ [⟨query.kind, id⟩])
      (supervisor.step launch now (.order (.request id query))).pipeline := by
  have told : forall pipeline : Pipeline, (pipeline.perform
      [.settle ⟨id, .error .closed⟩]).settled = pipeline.settled ++ [⟨id, .error .closed⟩] :=
    fun _ => settlements_append _ _
  unfold step
  split
  next ended =>
    exact sequenced.settlesAtOnce ⟨query.kind, id⟩ distinct (clear (Or.inl ended)) rfl rfl (told _)
  next =>
    change Pipeline.Sequenced _ (obey _ _ _ _).pipeline
    rw [obey]
    split
    next submitted =>
      rcases Pipeline.submit?_cases submitted with
        ⟨silent, waiting, phase, outcome, settled⟩ | ⟨waiting, _, _, settled⟩
      · exact sequenced.settlesAtOnce ⟨query.kind, id⟩ distinct (clear (Or.inr silent)) waiting
          phase settled
      · exact sequenced.queued ⟨query.kind, id⟩ distinct (sequenced.books.submit submitted) waiting
          settled
    next =>
      -- The session breaks down: everybody else is told first.
      have earlier := Pending.nodup_of_append distinct
      have killed : Pipeline.Sequenced requests supervisor.killCompiler.pipeline := by
        apply sequenced.leaves
        apply Pipeline.perform_leavesRequests
        simp [settlements]
      have dismissed : Pipeline.Sequenced requests supervisor.breakDown.pipeline :=
        killed.settlesAll earlier (Pipeline.rejectAll_settlesAll _ .closed)
      exact dismissed.settlesAtOnce ⟨query.kind, id⟩ distinct rfl rfl rfl (told _)

/-! ## Nobody waits after the end -/

theorem spawnCompiler_dismisses (supervisor : Supervisor)
    (idle : supervisor.processes.current = none) (going : supervisor.ended = false)
    {launch : Launcher} {now : Instant}
    (ended : (supervisor.spawnCompiler launch now).ended = true) :
    (supervisor.spawnCompiler launch now).pipeline.waiting = Waiting.empty := by
  rcases spawnCompiler_cases idle launch now with blocked | ⟨reason, failed⟩ | launched | broken
  · rw [blocked] at ended
    cases going.symm.trans ended
  · rw [failed] at ended
    cases going.symm.trans ended
  · rw [launched] at ended
    cases going.symm.trans ended
  · rw [broken]
    rfl

theorem stopCompiler_ended (supervisor : Supervisor) :
    supervisor.stopCompiler.ended = supervisor.ended := by
  unfold stopCompiler
  split <;> rfl

theorem obey_dismisses (coupled : supervisor.Coupled)
    (undemanding : supervisor.pipeline.Undemanding) (going : supervisor.ended = false)
    {launch : Launcher} {now : Instant} {given : Order}
    (ended : (supervisor.obey launch now given).ended = true) :
    (supervisor.obey launch now given).pipeline.waiting = Waiting.empty := by
  cases given with
  | start documents =>
      exact spawnCompiler_dismisses { supervisor.stopCompiler with
        pipeline := supervisor.stopCompiler.pipeline.load documents now }
        (stopCompiler_current supervisor) ((stopCompiler_ended supervisor).trans going) ended
  | edit document version => cases going.symm.trans ended
  | flush => cases going.symm.trans ended
  | request id query =>
      revert ended
      rw [obey]
      split
      next =>
        intro ended
        cases going.symm.trans ended
      next => exact fun _ => rfl
  | requestRestart => cases going.symm.trans ended
  | restart plan =>
      exact spawnCompiler_dismisses (stopCompiler { supervisor with
        plan := plan, pipeline := supervisor.pipeline.applyTiming plan.timing })
        (stopCompiler_current _) ((stopCompiler_ended _).trans going) ended
  | shutdown =>
      change supervisor.stopCompiler.pipeline.waiting = Waiting.empty
      cases live : supervisor.processes.current with
      | none =>
          rw [stopCompiler_of_idle live]
          exact (undemanding (coupled.idle live).2.not_taking).1
      | some generation =>
          rw [stopCompiler, Processes.isRunning, live, if_pos Option.isSome_some]
          rfl

theorem step_dismisses (coupled : supervisor.ended = false -> supervisor.Coupled)
    (undemanding : supervisor.pipeline.Undemanding)
    (held : supervisor.ended = true -> supervisor.pipeline.waiting = Waiting.empty)
    {launch : Launcher} {now : Instant} {input : Input}
    (ended : (supervisor.step launch now input).ended = true) :
    (supervisor.step launch now input).pipeline.waiting = Waiting.empty := by
  revert ended
  unfold step
  split
  next finished =>
    intro _
    cases input with
    | order given => cases given <;> exact held finished
    | signal received => exact held finished
    | editTimer => exact held finished
    | watchdogTimer => exact held finished
  next notEnded =>
    intro ended
    have going : supervisor.ended = false := Bool.eq_false_iff.mpr notEnded
    cases input with
    | order given => exact obey_dismisses (coupled going) undemanding going ended
    | editTimer => cases going.symm.trans ended
    | watchdogTimer => cases going.symm.trans ended
    | signal received =>
        change (hear _ _ _ _).ended = true at ended
        change (hear _ _ _ _).pipeline.waiting = Waiting.empty
        cases received with
        | output generation chunk =>
            rw [hear] at ended
            split at ended <;> cases going.symm.trans ended
        | exited generation status =>
            revert ended
            rw [hear]
            split
            next =>
              intro ended
              cases going.symm.trans ended
            next processes judged =>
              intro ended
              exact spawnCompiler_dismisses { supervisor with
                processes := processes, pipeline := supervisor.pipeline.recover status }
                (Processes.current_of_unexpected judged) going ended

end Supervisor

/-! ## Every run -/

/-- One request is settled while another one is not. -/
def SettledBefore (settled : List Settlement) (late early : RequestId) : Prop :=
  exists front back, settled.map Settlement.id = front ++ late :: back ∧ early ∉ front

/-- In a list without repetition, what stands before an entry in a sublist stands before it. -/
theorem mem_front_of_sublist {whole front back : List RequestId} {early late : RequestId}
    (distinct : whole.Nodup) (split : whole = front ++ late :: back)
    (inside : [early, late].Sublist whole) : early ∈ front := by
  rw [split] at distinct inside
  rcases List.sublist_append_iff.mp inside with ⟨left, right, parts, inFront, inBack⟩
  cases left with
  | cons head rest =>
      rw [List.cons_append, List.cons.injEq] at parts
      rw [parts.1]
      exact inFront.subset List.mem_cons_self
  | nil =>
      -- Both stand behind the front, so the later one stands there twice.
      rw [List.nil_append] at parts
      rw [← parts] at inBack
      have again : late ∈ back := inBack.tail.subset List.mem_cons_self
      rw [List.nodup_append, List.nodup_cons] at distinct
      exact absurd again distinct.2.1.1

/-- Requests of one kind are settled in the order in which they were made. -/
theorem Pipeline.Sequenced.not_settledBefore {requests : List Pending} {pipeline : Pipeline}
    (sequenced : Sequenced requests pipeline) (distinct : (requests.map Pending.id).Nodup)
    {early late : Pending} (made : [early, late].Sublist requests) (same : early.kind = late.kind) :
    ¬SettledBefore pipeline.settled late.id early.id := by
  rintro ⟨front, back, settled, unsettled⟩
  have belongs : late.id ∈ Pending.idsOf late.kind requests :=
    Pending.mem_idsOf.mpr (made.subset (by simp))
  have law := sequenced.order late.kind
  rw [settled, List.filter_append, List.filter_cons_of_pos (by simpa using belongs),
    List.append_assoc, List.cons_append] at law
  have inside : [early.id, late.id].Sublist (Pending.idsOf late.kind requests) := by
    have chosen := (made.filter (fun request => request.kind = late.kind)).map Pending.id
    simpa [Pending.idsOf, same] using chosen
  have nodup := distinct.sublist (Pending.idsOf_sublist late.kind requests)
  have first := mem_front_of_sublist nodup law.symm inside
  exact unsettled (List.mem_filter.mp first).1

namespace World

variable {world : World} {plan : Plan} {course : List (Circumstances × Happening)}

/-- A request is made while the compiler only listens and an older request of its kind waits. -/
def Overtakes (world : World) (happening : Happening) : Prop :=
  world.supervisor.pipeline.phase = .listening ∧
    exists request, happening.request? = some request ∧
      world.supervisor.pipeline.waiting.ofKind request.kind ≠ []

instance (world : World) (happening : Happening) : Decidable (world.Overtakes happening) :=
  match asked : happening.request? with
  | none => isFalse (by
      rintro ⟨_, request, made, _⟩
      cases asked.symm.trans made)
  | some request => decidable_of_iff (world.supervisor.pipeline.phase = .listening ∧
      world.supervisor.pipeline.waiting.ofKind request.kind ≠ []) (by simp [Overtakes, asked])

theorem dismissed_run (ran : (World.new plan).run? course = some world)
    (ended : world.supervisor.ended = true) :
    world.supervisor.pipeline.waiting = Waiting.empty := by
  have held := (run?_orderly (motive := fun _ world => world.supervisor.pipeline.Undemanding ∧
    (world.supervisor.ended = true -> world.supervisor.pipeline.waiting = Waiting.empty)) ?_ ?_
    ran).1
  · exact held.2 ended
  · exact ⟨fun _ => ⟨rfl, rfl⟩, fun _ => rfl⟩
  · rintro _ world next around happening ⟨undemanding, dismissed⟩ orderly taken
    refine ⟨undemanding_take undemanding orderly taken, ?_⟩
    rw [take?_supervisor taken]
    cases world.input? happening with
    | none => exact dismissed
    | some input =>
        exact Supervisor.step_dismisses (fun going => (orderly going).coupled) undemanding dismissed

/-- Whenever a request is not to be answered by the compiler, nobody waits, unless the compiler has
gone back to listening. -/
theorem nobody_waits (ran : (World.new plan).run? course = some world)
    (silent : world.supervisor.ended = true ∨ ¬(world.supervisor.pipeline.phase = .analysed ∧
      world.supervisor.pipeline.attached = true))
    (notListening : world.supervisor.pipeline.phase ≠ .listening) :
    world.supervisor.pipeline.waiting = Waiting.empty := by
  cases finished : world.supervisor.ended with
  | true => exact dismissed_run ran finished
  | false =>
      have orderly := orderly_run ran finished
      apply (undemanding_run ran _).1
      rintro (listening | analysed)
      · exact notListening listening
      · rw [finished] at silent
        cases live : world.supervisor.processes.current with
        | none =>
            exact (orderly.coupled.idle live).2.not_taking (Or.inr analysed)
        | some generation =>
            have attached := (orderly.coupled.live generation live).1
            simp [analysed, attached] at silent

theorem sequenced_take {next : World} {around : Circumstances} {happening : Happening}
    (ran : (World.new plan).run? course = some world)
    (distinct : ((requests course ++ happening.request?.toList).map Pending.id).Nodup)
    (sequenced : Pipeline.Sequenced (requests course) world.supervisor.pipeline)
    (clear : ¬world.Overtakes happening) (taken : world.take? around happening = some next) :
    Pipeline.Sequenced (requests course ++ happening.request?.toList)
      next.supervisor.pipeline := by
  have earlier := Pending.nodup_of_append distinct
  cases asked : happening.request? with
  | none =>
      have silent := input?_request world happening
      rw [asked] at silent
      rw [Option.toList_none, List.append_nil, take?_supervisor taken]
      cases given : world.input? happening with
      | none => exact sequenced
      | some input =>
          rw [given, Option.bind_some] at silent
          exact Supervisor.step_settling (Pipeline.Sequenced.kept earlier) sequenced _ _ silent
  | some request =>
      cases happening with
      | order given =>
          cases given with
          | request id query =>
              cases asked
              rw [take?_supervisor taken]
              apply Supervisor.sequenced_request distinct sequenced
              intro silent
              by_cases listening : world.supervisor.pipeline.phase = .listening
              · apply Decidable.byContradiction
                exact fun waits => clear ⟨listening, ⟨query.kind, id⟩, rfl, waits⟩
              · rw [nobody_waits ran silent listening]
                rfl
          | _ => cases asked
      | _ => cases asked

/-- If no request overtakes another one, all are settled in order. -/
theorem sequenced_run (ran : (World.new plan).run? course = some world)
    (distinct : ((requests course).map Pending.id).Nodup)
    (clear : forall earlier around happening later reached,
      course = earlier ++ (around, happening) :: later ->
      (World.new plan).run? earlier = some reached -> ¬reached.Overtakes happening) :
    Pipeline.Sequenced (requests course) world.supervisor.pipeline := by
  refine (run?_induction (motive := fun course world =>
    (World.new plan).run? course = some world ∧
      (((requests course).map Pending.id).Nodup ->
        (forall earlier around happening later reached,
          course = earlier ++ (around, happening) :: later ->
          (World.new plan).run? earlier = some reached -> ¬reached.Overtakes happening) ->
        Pipeline.Sequenced (requests course) world.supervisor.pipeline)) ?_ ?_ ran).2 distinct clear
  · exact ⟨rfl, fun _ _ => ⟨Pipeline.Accounted.new plan.timing, fun _ => rfl⟩⟩
  · rintro course world next around happening ⟨ran, held⟩ taken
    refine ⟨run?_append.mpr ⟨world, ran, ?_⟩, ?_⟩
    · rw [run?_singleton]
      exact taken
    · intro distinct clear
      rw [requests_append, requests_singleton] at distinct ⊢
      have earlier := Pending.nodup_of_append distinct
      refine sequenced_take ran distinct (held earlier ?_) ?_ taken
      · intro before since other later reached split
        apply clear before since other (later ++ [(around, happening)]) reached
        rw [split, List.append_assoc, List.cons_append]
      · exact clear course around happening [] world rfl ran

/-! ## The exact condition -/

/-- What was settled stays settled. -/
theorem run?_settled {last : World} (ran : world.run? course = some last) :
    exists more, last.supervisor.pipeline.settled = world.supervisor.pipeline.settled ++ more := by
  have grows : world.supervisor.Grows last.supervisor := by
    refine run?_induction (motive := fun _ last => world.supervisor.Grows last.supervisor)
      ⟨[], (List.append_nil _).symm⟩ ?_ ran
    intro _ before next around happening grown taken
    refine take?_keeps grown ?_ taken
    exact fun input => grown.trans (Supervisor.step_grows _ _ _ input)
  rcases grows with ⟨effects, outbox⟩
  refine ⟨settlements effects, ?_⟩
  change settlements last.supervisor.outbox = _
  rw [outbox, settlements_append]
  rfl

/-- While the compiler only listens, a request is settled at once. -/
theorem take?_listening {next : World} {around : Circumstances} {happening : Happening}
    {request : Pending} (going : world.supervisor.ended = false)
    (listening : world.supervisor.pipeline.phase = .listening)
    (asked : happening.request? = some request)
    (taken : world.take? around happening = some next) :
    next.supervisor.pipeline.settled =
      world.supervisor.pipeline.settled ++ [⟨request.id, .ok (Answer.empty request.kind)⟩] := by
  cases happening with
  | order given =>
      cases given with
      | request id query =>
          cases asked
          have submitted : world.supervisor.pipeline.submit? id query around.now =
              some (world.supervisor.pipeline.perform
                [.settle ⟨id, .ok (Answer.empty query.kind)⟩]) := by
            simp [Pipeline.submit?, listening]
          rw [take?_supervisor taken]
          change (Supervisor.step _ _ _ (.order (.request id query))).pipeline.settled = _
          rw [Supervisor.step, if_neg (Bool.eq_false_iff.mp going)]
          rw [Supervisor.obey, submitted]
          exact settlements_append _ _
      | _ => cases asked
  | _ => cases asked

/-- A request that overtakes is settled while an older one of its kind is not. -/
theorem settledBefore_of_overtakes {reached : World} {around : Circumstances}
    {earlier later : List (Circumstances × Happening)} {happening : Happening}
    (ranEarlier : (World.new plan).run? earlier = some reached)
    (ran : reached.run? ((around, happening) :: later) = some world)
    (distinct : ((requests earlier).map Pending.id).Nodup)
    (overtakes : reached.Overtakes happening) :
    exists early late, early ∈ requests earlier ∧ happening.request? = some late ∧
      early.kind = late.kind ∧
      SettledBefore world.supervisor.pipeline.settled late.id early.id := by
  rcases overtakes with ⟨listening, late, asked, waits⟩
  rcases List.exists_mem_of_ne_nil _ waits with ⟨early, queued⟩
  have books := accounted_run ranEarlier
  have waiting := Waiting.mem_ofKind.mp queued
  have made := books.order.subset waiting
  have going : reached.supervisor.ended = false := by
    apply Bool.eq_false_iff.mpr
    intro ended
    rw [dismissed_run ranEarlier ended] at waiting
    cases waiting
  rcases run?_cons ran with ⟨next, taken, ranLater⟩
  rcases run?_settled ranLater with ⟨more, settled⟩
  rw [take?_listening going listening asked taken] at settled
  refine ⟨⟨late.kind, early⟩, late, made, asked, rfl,
    reached.supervisor.pipeline.settled.map Settlement.id, more.map Settlement.id, ?_, ?_⟩
  · rw [settled]
    simp
  · exact List.count_eq_zero.mp ((books.mem_waiting_iff distinct made).mp waiting)

/-- Requests of one kind are settled in the order in which they are made, exactly if no request is
made while the compiler has gone back to listening and an older request of its kind still waits.
This holds for every course of events and everything that compilers may say. -/
theorem settled_in_order_iff_none_overtakes (ran : (World.new plan).run? course = some world)
    (distinct : ((requests course).map Pending.id).Nodup) :
    (forall early late, [early, late].Sublist (requests course) -> early.kind = late.kind ->
      ¬SettledBefore world.supervisor.pipeline.settled late.id early.id) ↔
    forall earlier around happening later reached,
      course = earlier ++ (around, happening) :: later ->
      (World.new plan).run? earlier = some reached -> ¬reached.Overtakes happening := by
  constructor
  · intro ordered earlier around happening later reached split ranEarlier overtakes
    subst course
    rcases run?_append.mp ran with ⟨middle, ranMiddle, ranLater⟩
    cases ranEarlier.symm.trans ranMiddle
    rw [requests_append] at ordered distinct
    have distinctEarlier := Pending.nodup_of_append distinct
    rcases settledBefore_of_overtakes ranEarlier ranLater distinctEarlier overtakes with
      ⟨early, late, older, asked, same, before⟩
    have newer : late ∈ requests ((around, happening) :: later) :=
      List.mem_filterMap.mpr ⟨(around, happening), List.mem_cons_self, asked⟩
    refine ordered early late ?_ same before
    exact (List.singleton_sublist.mpr older).append (List.singleton_sublist.mpr newer)
  · intro clear early late made same
    exact (sequenced_run ran distinct clear).not_settledBefore distinct made same

/-- Goes through a course and looks whether a request overtakes another one. -/
def unhurried (world : World) : List (Circumstances × Happening) -> Bool
  | [] => true
  | (around, happening) :: later =>
      !decide (world.Overtakes happening) &&
        (world.take? around happening).all (fun next => next.unhurried later)

theorem not_overtakes_of_unhurried {first reached : World} {around : Circumstances}
    {happening : Happening} {earlier later : List (Circumstances × Happening)}
    (checked : first.unhurried (earlier ++ (around, happening) :: later) = true)
    (ran : first.run? earlier = some reached) : ¬reached.Overtakes happening := by
  induction earlier generalizing first with
  | nil =>
      cases ran
      simp only [List.nil_append, unhurried, Bool.and_eq_true, Bool.not_eq_true',
        decide_eq_false_iff_not] at checked
      exact checked.1
  | cons moment earlier step =>
      rcases moment with ⟨before, other⟩
      rcases run?_cons ran with ⟨next, taken, ranLater⟩
      simp only [List.cons_append, unhurried, taken, Option.all_some, Bool.and_eq_true] at checked
      exact step checked.2 ranLater

/-- A compiler that was asked for a hover goes back to listening, and then this happens. -/
def listeningAgain (rest : List Happening) : List (Circumstances × Happening) :=
  let course := [.order (.start []),
    .print 1 (Text.Utf8.bytesOf "LISTEN\n\x0cANALYSED\n\x0c"), .hear,
    .order (.request 0 (.hover ⟨"file:///a", ⟨0, 0⟩⟩)),
    .print 1 (Text.Utf8.bytesOf "LISTEN\n\x0c"), .hear] ++ rest
  course.map (fun happening => (⟨0, fun _ => .ok (), "killed"⟩, happening))

/-- Symbols are sought while the compiler listens, and the next hover is asked for after that. -/
def patiently : List (Circumstances × Happening) :=
  listeningAgain [.order (.request 1 (.symbols none)),
    .print 1 (Text.Utf8.bytesOf "ANALYSED\n\x0c"), .hear,
    .order (.request 2 (.hover ⟨"file:///a", ⟨1, 0⟩⟩)),
    .print 1 (Text.Utf8.bytesOf "HOVER\nint a\n\x0cHOVER\nint b\n\x0c"), .hear]

def inTurn : World :=
  ((World.new ⟨CompilerPlan.default, [], Timing.default⟩).run? patiently).get (by decide +kernel)

theorem hovers_settled_in_turn :
    inTurn.supervisor.pipeline.settled.map Settlement.id = [1, 0, 2] ∧
      ¬SettledBefore inTurn.supervisor.pipeline.settled 2 0 := by
  have ran : (World.new ⟨CompilerPlan.default, [], Timing.default⟩).run? patiently = some inTurn :=
    (Option.some_get _).symm
  have checked :
      (World.new ⟨CompilerPlan.default, [], Timing.default⟩).unhurried patiently = true := by
    decide +kernel
  refine ⟨by decide +kernel, ?_⟩
  refine (settled_in_order_iff_none_overtakes ran (by decide +kernel)).mpr ?_
    ⟨.hover, 0⟩ ⟨.hover, 2⟩ (by decide +kernel) rfl
  intro earlier around happening later reached split ranEarlier
  rw [split] at checked
  exact not_overtakes_of_unhurried checked ranEarlier

/-- Another hover is asked for while the compiler listens. -/
def impatiently : List (Circumstances × Happening) :=
  listeningAgain [.order (.request 1 (.hover ⟨"file:///a", ⟨1, 0⟩⟩))]

def overtaken : World :=
  ((World.new ⟨CompilerPlan.default, [], Timing.default⟩).run? impatiently).get (by decide +kernel)

/-- A request can be settled although an older one of its kind still waits. -/
theorem older_request_can_be_overtaken :
    ¬forall (plan : Plan) (course : List (Circumstances × Happening)) (world : World),
      (World.new plan).run? course = some world -> ((requests course).map Pending.id).Nodup ->
      forall early late, [early, late].Sublist (requests course) -> early.kind = late.kind ->
        ¬SettledBefore world.supervisor.pipeline.settled late.id early.id := by
  intro ordered
  have ran : (World.new ⟨CompilerPlan.default, [], Timing.default⟩).run? impatiently =
      some overtaken := (Option.some_get _).symm
  have settled : overtaken.supervisor.pipeline.settled.map Settlement.id = [1] := by decide +kernel
  refine ordered _ _ overtaken ran (by decide +kernel) ⟨.hover, 0⟩ ⟨.hover, 1⟩
    (by decide +kernel) rfl ⟨[], [], settled, ?_⟩
  exact List.not_mem_nil

end World
end Session
end LanguageServer
