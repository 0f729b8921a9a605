import LanguageServer.Proofs.World

namespace LanguageServer
namespace Session

/-!
# Which exits are crashes

The books on processes have one flag for all generations: it is raised when a process is stopped
and lowered by the next exit that arrives, whichever process that is of.  Here the books stand by
themselves, next to the processes and the queue of signals that they are about, and are driven in
any order: processes are started and stopped, a launch fails, a process prints or exits at any
time, and signals are delivered from the front of the queue.  A watchdog that barks stops the
process like anybody else.

Two things make the flag enough.  Stopping waits until the exit of the process is in the queue, so
exits stand in the queue in the order of launches.  And the queue is first in, first out, so when
the exit of the live process arrives, no other exit is behind it and the flag is down.

The lists of launches, stops and verdicts are kept for the laws only; no action looks at them.
-/

structure Fleet where
  processes : Processes
  running : Option Nat
  signals : List Signal
  launched : List Nat
  stopped : List Nat
  /-- The exits that were delivered, and what was made of them. -/
  verdicts : List (Nat × Disposition)

namespace Fleet

inductive Action where
  /-- Replace the live process by another one, if that can be launched. -/
  | start (succeeds : Bool) (killed : String)
  | stop (killed : String)
  /-- The process that runs exits by itself. -/
  | exit (status : String)
  | print (generation : Nat) (chunk : List UInt8)
  | deliver

def new : Fleet :=
  { processes := Processes.new, running := none, signals := [], launched := [], stopped := [],
    verdicts := [] }

/-- Stop the live process, and wait for its exit if it still runs. -/
def halt (fleet : Fleet) (killed : String) : Fleet :=
  match fleet.processes.current with
  | none => fleet
  | some generation =>
      let left :=
        if fleet.running = some generation then
          { fleet with
            running := none, signals := fleet.signals ++ [.exited generation killed] }
        else fleet
      { left with
        processes := fleet.processes.stop, stopped := fleet.stopped ++ [generation] }

def attempt (fleet : Fleet) (succeeds : Bool) : Fleet :=
  let begun := fleet.processes.beginLaunch
  if succeeds then
    { fleet with
      processes := begun.launched
      running := some begun.generation
      launched := fleet.launched ++ [begun.generation] }
  else { fleet with processes := begun }

/-- Deliver the oldest signal. -/
def deliver? (fleet : Fleet) : Option Fleet :=
  match fleet.signals with
  | [] => none
  | .output .. :: rest => some { fleet with signals := rest }
  | .exited generation _ :: rest =>
      let (verdict, processes) := fleet.processes.classifyExit generation
      some { fleet with
        signals := rest
        processes := processes
        verdicts := fleet.verdicts ++ [(generation, verdict)] }

def act? (fleet : Fleet) : Action -> Option Fleet
  | .start succeeds killed => some ((fleet.halt killed).attempt succeeds)
  | .stop killed => some (fleet.halt killed)
  | .exit status =>
      fleet.running.map (fun generation =>
        { fleet with running := none, signals := fleet.signals ++ [.exited generation status] })
  | .print generation chunk =>
      if generation ≤ fleet.processes.generation then
        some { fleet with signals := fleet.signals ++ [.output generation chunk] }
      else none
  | .deliver => fleet.deliver?

def run? (fleet : Fleet) (actions : List Action) : Option Fleet :=
  actions.foldlM act? fleet

structure Accurate (fleet : Fleet) : Prop where
  tracked : Tracked fleet.processes fleet.running (Signal.exits fleet.signals)
  /-- A process that was launched has had its exit judged, or its exit is on its way, or it runs,
  in the order of launches. -/
  ledger : fleet.verdicts.map Prod.fst ++ Signal.exits fleet.signals ++ fleet.running.toList =
    fleet.launched
  ascending : fleet.launched.Pairwise (fun earlier later => earlier < later)
  bounded : forall generation, generation ∈ fleet.launched ->
    generation ≤ fleet.processes.generation
  stopped : forall generation, generation ∈ fleet.stopped ->
    generation ≤ fleet.processes.generation ∧ fleet.processes.current ≠ some generation
  /-- An exit on its way is that of the live process or was asked for. -/
  parted : forall generation, generation ∈ Signal.exits fleet.signals ->
    fleet.processes.current = some generation ∨ generation ∈ fleet.stopped
  judged : forall generation verdict, (generation, verdict) ∈ fleet.verdicts ->
    (verdict = .unexpected ↔ generation ∉ fleet.stopped)

namespace Accurate

variable {fleet : Fleet}

theorem new : Accurate Fleet.new :=
  ⟨Tracked.new, rfl, List.Pairwise.nil, nofun, nofun, nofun, nofun⟩

/-- A process whose exit was delivered is not live. -/
theorem not_live (accurate : Accurate fleet) {generation : Nat} {verdict : Disposition}
    (delivered : (generation, verdict) ∈ fleet.verdicts) :
    fleet.processes.current ≠ some generation := by
  intro live
  have ascending := accurate.ascending
  rw [← accurate.ledger, List.append_assoc, List.pairwise_append] at ascending
  have judged : generation ∈ fleet.verdicts.map Prod.fst := List.mem_map_of_mem delivered
  have remaining : generation ∈ Signal.exits fleet.signals ++ fleet.running.toList := by
    rcases accurate.tracked.present generation live with runs | left
    · rw [runs]
      exact List.mem_append_right _ (List.mem_singleton.mpr rfl)
    · exact List.mem_append_left _ left
  exact Nat.lt_irrefl _ (ascending.2.2 generation judged generation remaining)

theorem halt (accurate : Accurate fleet) (killed : String) : Accurate (fleet.halt killed) := by
  rw [Fleet.halt]
  cases live : fleet.processes.current with
  | none => exact accurate
  | some generation =>
      have newest := accurate.tracked.latest generation live
      have sameGeneration := Processes.stop_generation fleet.processes
      have idle := Processes.stop_current fleet.processes
      have tracked := accurate.tracked.stop live
      have bounded : forall other, other ∈ fleet.launched ->
          other ≤ fleet.processes.stop.generation := by
        rw [sameGeneration]
        exact accurate.bounded
      have stopped : forall other, other ∈ fleet.stopped ++ [generation] ->
          other ≤ fleet.processes.stop.generation ∧
            fleet.processes.stop.current ≠ some other := by
        intro other member
        rw [sameGeneration, idle]
        refine ⟨?_, nofun⟩
        rcases List.mem_append.mp member with earlier | last
        · exact (accurate.stopped other earlier).1
        · rw [List.mem_singleton.mp last]
          omega
      have askedFor : forall other, other ∈ Signal.exits fleet.signals ->
          other ∈ fleet.stopped ++ [generation] := by
        intro other member
        rcases accurate.parted other member with current | before
        · rw [live] at current
          exact List.mem_append_right _
            (List.mem_singleton.mpr (Option.some.inj current).symm)
        · exact List.mem_append_left _ before
      have judged : forall other verdict, (other, verdict) ∈ fleet.verdicts ->
          (verdict = .unexpected ↔ other ∉ fleet.stopped ++ [generation]) := by
        intro other verdict delivered
        have different : other ≠ generation := by
          intro same
          exact accurate.not_live delivered (same ▸ live)
        rw [accurate.judged other verdict delivered]
        simp [different]
      by_cases runs : fleet.running = some generation
      · rw [if_pos runs] at tracked
        have ledger := accurate.ledger
        rw [runs] at ledger
        simp only [if_pos runs]
        refine ⟨?_, ?_, accurate.ascending, bounded, stopped, ?_, judged⟩
        · rw [Signal.exits_append]
          exact tracked
        · rw [Signal.exits_append, ← List.append_assoc]
          exact (List.append_nil _).trans ledger
        · intro other member
          rw [Signal.exits_append] at member
          rcases List.mem_append.mp member with before | last
          · exact Or.inr (askedFor other before)
          · exact Or.inr (List.mem_append_right _ last)
      · have nothing := accurate.tracked.running_of_live live runs
        rw [if_neg runs, ← nothing] at tracked
        simp only [if_neg runs]
        exact ⟨tracked, accurate.ledger, accurate.ascending, bounded, stopped,
          fun other member => Or.inr (askedFor other member), judged⟩

theorem attempt (accurate : Accurate fleet) (idle : fleet.processes.current = none)
    (succeeds : Bool) : Accurate (fleet.attempt succeeds) := by
  have begun := Tracked.beginLaunch_of_idle idle
  have asked : forall generation, generation ∈ Signal.exits fleet.signals ->
      generation ∈ fleet.stopped := by
    intro generation member
    rcases accurate.parted generation member with current | before
    · cases idle.symm.trans current
    · exact before
  cases succeeds with
  | false =>
      have tracked := accurate.tracked.fail idle
      rw [Fleet.attempt, if_neg Bool.false_ne_true]
      refine ⟨tracked, accurate.ledger, accurate.ascending, ?_, ?_, ?_, accurate.judged⟩
      · intro generation member
        rw [begun]
        exact Nat.le_succ_of_le (accurate.bounded generation member)
      · intro generation member
        rw [begun]
        exact ⟨Nat.le_succ_of_le (accurate.stopped generation member).1,
          (accurate.stopped generation member).2⟩
      · exact fun generation member => Or.inr (asked generation member)
  | true =>
      have tracked := accurate.tracked.launch idle
      have nothing := accurate.tracked.running_of_idle idle
      have ledger := accurate.ledger
      rw [nothing, Option.toList_none, List.append_nil] at ledger
      rw [Fleet.attempt, if_pos rfl, begun]
      rw [begun] at tracked
      refine ⟨tracked, ?_, ?_, ?_, ?_, ?_, accurate.judged⟩
      · rw [ledger]
        rfl
      · rw [List.pairwise_append]
        refine ⟨accurate.ascending, List.pairwise_singleton _ _, ?_⟩
        intro earlier member later last
        rw [List.mem_singleton.mp last]
        exact Nat.lt_succ_of_le (accurate.bounded earlier member)
      · intro generation member
        rcases List.mem_append.mp member with before | last
        · exact Nat.le_succ_of_le (accurate.bounded generation before)
        · exact Nat.le_of_eq (List.mem_singleton.mp last)
      · intro generation member
        have bound := (accurate.stopped generation member).1
        refine ⟨Nat.le_succ_of_le bound, ?_⟩
        intro current
        have same : fleet.processes.generation + 1 = generation := Option.some.inj current
        omega
      · exact fun generation member => Or.inr (asked generation member)

theorem exit (accurate : Accurate fleet) {generation : Nat}
    (runs : fleet.running = some generation) (status : String) :
    Accurate { fleet with
      running := none, signals := fleet.signals ++ [.exited generation status] } := by
  have ledger := accurate.ledger
  rw [runs] at ledger
  refine ⟨?_, ?_, accurate.ascending, accurate.bounded, accurate.stopped, ?_, accurate.judged⟩
  · rw [Signal.exits_append]
    exact accurate.tracked.exit runs
  · rw [Signal.exits_append, ← List.append_assoc]
    exact (List.append_nil _).trans ledger
  · intro other member
    rw [Signal.exits_append] at member
    rcases List.mem_append.mp member with before | last
    · exact accurate.parted other before
    · rw [List.mem_singleton.mp last]
      exact Or.inl (accurate.tracked.known generation runs)

/-- Output makes no difference. -/
theorem hear (accurate : Accurate fleet) {signals : List Signal}
    (sameExits : Signal.exits signals = Signal.exits fleet.signals) :
    Accurate { fleet with signals := signals } := by
  refine ⟨?_, ?_, accurate.ascending, accurate.bounded, accurate.stopped, ?_, accurate.judged⟩
  · rw [sameExits]
    exact accurate.tracked
  · rw [sameExits]
    exact accurate.ledger
  · rw [sameExits]
    exact accurate.parted

/-- When an exit is delivered, it is a crash exactly if it is that of the live process, and exactly
if nobody asked for it. -/
theorem verdict (accurate : Accurate fleet) {generation : Nat} {status : String}
    {rest : List Signal} (signals : fleet.signals = .exited generation status :: rest) :
    ((fleet.processes.classifyExit generation).1 = .unexpected ↔
        fleet.processes.current = some generation) ∧
      (fleet.processes.current = some generation ↔ generation ∉ fleet.stopped) := by
  have tracked := accurate.tracked
  rw [signals] at tracked
  constructor
  · rw [tracked.classifyExit_eq]
    split
    next live => simp [live]
    next other => simp [other]
  · constructor
    · intro live stopped
      exact (accurate.stopped generation stopped).2 live
    · intro never
      have waits : generation ∈ Signal.exits fleet.signals := by
        rw [signals]
        exact List.mem_cons_self
      exact (accurate.parted generation waits).resolve_right never

theorem deliverExit (accurate : Accurate fleet) {generation : Nat} {status : String}
    {rest : List Signal} (signals : fleet.signals = .exited generation status :: rest) :
    Accurate { fleet with
      signals := rest
      processes := (fleet.processes.classifyExit generation).2
      verdicts := fleet.verdicts ++
        [(generation, (fleet.processes.classifyExit generation).1)] } := by
  rcases accurate.verdict signals with ⟨crash, never⟩
  have tracked := accurate.tracked
  have ledger := accurate.ledger
  have parted := accurate.parted
  rw [signals, Signal.exits_exited] at tracked ledger parted
  have ledgerNext : (fleet.verdicts ++ [(generation,
      (fleet.processes.classifyExit generation).1)]).map Prod.fst ++ Signal.exits rest ++
        fleet.running.toList = fleet.launched := by
    rw [← ledger]
    simp
  have judged : forall other verdict, (other, verdict) ∈ fleet.verdicts ++ [(generation,
      (fleet.processes.classifyExit generation).1)] ->
        (verdict = .unexpected ↔ other ∉ fleet.stopped) := by
    intro other verdict member
    rcases List.mem_append.mp member with before | last
    · exact accurate.judged other verdict before
    · cases List.mem_singleton.mp last
      exact crash.trans never
  rw [tracked.classifyExit_eq] at judged ledgerNext ⊢
  by_cases live : fleet.processes.current = some generation
  · rw [if_pos live] at judged ledgerNext ⊢
    refine ⟨(tracked.crash live).2, ledgerNext, accurate.ascending, accurate.bounded, ?_, ?_,
      judged⟩
    · exact fun other member => ⟨(accurate.stopped other member).1, nofun⟩
    · intro other member
      rcases parted other (List.mem_cons_of_mem _ member) with current | before
      · -- the exit of the live process is no longer on its way
        rw [live] at current
        have later := (List.pairwise_cons.mp tracked.ascending).1 other member
        rw [Option.some.inj current] at later
        exact absurd later (Nat.lt_irrefl _)
      · exact Or.inr before
  · rw [if_neg live] at judged ledgerNext ⊢
    exact ⟨tracked.hear live, ledgerNext, accurate.ascending, accurate.bounded, accurate.stopped,
      fun other member => parted other (List.mem_cons_of_mem _ member), judged⟩

end Accurate

theorem halt_current (fleet : Fleet) (killed : String) :
    (fleet.halt killed).processes.current = none := by
  rw [halt]
  split
  next idle => exact idle
  · exact Processes.stop_current _

theorem deliver?_exited {fleet : Fleet} {generation : Nat} {status : String} {rest : List Signal}
    (signals : fleet.signals = .exited generation status :: rest) :
    fleet.deliver? = some { fleet with
      signals := rest
      processes := (fleet.processes.classifyExit generation).2
      verdicts := fleet.verdicts ++
        [(generation, (fleet.processes.classifyExit generation).1)] } := by
  rw [deliver?, signals]

theorem deliver?_output {fleet : Fleet} {generation : Nat} {chunk : List UInt8}
    {rest : List Signal} (signals : fleet.signals = .output generation chunk :: rest) :
    fleet.deliver? = some { fleet with signals := rest } := by
  rw [deliver?, signals]

theorem Accurate.act {fleet next : Fleet} {action : Action} (accurate : Accurate fleet)
    (acted : fleet.act? action = some next) : Accurate next := by
  cases action with
  | start succeeds killed =>
      cases acted
      exact (accurate.halt killed).attempt (halt_current fleet killed) succeeds
  | stop killed =>
      cases acted
      exact accurate.halt killed
  | exit status =>
      rcases Option.map_eq_some_iff.mp acted with ⟨generation, runs, same⟩
      rw [← same]
      exact accurate.exit runs status
  | print generation chunk =>
      rw [act?, Option.ite_none_right_eq_some] at acted
      rw [← Option.some.inj acted.2]
      refine accurate.hear ?_
      rw [Signal.exits_append, Signal.exits_output, Signal.exits_nil, List.append_nil]
  | deliver =>
      rw [act?] at acted
      cases signals : fleet.signals with
      | nil =>
          rw [deliver?, signals] at acted
          cases acted
      | cons oldest rest =>
          cases oldest with
          | output generation chunk =>
              rw [deliver?_output signals] at acted
              rw [← Option.some.inj acted]
              refine accurate.hear ?_
              rw [signals, Signal.exits_output]
          | exited generation status =>
              rw [deliver?_exited signals] at acted
              rw [← Option.some.inj acted]
              exact accurate.deliverExit signals

theorem Accurate.run {fleet last : Fleet} {actions : List Action} (accurate : Accurate fleet)
    (ran : fleet.run? actions = some last) : Accurate last :=
  foldlM_induction (motive := fun _ fleet => Accurate fleet) accurate
    (fun _ _ _ _ held acted => held.act acted) ran

end Fleet
end Session
end LanguageServer
