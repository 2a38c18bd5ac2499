import Mathlib.Algebra.BigOperators.Group.List.Basic
import Mathlib.Algebra.GroupWithZero.Nat
import MediaFramework.Server.CommandQueue

/-!
# Emptying the queue of graph commands (`server/media_graph.c`)

`media_graph_run_once` takes the commands of the queue one by one, and stops at the first negative value: that the queue
is empty and that a command failed come back in the same way.  Here the graph has no pending status at any time.
-/

namespace MediaFramework

/-- What a filter does with a command: the commands that it calls for meanwhile, each with whether there is memory for
it, and its answer. -/
structure Processing where
  calls : List (MediaCommand × Bool) := []
  ret : Int

/-- The calls that are accepted when there is a queue. -/
def acceptedCalls (calls : List (MediaCommand × Bool)) : List MediaCommand := (calls.filter (·.2)).map (·.1)

/-- Calls of `media_graph_queue_command` one after the other: the queue, what the filters get at once, and the calls that
are accepted. -/
def queueCommands : List (MediaCommand × Bool) → List MediaCommand →
    List MediaCommand × List MediaCommand × List MediaCommand
  | [], cmds => (cmds, [], [])
  | (command, memory) :: calls, cmds =>
    let r := mediaGraphQueueCommand { cmdAlloc := fun _ => memory } cmds command false
    let rest := queueCommands calls r.2.1
    (rest.1, r.2.2 ++ rest.2.1, (if r.1 = -ENOMEM then [] else [command]) ++ rest.2.2)

/-- What a run leaves: its result, the queue, the commands that the filters have got, and the calls that were accepted
meanwhile. -/
structure RunOnceResult where
  ret : Int
  cmds : List MediaCommand
  processed : List MediaCommand
  accepted : List MediaCommand
  deriving DecidableEq

/-- The loop of `media_graph_run_once`; the processings are those of the commands that it takes.  A command is still the
first of the queue while it is processed. -/
def runOnceLoop : List Processing → List MediaCommand → Option RunOnceResult
  | _, [] => some ⟨(mediaGraphDequeueCommand true false 0 []).1, [], [], []⟩
  | [], _ :: _ => none
  | p :: ps, command :: cmds =>
    let calls := queueCommands p.calls (command :: cmds)
    let r := mediaGraphDequeueCommand true false p.ret calls.1
    let processed := r.2.2 ++ calls.2.1
    if r.1 < 0 then some ⟨r.1, r.2.1, processed, calls.2.2⟩
    else
      (runOnceLoop ps r.2.1).map fun rest =>
        ⟨rest.ret, rest.cmds, processed ++ rest.processed, calls.2.2 ++ rest.accepted⟩

/-- `ranAll` is what `ff_filter_graph_run_all` does. -/
def mediaGraphRunOnce (ranAll : Processing) (ps : List Processing) (cmds : List MediaCommand) : Option RunOnceResult :=
  let calls := queueCommands ranAll.calls cmds
  if ranAll.ret < 0 then some ⟨ranAll.ret, calls.1, calls.2.1, calls.2.2⟩
  else
    (runOnceLoop ps calls.1).map fun r =>
      ⟨if r.ret = -EAGAIN then 0 else r.ret, r.cmds, calls.2.1 ++ r.processed, calls.2.2 ++ r.accepted⟩

/-! ### The queue with its pointers -/

/-- What a filter does with a command, by the calls themselves. -/
structure LinkedProcessing where
  calls : List QueueCall := []
  ret : Int

def LinkedProcessing.plain (p : LinkedProcessing) : Processing where
  calls := p.calls.map fun call => (call.command.toMediaCommand, call.allocated.isSome)
  ret := p.ret

/-- The calls do their work on the queue; an allocation gives an address that is free. -/
def linkCommands : List QueueCall → TailQueue.Queue QueuedCommand → Option (TailQueue.Queue QueuedCommand)
  | [], q => some q
  | call :: calls, q =>
    if (call.malloc.bind q.cells).isSome then none
    else
      match mediaGraphLinkCommand q { call with hasPendingStatus := false } with
      | some (.pending queue) => linkCommands calls queue
      | some _ => linkCommands calls q
      | none => none

/-- The loop of `media_graph_run_once` on the queue, whose first node is unlinked when its command was processed. -/
def linkedLoop : List LinkedProcessing → TailQueue.Queue QueuedCommand → Option (TailQueue.Queue QueuedCommand)
  | [], q => if q.head = none then some q else none
  | p :: ps, q =>
    match q.head with
    | none => some q
    | some tmp =>
      (linkCommands p.calls q).bind fun q =>
        (q.removeHead tmp).bind fun q => if p.ret < 0 then some q else linkedLoop ps q

def linkedRunOnce (ranAll : LinkedProcessing) (ps : List LinkedProcessing) (q : TailQueue.Queue QueuedCommand) :
    Option (TailQueue.Queue QueuedCommand) :=
  (linkCommands ranAll.calls q).bind fun q => if ranAll.ret < 0 then some q else linkedLoop ps q

/-! ### What is to be shown -/

/-- The filters have got the commands that were in the queue and then those that were accepted, and none is left. -/
def Drained (cmds : List MediaCommand) (r : RunOnceResult) : Prop :=
  r.processed = cmds ++ r.accepted ∧ r.cmds = []

/-- A command that a filter answers with a negative value has no command behind it; `n` is how many are in the queue. -/
def ErrorLast : Nat → List Processing → Prop
  | n + 1, p :: ps =>
    let behind := n + (acceptedCalls p.calls).length
    (p.ret < 0 → behind = 0) ∧ (0 ≤ p.ret → ErrorLast behind ps)
  | _, _ => True

/-- How many calls are accepted while the commands are processed. -/
def appended (ps : List Processing) : Nat := (ps.map fun p => (acceptedCalls p.calls).length).sum

/-- Enough processings for every command, in the queue or accepted: only finitely many commands are called for. -/
def Covers (ps : List Processing) (n : Nat) : Prop := n + appended ps ≤ ps.length

/-! ### The list of the queue -/

/-- The commands of the nodes, as the list that a queue is here. -/
def commandsOf (nodes : List (Nat × QueuedCommand)) : List MediaCommand := nodes.map (·.2.toMediaCommand)

/-- A call does to the list what it does to the queue with its pointers, where a new node is the last. -/
theorem mediaGraphQueueCommand_spells {q : TailQueue.Queue QueuedCommand} {nodes : List (Nat × QueuedCommand)}
    (call : QueueCall) (out : GraphOutcomes) (hq : TailQueue.Spells q nodes)
    (hfree : ∀ a, call.malloc = some a → q.cells a = none)
    (hpending : out.hasPendingStatus call.command.filter = call.hasPendingStatus)
    (halloc : out.cmdAlloc call.command.filter = call.allocated.isSome) :
    ∃ q' nodes', TailQueue.Spells q' nodes' ∧ nodes <+: nodes' ∧
      (mediaGraphQueueCommand out (commandsOf nodes) call.command.toMediaCommand false).2.1 = commandsOf nodes' ∧
      match mediaGraphLinkCommand q call with
      | some (.pending queue) => queue = q'
      | some _ => q' = q
      | none => False := by
  have hnil : commandsOf nodes = [] ↔ q.head = none := by
    rw [hq.head_eq_none, commandsOf, List.map_eq_nil_iff]
  unfold mediaGraphQueueCommand
  simp only [Bool.false_eq_true, if_false, hnil, hpending, halloc]
  unfold mediaGraphLinkCommand
  by_cases hdirect : q.head = none ∧ call.hasPendingStatus = false
  · rw [if_pos hdirect, if_pos hdirect]
    exact ⟨q, nodes, hq, List.prefix_rfl, rfl, rfl⟩
  · rw [if_neg hdirect, if_neg hdirect]
    cases htmp : call.allocated with
    | none => exact ⟨q, nodes, hq, List.prefix_rfl, rfl, rfl⟩
    | some tmp =>
      obtain ⟨q', happend, hq'⟩ := hq.append (hfree tmp (QueueCall.allocated_eq htmp)) call.command
      refine ⟨q', _, hq', List.prefix_append _ _, ?_, ?_⟩
      · simp [commandsOf]
      · dsimp only
        rw [happend]
        rfl

/-- The calls do to the list what they do to the queue. -/
theorem linkCommands_spells (calls : List QueueCall) : ∀ {q q' : TailQueue.Queue QueuedCommand}
    {nodes : List (Nat × QueuedCommand)}, TailQueue.Spells q nodes → linkCommands calls q = some q' →
    ∃ nodes', TailQueue.Spells q' nodes' ∧ nodes <+: nodes' ∧
      (queueCommands (calls.map fun call => (call.command.toMediaCommand, call.allocated.isSome))
        (commandsOf nodes)).1 = commandsOf nodes' := by
  induction calls with
  | nil =>
    intro q q' nodes hq hlink
    cases hlink
    exact ⟨nodes, hq, List.prefix_rfl, rfl⟩
  | cons call calls ih =>
    intro q q' nodes hq hlink
    rw [linkCommands] at hlink
    split at hlink
    · cases hlink
    · rename_i hfree
      have hfree : ∀ a, call.malloc = some a → q.cells a = none := by
        intro a ha
        simpa [ha] using hfree
      obtain ⟨q₁, nodes₁, hq₁, hprefix₁, hlist, hcall⟩ := mediaGraphQueueCommand_spells
        { call with hasPendingStatus := false } { cmdAlloc := fun _ => call.allocated.isSome } hq hfree rfl rfl
      have hrest : linkCommands calls q₁ = some q' := by
        revert hcall hlink
        cases mediaGraphLinkCommand q { call with hasPendingStatus := false } with
        | none => exact fun hlink => by cases hlink
        | some answer =>
          cases answer with
          | pending queue =>
            rintro hlink rfl
            exact hlink
          | process | noMemory =>
            rintro hlink rfl
            exact hlink
      obtain ⟨nodes', hq', hprefix, hcommands⟩ := ih hq₁ hrest
      refine ⟨nodes', hq', hprefix₁.trans hprefix, ?_⟩
      rw [List.map_cons, queueCommands, ← hcommands, ← hlist]

theorem runOnceLoop_nil (ps : List Processing) : runOnceLoop ps [] = some ⟨-EAGAIN, [], [], []⟩ := by
  cases ps <;> rfl

/-! ### Calls -/

/-- With a command in the queue every call that there is memory for is put behind it. -/
theorem queueCommands_of_ne_nil (calls : List (MediaCommand × Bool)) :
    ∀ {cmds : List MediaCommand}, cmds ≠ [] →
      queueCommands calls cmds = (cmds ++ acceptedCalls calls, [], acceptedCalls calls) := by
  induction calls with
  | nil =>
    intro cmds _
    simp [queueCommands, acceptedCalls]
  | cons call calls ih =>
    intro cmds hcmds
    obtain ⟨command, memory⟩ := call
    have hqueue : mediaGraphQueueCommand { cmdAlloc := fun _ => memory } cmds command false =
        if memory then (0, cmds ++ [command], []) else (-ENOMEM, cmds, []) := by
      simp [mediaGraphQueueCommand, hcmds]
    rw [queueCommands, hqueue]
    cases memory with
    | true =>
      rw [if_pos rfl]
      dsimp only
      rw [ih (by simp)]
      simp [acceptedCalls, ENOMEM]
    | false =>
      rw [if_neg Bool.false_ne_true]
      dsimp only
      rw [ih hcmds]
      simp [acceptedCalls]

/-- With no command in the queue every call is processed at once. -/
theorem queueCommands_nil (calls : List (MediaCommand × Bool)) :
    queueCommands calls [] = ([], calls.map (·.1), calls.map (·.1)) := by
  induction calls with
  | nil => rfl
  | cons call calls ih => simp [queueCommands, mediaGraphQueueCommand, ih, ENOMEM]

/-! ### The loop -/

/-- One round: the first command is processed, and the calls that it makes are behind the others. -/
theorem runOnceLoop_cons (p : Processing) (ps : List Processing) (command : MediaCommand) (cmds : List MediaCommand) :
    runOnceLoop (p :: ps) (command :: cmds) =
      if p.ret < 0 then some ⟨p.ret, cmds ++ acceptedCalls p.calls, [command], acceptedCalls p.calls⟩
      else
        (runOnceLoop ps (cmds ++ acceptedCalls p.calls)).map fun rest =>
          ⟨rest.ret, rest.cmds, command :: rest.processed, acceptedCalls p.calls ++ rest.accepted⟩ := by
  simp [runOnceLoop, queueCommands_of_ne_nil, mediaGraphDequeueCommand]

/-- The loop on the queue leaves what the loop on the list leaves. -/
theorem linkedLoop_spells (ps : List LinkedProcessing) : ∀ {q q' : TailQueue.Queue QueuedCommand}
    {nodes : List (Nat × QueuedCommand)} {r : RunOnceResult}, TailQueue.Spells q nodes → linkedLoop ps q = some q' →
    runOnceLoop (ps.map LinkedProcessing.plain) (commandsOf nodes) = some r →
    ∃ nodes', TailQueue.Spells q' nodes' ∧ commandsOf nodes' = r.cmds := by
  induction ps with
  | nil =>
    intro q q' nodes r hq hlink hrun
    rw [linkedLoop] at hlink
    split at hlink
    · rename_i hhead
      cases hlink
      obtain rfl := hq.head_eq_none.1 hhead
      cases hrun
      exact ⟨[], hq, rfl⟩
    · cases hlink
  | cons p ps ih =>
    intro q q' nodes r hq hlink hrun
    rw [linkedLoop] at hlink
    cases nodes with
    | nil =>
      rw [hq.head_eq_none.2 rfl] at hlink
      cases hlink
      rw [commandsOf, List.map_nil, runOnceLoop_nil] at hrun
      cases hrun
      exact ⟨[], hq, rfl⟩
    | cons node rest =>
      rw [hq.head_eq, List.head?_cons, Option.map_some] at hlink
      obtain ⟨q₁, hcalls, hlink⟩ := Option.bind_eq_some_iff.1 hlink
      obtain ⟨nodes₁, hq₁, ⟨tail, rfl⟩, hcommands⟩ := linkCommands_spells p.calls hq hcalls
      obtain ⟨q₂, hremove, hlink⟩ := Option.bind_eq_some_iff.1 hlink
      obtain ⟨q₃, hremove', hq₂⟩ := hq₁.removeHead
      obtain rfl : q₃ = q₂ := Option.some.inj (hremove'.symm.trans hremove)
      -- What the command appends while it runs is behind it, so it is still the head that is removed.
      have hqueue : commandsOf rest ++ acceptedCalls p.plain.calls = commandsOf (rest ++ tail) := by
        have hbehind := hcommands
        rw [queueCommands_of_ne_nil _ (by simp [commandsOf])] at hbehind
        exact List.tail_eq_of_cons_eq hbehind
      have hcons : commandsOf (node :: rest) = node.2.toMediaCommand :: commandsOf rest := rfl
      rw [List.map_cons, hcons, runOnceLoop_cons, hqueue] at hrun
      by_cases hret : p.ret < 0
      · rw [if_pos hret] at hlink
        rw [if_pos (show p.plain.ret < 0 from hret)] at hrun
        cases hlink
        cases hrun
        exact ⟨rest ++ tail, hq₂, rfl⟩
      · rw [if_neg hret] at hlink
        rw [if_neg (show ¬ p.plain.ret < 0 from hret)] at hrun
        obtain ⟨r', hr', rfl⟩ := Option.map_eq_some_iff.1 hrun
        obtain ⟨nodes', hq', hcmds⟩ := ih hq₂ hlink hr'
        exact ⟨nodes', hq', hcmds⟩

/-- The loop ends, no command is lost or out of order, and the queue is empty exactly if no error is before the end. -/
theorem runOnceLoop_spec (ps : List Processing) :
    ∀ {cmds : List MediaCommand}, Covers ps cmds.length →
      ∃ r, runOnceLoop ps cmds = some r ∧ r.processed ++ r.cmds = cmds ++ r.accepted ∧
        (r.cmds = [] ↔ ErrorLast cmds.length ps) := by
  induction ps with
  | nil =>
    intro cmds hcover
    have hnil : cmds = [] := by
      have hle : cmds.length + 0 ≤ 0 := hcover
      exact List.eq_nil_of_length_eq_zero (by omega)
    subst hnil
    exact ⟨_, rfl, rfl, iff_of_true rfl trivial⟩
  | cons p ps ih =>
    intro cmds hcover
    cases cmds with
    | nil => exact ⟨_, rfl, rfl, iff_of_true rfl trivial⟩
    | cons command cmds =>
      have hlength : (cmds ++ acceptedCalls p.calls).length = cmds.length + (acceptedCalls p.calls).length :=
        List.length_append
      have hrest : Covers ps (cmds ++ acceptedCalls p.calls).length := by
        rw [hlength]
        have hle : cmds.length + 1 + ((acceptedCalls p.calls).length + appended ps) ≤ ps.length + 1 := hcover
        unfold Covers
        omega
      rw [List.length_cons, ErrorLast, runOnceLoop_cons]
      by_cases hret : p.ret < 0
      · -- the loop stops here
        rw [if_pos hret]
        refine ⟨_, rfl, by simp, ?_⟩
        constructor
        · intro hempty
          have hzero := congrArg List.length hempty
          dsimp only at hzero
          rw [hlength, List.length_nil] at hzero
          exact ⟨fun _ => hzero, fun hpos => absurd hret (by omega)⟩
        · intro hlast
          exact List.eq_nil_of_length_eq_zero (hlength.trans (hlast.1 hret))
      · rw [if_neg hret]
        obtain ⟨r, hr, horder, hempty⟩ := ih hrest
        rw [hr]
        refine ⟨_, rfl, ?_, ?_⟩
        · dsimp only
          rw [List.cons_append, horder, List.cons_append, List.append_assoc]
        · dsimp only
          rw [hempty, hlength]
          exact ⟨fun h => ⟨fun hneg => absurd hneg hret, fun _ => h⟩, fun h => h.2 (by omega)⟩

/-- The queue with its pointers that the run leaves holds the commands of the list. -/
theorem linkedRunOnce_spells {ranAll : LinkedProcessing} {ps : List LinkedProcessing}
    {q q' : TailQueue.Queue QueuedCommand} {nodes : List (Nat × QueuedCommand)} {r : RunOnceResult}
    (hq : TailQueue.Spells q nodes) (hlink : linkedRunOnce ranAll ps q = some q')
    (hrun : mediaGraphRunOnce ranAll.plain (ps.map LinkedProcessing.plain) (commandsOf nodes) = some r) :
    ∃ nodes', TailQueue.Spells q' nodes' ∧ commandsOf nodes' = r.cmds := by
  obtain ⟨q₁, hcalls, hlink⟩ := Option.bind_eq_some_iff.1 hlink
  obtain ⟨nodes₁, hq₁, -, hcommands⟩ := linkCommands_spells ranAll.calls hq hcalls
  have hcommands : (queueCommands ranAll.plain.calls (commandsOf nodes)).1 = commandsOf nodes₁ := hcommands
  unfold mediaGraphRunOnce at hrun
  by_cases hret : ranAll.ret < 0
  · rw [if_pos hret] at hlink
    rw [if_pos (show ranAll.plain.ret < 0 from hret)] at hrun
    cases hlink
    cases hrun
    exact ⟨nodes₁, hq₁, hcommands.symm⟩
  · rw [if_neg hret] at hlink
    rw [if_neg (show ¬ ranAll.plain.ret < 0 from hret), hcommands] at hrun
    obtain ⟨r', hr', rfl⟩ := Option.map_eq_some_iff.1 hrun
    obtain ⟨nodes', hq', hcmds⟩ := linkedLoop_spells ps hq₁ hlink hr'
    exact ⟨nodes', hq', hcmds⟩

/-- The run ends, and it has emptied the queue in order exactly if a command that failed had no command behind it; the
queue with its pointers, if these are the commands of its nodes, then holds what the list holds. -/
theorem mediaGraphRunOnce_drained (ranAll : Processing) (ps : List Processing) (cmds : List MediaCommand)
    (hran : 0 ≤ ranAll.ret) (hcover : Covers ps (queueCommands ranAll.calls cmds).1.length) :
    ∃ r, mediaGraphRunOnce ranAll ps cmds = some r ∧
      (Drained cmds r ↔ ErrorLast (queueCommands ranAll.calls cmds).1.length ps) ∧
      ∀ (linkedAll : LinkedProcessing) (linked : List LinkedProcessing) (q q' : TailQueue.Queue QueuedCommand)
        (nodes : List (Nat × QueuedCommand)), linkedAll.plain = ranAll → linked.map LinkedProcessing.plain = ps →
        TailQueue.Spells q nodes → commandsOf nodes = cmds → linkedRunOnce linkedAll linked q = some q' →
        ∃ nodes', TailQueue.Spells q' nodes' ∧ commandsOf nodes' = r.cmds := by
  obtain ⟨r, hr, horder, hempty⟩ := runOnceLoop_spec ps hcover
  have hrun : mediaGraphRunOnce ranAll ps cmds = some
      ⟨if r.ret = -EAGAIN then 0 else r.ret, r.cmds, (queueCommands ranAll.calls cmds).2.1 ++ r.processed,
        (queueCommands ranAll.calls cmds).2.2 ++ r.accepted⟩ := by
    rw [mediaGraphRunOnce, if_neg (by omega), hr]
    rfl
  refine ⟨_, hrun, ?_, ?_⟩
  swap
  · rintro linkedAll linked q q' nodes rfl rfl hq rfl hlink
    exact linkedRunOnce_spells hq hlink hrun
  rw [← hempty]
  -- what the queue held is what the filters get first, also in `ff_filter_graph_run_all`
  have hsplit : (queueCommands ranAll.calls cmds).2.1 ++ (queueCommands ranAll.calls cmds).1 =
      cmds ++ (queueCommands ranAll.calls cmds).2.2 := by
    by_cases hcmds : cmds = []
    · subst hcmds
      rw [queueCommands_nil]
      simp
    · rw [queueCommands_of_ne_nil _ hcmds]
      simp
  constructor
  · exact fun h => h.2
  · intro hnil
    refine ⟨?_, hnil⟩
    rw [hnil, List.append_nil] at horder
    dsimp only
    rw [horder, ← List.append_assoc, hsplit, List.append_assoc]

/-- Two commands of different filters, of which the first fails. -/
def sampleCommandList : List MediaCommand := [⟨0, "start".toList, none⟩, ⟨1, "pause".toList, none⟩]

theorem mediaGraphRunOnce_drained_sample :
    ∃ r, mediaGraphRunOnce ⟨[], 0⟩ [⟨[], 0⟩, ⟨[], -EINVAL⟩] sampleCommandList = some r ∧
      (Drained sampleCommandList r ↔ ErrorLast (queueCommands [] sampleCommandList).1.length
        [⟨[], 0⟩, ⟨[], -EINVAL⟩]) := by
  obtain ⟨r, hr, hdrained, -⟩ := mediaGraphRunOnce_drained ⟨[], 0⟩ [⟨[], 0⟩, ⟨[], -EINVAL⟩] sampleCommandList
    (by decide) (by unfold Covers; decide)
  exact ⟨r, hr, hdrained⟩

/-- A command that fails keeps the ones behind it in the queue. -/
theorem mediaGraphRunOnce_not_drained : ¬ ∀ (ranAll : Processing) (ps : List Processing) (cmds : List MediaCommand),
    0 ≤ ranAll.ret → Covers ps (queueCommands ranAll.calls cmds).1.length →
    ∃ r, mediaGraphRunOnce ranAll ps cmds = some r ∧ Drained cmds r := by
  intro h
  obtain ⟨r, hr, hdrained⟩ := h ⟨[], 0⟩ [⟨[], -EAGAIN⟩, ⟨[], 0⟩] sampleCommandList (by decide) (by unfold Covers; decide)
  have hcmds : r.cmds = [⟨1, "pause".toList, none⟩] := by
    have hrun : mediaGraphRunOnce ⟨[], 0⟩ [⟨[], -EAGAIN⟩, ⟨[], 0⟩] sampleCommandList =
        some ⟨0, [⟨1, "pause".toList, none⟩], [⟨0, "start".toList, none⟩], []⟩ := by decide
    rw [hrun] at hr
    cases hr
    rfl
  rw [hdrained.2] at hcmds
  cases hcmds

end MediaFramework
