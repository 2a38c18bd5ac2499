import MediaFramework.Library.Machine
import MediaFramework.Library.TailQueue
import MediaFramework.Server.MediaGraph

/-!
# The order of graph commands (`server/media_graph.c`)

A command is processed at once, or it waits in a queue that `media_graph_run_once` empties from its head.  A filter
that gets a command may call for further ones before it returns, and the queue may then still hold the command that
is being processed.  Here the queue is the one of the source, with its two pointers, and a frame of the stack stands
for each call that has not returned.
-/

namespace MediaFramework

open TailQueue (Queue Cell Spells)

/-- What a node of the queue holds. -/
structure QueuedCommand extends MediaCommand where
  flags : Int
  deriving DecidableEq

/-- A call of `media_graph_queue_command` without a result buffer, and what it meets: the pending status of the graph,
and the outcomes of the allocations. -/
structure QueueCall where
  command : QueuedCommand
  hasPendingStatus : Bool := false
  malloc : Option Nat := none
  dupCmd : Bool := true
  dupArg : Bool := true

/-- The new node, if every allocation that it needs succeeds. -/
def QueueCall.allocated (call : QueueCall) : Option Nat :=
  if call.dupCmd = true ∧ (call.command.arg = none ∨ call.dupArg = true) then call.malloc else none

/-- What the call does: the command is processed at once, it is the last one of the queue now, or there is no memory
for it. -/
inductive QueueAnswer
  | process
  | pending (queue : Queue QueuedCommand)
  | noMemory

/-- `media_graph_queue_command` up to the command that it may process; `none` is a bad pointer. -/
def mediaGraphLinkCommand (q : Queue QueuedCommand) (call : QueueCall) : Option QueueAnswer :=
  if q.head = none ∧ call.hasPendingStatus = false then some .process
  else
    match call.allocated with
    | none => some .noMemory
    | some tmp => (q.append tmp call.command).map .pending

/-- The node whose command `media_graph_dequeue_command` processes. -/
def mediaGraphFirstCommand (q : Queue QueuedCommand) (hasPendingStatus : Bool) : Option Nat :=
  if hasPendingStatus then none else q.head

/-- A call that has not returned: a command is processed at once, `ff_filter_graph_run_all` runs, the loop of
`media_graph_run_once` is about to take a command, the command of a node is processed. -/
inductive GraphFrame
  | process
  | runAll
  | runOnce
  | dequeue (tmp : Nat)
  deriving DecidableEq

/-- The queue and the stack, innermost call first; `crashed` says that a bad pointer was used. -/
structure CommandGraph where
  queue : Queue QueuedCommand := {}
  stack : List GraphFrame := []
  crashed : Bool := false

inductive CommandInput
  | queueCommand (call : QueueCall)
  | runOnce
  | ranAll (ret : Int)
  | dequeue (hasPendingStatus : Bool)
  | processed (ret : Int)

/-- One step.  Commands are called for by the main loop, by a filter that processes a command, and in
`ff_filter_graph_run_all`; an allocation gives an address that is free. -/
def CommandGraph.next (s : CommandGraph) (i : CommandInput) : Option CommandGraph :=
  if s.crashed then none
  else
    match i with
    | .queueCommand call =>
      if s.stack.head? = some .runOnce ∨ (call.malloc.bind s.queue.cells).isSome then none
      else
        match mediaGraphLinkCommand s.queue call with
        | some .process => some { s with stack := .process :: s.stack }
        | some (.pending queue) => some { s with queue }
        | some .noMemory => some s
        | none => some { s with crashed := true }
    | .runOnce => if s.stack = [] then some { s with stack := [.runAll] } else none
    | .ranAll ret =>
      match s.stack with
      | .runAll :: stack => some { s with stack := if ret < 0 then stack else .runOnce :: stack }
      | _ => none
    | .dequeue hasPendingStatus =>
      match s.stack with
      | .runOnce :: stack =>
        match mediaGraphFirstCommand s.queue hasPendingStatus with
        | none => some { s with stack }
        | some tmp =>
          if (s.queue.cells tmp).isSome then some { s with stack := .dequeue tmp :: s.stack }
          else some { s with crashed := true }
      | _ => none
    | .processed ret =>
      match s.stack with
      | .process :: stack => some { s with stack }
      | .dequeue tmp :: .runOnce :: stack =>
        match s.queue.removeHead tmp with
        | some queue => some { s with queue, stack := if ret < 0 then stack else .runOnce :: stack }
        | none => some { s with crashed := true }
      | _ => none

/-- The graph with no commands, and its steps. -/
def commandMachine : Machine CommandGraph CommandInput where
  start := {}
  next := CommandGraph.next

/-- The calls so far, numbered: those that there was no memory for, those that were accepted and those that a filter has
got, each in their order, and the call that each node is from. -/
structure CommandRecord where
  calls : Nat := 0
  refused : List Nat := []
  accepted : List (Nat × QueuedCommand) := []
  started : List (Nat × QueuedCommand) := []
  owner : Nat → Nat := fun _ => 0

def CommandRecord.note (s : CommandGraph) (i : CommandInput) (_ : CommandGraph) (h : CommandRecord) : CommandRecord :=
  match i with
  | .queueCommand call =>
    match mediaGraphLinkCommand s.queue call with
    | some .process =>
      { h with
        calls := h.calls + 1
        accepted := h.accepted ++ [(h.calls, call.command)]
        started := h.started ++ [(h.calls, call.command)] }
    | some (.pending _) =>
      { h with
        calls := h.calls + 1
        accepted := h.accepted ++ [(h.calls, call.command)]
        owner := fun a => if call.allocated = some a then h.calls else h.owner a }
    | _ => { h with calls := h.calls + 1, refused := h.refused ++ [h.calls] }
  | .dequeue hasPendingStatus =>
    match (mediaGraphFirstCommand s.queue hasPendingStatus).bind fun tmp => (s.queue.cells tmp).map (tmp, ·) with
    | some (tmp, cell) => { h with started := h.started ++ [(h.owner tmp, cell.value)] }
    | none => h
  | _ => h

/-- The commands that wait: those of the queue, less the one that is being processed. -/
def CommandGraph.waiting (s : CommandGraph) (nodes : List (Nat × QueuedCommand)) : List (Nat × QueuedCommand) :=
  match s.stack with
  | .dequeue _ :: _ => nodes.tail
  | _ => nodes

/-- No bad pointer was used, the calls are accepted in the order in which they are made, unless there is no memory for
them, and of the accepted ones the filters have got the first, in that order, while the queue holds the others. -/
structure CommandsInOrder (s : CommandGraph) (h : CommandRecord) : Prop where
  crashed : s.crashed = false
  numbered : h.accepted.Pairwise fun c d => c.1 < d.1
  refused : ∀ c ∈ h.accepted, c.1 ∉ h.refused
  inQueue : ∃ nodes, Spells s.queue nodes ∧
    h.accepted = h.started ++ (s.waiting nodes).map fun node => (h.owner node.1, node.2)

/-! ### What each function does -/

theorem QueueCall.allocated_eq {call : QueueCall} {tmp : Nat} (h : call.allocated = some tmp) :
    call.malloc = some tmp := by
  unfold QueueCall.allocated at h
  split at h
  · exact h
  · cases h

/-- On a queue without bad pointers: the command is processed at once, which takes an empty queue, or a node for it is
put behind the others, or there is no memory. -/
theorem mediaGraphLinkCommand_spells {q : Queue QueuedCommand} {nodes : List (Nat × QueuedCommand)} {call : QueueCall}
    (hq : Spells q nodes) (hfree : ∀ a, call.malloc = some a → q.cells a = none) :
    (q.head = none ∧ mediaGraphLinkCommand q call = some .process) ∨
    (∃ tmp q', call.allocated = some tmp ∧ mediaGraphLinkCommand q call = some (.pending q') ∧
      Spells q' (nodes ++ [(tmp, call.command)])) ∨
    (call.allocated = none ∧ mediaGraphLinkCommand q call = some .noMemory) := by
  unfold mediaGraphLinkCommand
  by_cases hdirect : q.head = none ∧ call.hasPendingStatus = false
  · rw [if_pos hdirect]
    exact .inl ⟨hdirect.1, rfl⟩
  · rw [if_neg hdirect]
    cases halloc : call.allocated with
    | none => exact .inr (.inr ⟨rfl, rfl⟩)
    | some tmp =>
      obtain ⟨q', happend, hq'⟩ := hq.append (hfree tmp (QueueCall.allocated_eq halloc)) call.command
      exact .inr (.inl ⟨tmp, q', rfl, by dsimp only; rw [happend]; rfl, hq'⟩)

/-- What a call of `media_graph_queue_command` needs of the state, and what it does to it. -/
theorem CommandGraph.next_queueCommand {s s' : CommandGraph} {call : QueueCall}
    (hstep : s.next (.queueCommand call) = some s') :
    s.stack.head? ≠ some .runOnce ∧ (∀ a, call.malloc = some a → s.queue.cells a = none) ∧
      some s' = match mediaGraphLinkCommand s.queue call with
        | some .process => some { s with stack := .process :: s.stack }
        | some (.pending queue) => some { s with queue }
        | some .noMemory => some s
        | none => some { s with crashed := true } := by
  unfold CommandGraph.next at hstep
  split at hstep
  · cases hstep
  · dsimp only at hstep
    split at hstep
    · cases hstep
    · rename_i hpossible
      rw [not_or] at hpossible
      refine ⟨hpossible.1, ?_, hstep.symm⟩
      intro a ha
      have hnone := hpossible.2
      rw [ha, Option.bind_some] at hnone
      simpa using hnone

/-! ### The stack -/

/-- While a node's command is processed nothing else is on the stack but the loop, and it is the first node. -/
inductive CommandStack : Option Nat → List GraphFrame → Prop
  | idle {head : Option Nat} : CommandStack head []
  | runAll {head : Option Nat} : CommandStack head [.runAll]
  | runOnce {head : Option Nat} : CommandStack head [.runOnce]
  | dequeue {tmp : Nat} : CommandStack (some tmp) [.dequeue tmp, .runOnce]
  | process {head : Option Nat} {stack : List GraphFrame} :
      CommandStack none stack → CommandStack head (.process :: stack)

/-- With no command in the queue none of its nodes is processed, so the queue may change. -/
theorem CommandStack.of_none {stack : List GraphFrame} (h : CommandStack none stack) (head : Option Nat) :
    CommandStack head stack := by
  cases h with
  | idle => exact .idle
  | runAll => exact .runAll
  | runOnce => exact .runOnce
  | process h => exact .process h

section Stack

variable {head : Option Nat} {stack : List GraphFrame} {tmp : Nat}

theorem CommandStack.runAll_cons (h : CommandStack head (.runAll :: stack)) : stack = [] := by
  cases h
  rfl

theorem CommandStack.runOnce_cons (h : CommandStack head (.runOnce :: stack)) : stack = [] := by
  cases h
  rfl

theorem CommandStack.dequeue_cons (h : CommandStack head (.dequeue tmp :: stack)) :
    head = some tmp ∧ stack = [.runOnce] := by
  cases h
  exact ⟨rfl, rfl⟩

theorem CommandStack.process_cons (h : CommandStack head (.process :: stack)) : CommandStack none stack := by
  cases h
  assumption

end Stack

/-! ### What a step keeps -/

/-- `CommandsInOrder`, with what a step needs to know of the stack and of the numbers to come. -/
structure CommandsKept (s : CommandGraph) (h : CommandRecord) (nodes : List (Nat × QueuedCommand)) : Prop where
  crashed : s.crashed = false
  stack : CommandStack s.queue.head s.stack
  numbered : h.accepted.Pairwise fun c d => c.1 < d.1
  below : ∀ c ∈ h.accepted, c.1 < h.calls
  refused : ∀ n ∈ h.refused, n < h.calls ∧ ∀ c ∈ h.accepted, c.1 ≠ n
  queue : Spells s.queue nodes
  accepted : h.accepted = h.started ++ (s.waiting nodes).map fun node => (h.owner node.1, node.2)

theorem CommandsKept.inOrder {s : CommandGraph} {h : CommandRecord} {nodes : List (Nat × QueuedCommand)}
    (hk : CommandsKept s h nodes) : CommandsInOrder s h :=
  ⟨hk.crashed, hk.numbered, fun c hc hn => (hk.refused _ hn).2 c hc rfl, nodes, hk.queue, hk.accepted⟩

section Steps

variable {s s' : CommandGraph} {h : CommandRecord} {nodes : List (Nat × QueuedCommand)}

/-- One more call is accepted: its number is above the others. -/
theorem CommandsKept.number (hk : CommandsKept s h nodes) (c : QueuedCommand) :
    (h.accepted ++ [(h.calls, c)]).Pairwise (fun c d => c.1 < d.1) ∧
      (∀ d ∈ h.accepted ++ [(h.calls, c)], d.1 < h.calls + 1) ∧
      ∀ n ∈ h.refused, n < h.calls + 1 ∧ ∀ d ∈ h.accepted ++ [(h.calls, c)], d.1 ≠ n := by
  refine ⟨?_, ?_, ?_⟩
  · rw [List.pairwise_append]
    refine ⟨hk.numbered, List.pairwise_singleton _ _, ?_⟩
    intro d hd e he
    rw [List.mem_singleton] at he
    subst he
    exact hk.below d hd
  · intro d hd
    rw [List.mem_append, List.mem_singleton] at hd
    rcases hd with hd | rfl
    · exact Nat.lt_succ_of_lt (hk.below d hd)
    · exact Nat.lt_succ_self _
  · intro n hn
    obtain ⟨hlt, hne⟩ := hk.refused n hn
    refine ⟨Nat.lt_succ_of_lt hlt, ?_⟩
    intro d hd
    rw [List.mem_append, List.mem_singleton] at hd
    rcases hd with hd | rfl
    · exact hne d hd
    · exact (Nat.ne_of_lt hlt).symm

theorem CommandGraph.mem_of_mem_waiting {node : Nat × QueuedCommand} (hnode : node ∈ s.waiting nodes) :
    node ∈ nodes := by
  unfold CommandGraph.waiting at hnode
  split at hnode
  · exact List.mem_of_mem_tail hnode
  · exact hnode

/-- The command that is being processed is the first of the queue, so a new node waits. -/
theorem CommandsKept.waiting_append (hk : CommandsKept s h nodes) (node : Nat × QueuedCommand) :
    s.waiting (nodes ++ [node]) = s.waiting nodes ++ [node] := by
  have hstack := hk.stack
  unfold CommandGraph.waiting
  split
  · rename_i heq
    rw [heq] at hstack
    have hhead : s.queue.head ≠ none := by
      intro hnone
      rw [hnone] at hstack
      cases hstack
    exact List.tail_append_of_ne_nil fun hnil => hhead (hk.queue.head_eq_none.2 hnil)
  · rfl

theorem CommandsKept.stack_append {q' : Queue QueuedCommand} {node : Nat × QueuedCommand}
    (hk : CommandsKept s h nodes) (hq' : Spells q' (nodes ++ [node])) : CommandStack q'.head s.stack := by
  cases hnodes : nodes with
  | nil =>
    have hnone := hk.queue.head_eq_none.2 hnodes
    exact (hnone ▸ hk.stack).of_none _
  | cons b l =>
    have hhead : q'.head = s.queue.head := by
      rw [hq'.head_eq, hk.queue.head_eq, hnodes]
      rfl
    rw [hhead]
    exact hk.stack

/-- A node is at the head for as long as its command is processed, so a command that is called for meanwhile waits
behind it. -/
theorem CommandsKept.queueCommand {call : QueueCall} (hk : CommandsKept s h nodes)
    (hstep : s.next (.queueCommand call) = some s') :
    ∃ nodes', CommandsKept s' (h.note s (.queueCommand call) s') nodes' := by
  obtain ⟨htop, hfree, hs'⟩ := CommandGraph.next_queueCommand hstep
  obtain ⟨hnumbered, hbelow, hrefused⟩ := hk.number call.command
  rcases mediaGraphLinkCommand_spells hk.queue hfree with ⟨hhead, hlink⟩ | ⟨tmp, q', htmp, hlink, hq'⟩ | ⟨-, hlink⟩
  · -- the queue is empty, so nothing that was accepted still waits
    rw [hlink] at hs'
    cases hs'
    have hempty := hk.queue.head_eq_none.1 hhead
    subst hempty
    have hall : h.accepted = h.started := by
      rw [hk.accepted]
      unfold CommandGraph.waiting
      split <;> simp
    refine ⟨[], hk.crashed, .process (hhead ▸ hk.stack), ?_, ?_, ?_, hk.queue, ?_⟩
    all_goals rw [CommandRecord.note, hlink]
    · exact hnumbered
    · exact hbelow
    · exact hrefused
    · simp [hall, CommandGraph.waiting]
  · -- the new node is behind the one that is being processed, if there is one
    rw [hlink] at hs'
    cases hs'
    have hnew := hk.queue.notMem_of_free (hfree tmp (QueueCall.allocated_eq htmp))
    refine ⟨nodes ++ [(tmp, call.command)], hk.crashed, hk.stack_append hq', ?_, ?_, ?_, hq', ?_⟩
    all_goals rw [CommandRecord.note, hlink]
    · exact hnumbered
    · exact hbelow
    · exact hrefused
    · have howner : ∀ node ∈ s.waiting nodes, (if call.allocated = some node.1 then h.calls else h.owner node.1) =
          h.owner node.1 := by
        intro node hnode
        have hmem := List.mem_map_of_mem (f := Prod.fst) (CommandGraph.mem_of_mem_waiting hnode)
        refine if_neg fun heq => hnew ?_
        rw [htmp] at heq
        cases heq
        exact hmem
      have hwaiting : ({ s with queue := q' } : CommandGraph).waiting (nodes ++ [(tmp, call.command)]) =
          s.waiting nodes ++ [(tmp, call.command)] := hk.waiting_append _
      have hmap := List.map_congr_left fun node hnode => congrArg (·, node.2) (howner node hnode)
      dsimp only
      rw [hwaiting, List.map_append, List.map_singleton, hmap, if_pos htmp, hk.accepted, List.append_assoc]
  · rw [hlink] at hs'
    cases hs'
    refine ⟨nodes, hk.crashed, hk.stack, ?_, ?_, ?_, hk.queue, ?_⟩
    all_goals rw [CommandRecord.note, hlink]
    · exact hk.numbered
    · exact fun c hc => Nat.lt_succ_of_lt (hk.below c hc)
    · intro n hn
      rw [List.mem_append, List.mem_singleton] at hn
      rcases hn with hn | rfl
      · exact ⟨Nat.lt_succ_of_lt (hk.refused n hn).1, (hk.refused n hn).2⟩
      · exact ⟨Nat.lt_succ_self _, fun c hc => Nat.ne_of_lt (hk.below c hc)⟩
    · exact hk.accepted

/-- A step that leaves the queue, and no command that is being processed, keeps everything. -/
theorem CommandsKept.of_stack {stack : List GraphFrame} (hk : CommandsKept s h nodes)
    (hstack : CommandStack s.queue.head stack) (hold : s.waiting nodes = nodes)
    (hnew : ({ s with stack } : CommandGraph).waiting nodes = nodes) : CommandsKept { s with stack } h nodes := by
  refine ⟨hk.crashed, hstack, hk.numbered, hk.below, hk.refused, hk.queue, ?_⟩
  rw [hnew, ← hold]
  exact hk.accepted

theorem CommandsKept.runOnce (hk : CommandsKept s h nodes) (hstep : s.next .runOnce = some s') :
    CommandsKept s' (h.note s .runOnce s') nodes := by
  unfold CommandGraph.next at hstep
  rw [if_neg (by rw [hk.crashed]; exact Bool.false_ne_true)] at hstep
  dsimp only at hstep
  split at hstep
  · rename_i hidle
    cases hstep
    exact hk.of_stack .runAll (by rw [CommandGraph.waiting, hidle]) rfl
  · cases hstep

theorem CommandsKept.ranAll {ret : Int} (hk : CommandsKept s h nodes) (hstep : s.next (.ranAll ret) = some s') :
    CommandsKept s' (h.note s (.ranAll ret) s') nodes := by
  unfold CommandGraph.next at hstep
  rw [if_neg (by rw [hk.crashed]; exact Bool.false_ne_true)] at hstep
  dsimp only at hstep
  split at hstep
  · rename_i stack heq
    cases hstep
    have hold : s.waiting nodes = nodes := by rw [CommandGraph.waiting, heq]
    have hstack := hk.stack
    rw [heq] at hstack
    cases hstack.runAll_cons
    by_cases hret : ret < 0
    · rw [if_pos hret]
      exact hk.of_stack .idle hold rfl
    · rw [if_neg hret]
      exact hk.of_stack .runOnce hold rfl
  · cases hstep

/-- The command that is taken is the first that waits. -/
theorem CommandsKept.dequeue {hasPendingStatus : Bool} (hk : CommandsKept s h nodes)
    (hstep : s.next (.dequeue hasPendingStatus) = some s') :
    CommandsKept s' (h.note s (.dequeue hasPendingStatus) s') nodes := by
  unfold CommandGraph.next at hstep
  rw [if_neg (by rw [hk.crashed]; exact Bool.false_ne_true)] at hstep
  dsimp only at hstep
  split at hstep
  · rename_i stack heq
    have hold : s.waiting nodes = nodes := by rw [CommandGraph.waiting, heq]
    have hstack := hk.stack
    rw [heq] at hstack
    cases hstack.runOnce_cons
    split at hstep
    · rename_i hnone
      cases hstep
      rw [CommandRecord.note, hnone]
      exact hk.of_stack .idle hold rfl
    · rename_i tmp hfirst
      have hhead : s.queue.head = some tmp := by
        unfold mediaGraphFirstCommand at hfirst
        split at hfirst
        · cases hfirst
        · exact hfirst
      obtain ⟨c, l, rfl⟩ := hk.queue.eq_cons hhead
      obtain ⟨next, hcell⟩ := hk.queue.cells_head
      rw [hcell, Option.isSome_some, if_pos rfl] at hstep
      cases hstep
      refine ⟨hk.crashed, ?_, ?_, ?_, ?_, hk.queue, ?_⟩
      · rw [hhead, heq]
        exact .dequeue
      all_goals rw [CommandRecord.note, hfirst, Option.bind_some, hcell]
      · exact hk.numbered
      · exact hk.below
      · exact hk.refused
      · have haccepted := hk.accepted
        rw [hold] at haccepted
        rw [show (h.accepted) = _ from haccepted, List.map_cons]
        simp [CommandGraph.waiting]
  · cases hstep

theorem CommandsKept.processed {ret : Int} (hk : CommandsKept s h nodes) (hstep : s.next (.processed ret) = some s') :
    ∃ nodes', CommandsKept s' (h.note s (.processed ret) s') nodes' := by
  unfold CommandGraph.next at hstep
  rw [if_neg (by rw [hk.crashed]; exact Bool.false_ne_true)] at hstep
  dsimp only at hstep
  have hstack := hk.stack
  split at hstep
  · rename_i stack heq
    cases hstep
    rw [heq] at hstack
    have hbelow := hstack.process_cons
    have hold : s.waiting nodes = nodes := by rw [CommandGraph.waiting, heq]
    refine ⟨nodes, hk.of_stack (hbelow.of_none _) hold ?_⟩
    unfold CommandGraph.waiting
    split
    · rename_i htop
      rw [show stack = _ from htop] at hbelow
      cases hbelow
    · rfl
  · rename_i tmp stack heq
    rw [heq] at hstack
    obtain ⟨hhead, hrest⟩ := hstack.dequeue_cons
    cases hrest
    obtain ⟨c, l, rfl⟩ := hk.queue.eq_cons hhead
    obtain ⟨q', hremove, hq'⟩ := hk.queue.removeHead
    rw [hremove] at hstep
    cases hstep
    have hold : s.waiting ((tmp, c) :: l) = l := by rw [CommandGraph.waiting, heq]; rfl
    refine ⟨l, hk.crashed, ?_, hk.numbered, hk.below, hk.refused, hq', ?_⟩
    · dsimp only
      split
      · exact .idle
      · exact .runOnce
    · have hnew : ∀ t : CommandGraph, t.stack = (if ret < 0 then [] else [.runOnce]) → t.waiting l = l := by
        intro t ht
        unfold CommandGraph.waiting
        rw [ht]
        split_ifs <;> rfl
      rw [hnew _ rfl, ← hold]
      exact hk.accepted
  · cases hstep

end Steps

/-! ### Runs -/

/-- What one step keeps. -/
theorem CommandsKept.step {s s' : CommandGraph} {i : CommandInput} {h : CommandRecord}
    (hk : ∃ nodes, CommandsKept s h nodes) (hstep : s.next i = some s') :
    ∃ nodes', CommandsKept s' (h.note s i s') nodes' := by
  obtain ⟨nodes, hk⟩ := hk
  cases i with
  | queueCommand call => exact hk.queueCommand hstep
  | runOnce => exact ⟨nodes, hk.runOnce hstep⟩
  | ranAll ret => exact ⟨nodes, hk.ranAll hstep⟩
  | dequeue hasPendingStatus => exact ⟨nodes, hk.dequeue hstep⟩
  | processed ret => exact hk.processed hstep

theorem commandsKept_start : CommandsKept commandMachine.start {} [] where
  crashed := rfl
  stack := .idle
  numbered := .nil
  below c hc := by cases hc
  refused n hn := by cases hn
  queue := TailQueue.spells_empty
  accepted := rfl

/-- In every state of every run the commands have been processed in the order in which they were accepted, each once, and
the rest are in the queue.  A call without memory changes nothing. -/
theorem commandRun_inOrder {p : CommandGraph × CommandRecord}
    (hp : (commandMachine.recorded {} fun s i s' h => h.note s i s').Reachable p) :
    CommandsInOrder p.1 p.2 ∧
      ∀ call s', p.1.next (.queueCommand call) = some s' →
        ¬(p.1.queue.head = none ∧ call.hasPendingStatus = false) → call.allocated = none →
        s' = p.1 ∧ (p.2.note p.1 (.queueCommand call) s').accepted = p.2.accepted ∧
          (p.2.note p.1 (.queueCommand call) s').started = p.2.started := by
  obtain ⟨nodes, hk⟩ := hp.recorded (P := fun s h => ∃ nodes, CommandsKept s h nodes) ⟨[], commandsKept_start⟩
    fun _ _ _ _ hk _ hstep => CommandsKept.step hk hstep
  refine ⟨hk.inOrder, ?_⟩
  intro call s' hstep hqueued hmemory
  have hlink : mediaGraphLinkCommand p.1.queue call = some .noMemory := by
    unfold mediaGraphLinkCommand
    rw [if_neg hqueued, hmemory]
  obtain ⟨-, -, hs'⟩ := CommandGraph.next_queueCommand hstep
  rw [hlink] at hs'
  cases hs'
  refine ⟨rfl, ?_, ?_⟩
  all_goals rw [CommandRecord.note, hlink]

/-- A command that waits for a filter calls for a second one while it is processed. -/
def sampleCommands : List CommandInput :=
  let command (cmd : String) : QueuedCommand := ⟨⟨0, cmd.toList, none⟩, 1⟩
  [.queueCommand { command := command "start", hasPendingStatus := true, malloc := some 8 }, .runOnce, .ranAll 0,
    .dequeue false, .queueCommand { command := command "pause", malloc := some 16 }, .processed 0, .dequeue false,
    .processed 0, .dequeue false]

def sampleCommandsRun : CommandGraph × CommandRecord :=
  ((commandMachine.recorded {} fun s i s' h => h.note s i s').runFrom (fun _ _ => True)
    (commandMachine.recorded {} fun s i s' h => h.note s i s').start sampleCommands).get (by decide)

theorem commandRun_inOrder_sample : CommandsInOrder sampleCommandsRun.1 sampleCommandsRun.2 ∧
    sampleCommandsRun.2.started.map (·.1) = [0, 1] :=
  ⟨(commandRun_inOrder (Machine.reachableVia_get (by decide))).1, by decide⟩

end MediaFramework
