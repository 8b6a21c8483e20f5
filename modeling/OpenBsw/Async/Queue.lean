import OpenBsw.Data.Links

/-!
# Queue of runnables

The queue is linked through its nodes.  A node holds a reference to the next
one, or a marker that it is in no queue.
-/

namespace OpenBsw.Async

open List Function

universe u

/-- `_next` of a node: `none` is the marker of a node that is not enqueued, and
`some none` the null pointer. -/
abbrev QueueNode (Node : Type u) := Option (Option Node)

/-- A queue and the nodes that can be in it. -/
structure Queue (Node : Type u) where
  nodes : Node → QueueNode Node
  first : Option Node
  last : Option Node

namespace Queue

variable {Node : Type u} [DecidableEq Node] {queue : Queue Node} {nodes : List Node} {node : Node}

omit [DecidableEq Node] in
def empty : Queue Node :=
  { nodes := fun _ => none, first := none, last := none }

omit [DecidableEq Node] in
def isEnqueued (queue : Queue Node) (node : Node) : Bool :=
  (queue.nodes node).isSome

def enqueue (queue : Queue Node) (node : Node) : Queue Node :=
  let cleared := update queue.nodes node (some none)
  match queue.last with
  | some last =>
    { nodes := update cleared last (some (some node))
      first := queue.first
      last := some node }
  | none => { nodes := cleared, first := some node, last := some node }

/-- The node taken from the queue, if there is one. -/
def dequeue (queue : Queue Node) : Option Node × Queue Node :=
  match queue.first with
  | some node =>
    (some node,
      { nodes := update queue.nodes node none
        first := (queue.nodes node).join
        last := if queue.last = some node then none else queue.last })
  | none => (none, queue)

/-! ## Contents -/

omit [DecidableEq Node] in
/-- The queue is a list without cycles: following the references from the first
node passes these nodes, each once, and they are the enqueued ones. -/
structure Holds (queue : Queue Node) (nodes : List Node) : Prop where
  leads : Leads (fun node => (queue.nodes node).join) queue.first nodes
  nodup : nodes.Nodup
  last_eq : queue.last = nodes.getLast?
  isEnqueued_iff : ∀ node, queue.isEnqueued node = true ↔ node ∈ nodes

omit [DecidableEq Node] in
theorem holds_empty : Holds (empty : Queue Node) [] where
  leads := rfl
  nodup := .nil
  last_eq := rfl
  isEnqueued_iff node := by simp [isEnqueued, empty]

omit [DecidableEq Node] in
theorem Holds.first_eq (holds : Holds queue nodes) : queue.first = nodes.head? :=
  holds.leads.start_eq

/-- The references seen by a walk, after one of them was set. -/
theorem join_update (all : Node → QueueNode Node) (node : Node) (reference : QueueNode Node) :
    (fun other => (update all node reference other).join) =
      update (fun other => (all other).join) node reference.join := by
  funext other
  by_cases same : other = node
  · subst same
    rw [update_self, update_self]
  · rw [update_of_ne same, update_of_ne same]

theorem Holds.enqueue (holds : Holds queue nodes) (fresh : queue.isEnqueued node = false) :
    Holds (queue.enqueue node) (nodes ++ [node]) := by
  have apart : node ∉ nodes := by
    intro member
    rw [(holds.isEnqueued_iff node).mpr member] at fresh
    cases fresh
  have nodup : (nodes ++ [node]).Nodup :=
    nodup_append.mpr ⟨holds.nodup, nodup_singleton _, by
      rintro other member _ (_ | ⟨_, ⟨⟩⟩) rfl
      exact apart member⟩
  rcases eq_nil_or_concat nodes with rfl | ⟨front, last, rfl⟩
  · have emptyLast : queue.last = none := holds.last_eq
    constructor
    · simp only [Queue.enqueue, emptyLast, join_update]
      exact ⟨rfl, update_self ..⟩
    · exact nodup
    · simp only [Queue.enqueue, emptyLast]
      rfl
    · intro other
      simp only [Queue.enqueue, emptyLast, isEnqueued, nil_append, mem_singleton]
      by_cases same : other = node
      · subst same
        simp
      · rw [update_of_ne same]
        have old := holds.isEnqueued_iff other
        simp only [isEnqueued, not_mem_nil, iff_false] at old
        simp [same, old]
  · rw [concat_eq_append] at *
    have someLast : queue.last = some last := by
      rw [holds.last_eq, List.getLast?_append]
      rfl
    have different : last ≠ node := by
      rintro rfl
      exact apart (mem_append_right _ (mem_singleton_self _))
    constructor
    · simp only [Queue.enqueue, someLast, join_update]
      rw [update_comm different.symm]
      exact holds.leads.concat holds.nodup apart
    · exact nodup
    · simp [Queue.enqueue, someLast]
    · intro other
      have old := holds.isEnqueued_iff other
      simp only [Queue.enqueue, someLast, isEnqueued] at old ⊢
      rw [mem_append, mem_singleton, ← old]
      by_cases isLast : other = last
      · subst isLast
        have inside := old.mpr (mem_append_right _ (mem_singleton_self _))
        simp [inside]
      · rw [update_of_ne isLast]
        by_cases same : other = node
        · subst same
          simp
        · rw [update_of_ne same]
          simp [same]

theorem Holds.dequeue_nil (holds : Holds queue []) : queue.dequeue = (none, queue) := by
  have first : queue.first = none := holds.first_eq
  simp only [dequeue, first]

theorem Holds.dequeue_cons (holds : Holds queue (node :: nodes)) :
    queue.dequeue.1 = some node ∧ Holds queue.dequeue.2 nodes := by
  have first : queue.first = some node := holds.first_eq
  obtain ⟨apart, nodup⟩ := nodup_cons.mp holds.nodup
  have dequeued : queue.dequeue =
      (some node,
        { nodes := update queue.nodes node none
          first := (queue.nodes node).join
          last := if queue.last = some node then none else queue.last }) := by
    simp only [dequeue, first]
  rw [dequeued]
  refine ⟨rfl, ?_, nodup, ?_, ?_⟩
  · simp only [join_update]
    exact holds.leads.2.update apart _
  · simp only [holds.last_eq]
    cases nodes with
    | nil => simp
    | cons second rest =>
      rw [List.getLast?_cons_cons, if_neg]
      intro same
      exact apart (mem_of_getLast? same)
  · intro other
    have old := holds.isEnqueued_iff other
    simp only [isEnqueued, mem_cons] at old ⊢
    by_cases same : other = node
    · subst same
      simp [apart]
    · rw [update_of_ne same]
      simpa [same] using old

end Queue

end OpenBsw.Async
