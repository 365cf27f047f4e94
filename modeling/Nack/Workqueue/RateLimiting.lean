import Mathlib.Data.List.Nodup
import Mathlib.Logic.Function.Basic

/-!
Contract: the rate-limited work queue that `runConsumerQueue` hands to `processQueueNext`
(the spec's section 4.4), as client-go's workqueue keeps it.

Owns: `RateLimitingQueue`, the three layers of the queue in one record: the deduplicating
queue (`queue`, `dirty`, `processing`, `shuttingDown`, with `add`, `get`, `done`,
`shutDown`), the delaying queue (`waiting`, with `addAfter` and `fire`), and the per-item
exponential failure rate limiter (`failures`, with `addRateLimited`, `forget` and
`numRequeues`); `WellFormed`, the queue's own invariant: no item is queued twice, and an
item is queued exactly when it is dirty and not being processed; and one lemma per
operation that it keeps the invariant.

Does not own: the delays themselves. The controller's rate limiter never returns a zero
delay, so every retry goes through the delaying queue, and a waiting retry may become
ready (`fire`) at any later moment: what is proved here holds for every choice of delays.
Metrics and the bucket limiter, which changes no count, are left out.
-/

namespace Nack.Workqueue

/-- The state of one rate-limiting work queue over items `α`. -/
structure RateLimitingQueue (α : Type) where
  /-- The items waiting for a worker, in order. -/
  queue : List α
  /-- The items that need processing: queued, or to be queued when their run is done. -/
  dirty : α → Bool
  /-- The items a worker has taken and not yet marked `done`. -/
  processing : α → Bool
  shuttingDown : Bool
  /-- The items with a retry in the delaying queue, not yet ready. -/
  waiting : α → Bool
  /-- The rate limiter's count of failures per item since it was last forgotten. -/
  failures : α → Nat

namespace RateLimitingQueue

variable {α : Type} [DecidableEq α]

/-- A new queue. -/
def empty : RateLimitingQueue α :=
  ⟨[], fun _ => false, fun _ => false, false, fun _ => false, fun _ => 0⟩

/-- `Add`: a shut-down queue drops the item, a dirty item is already pending, and an item
being processed is queued again only when its run is `done`. -/
def add (q : RateLimitingQueue α) (item : α) : RateLimitingQueue α :=
  if q.shuttingDown then q
  else if q.dirty item then q
  else if q.processing item then { q with dirty := Function.update q.dirty item true }
  else { q with dirty := Function.update q.dirty item true, queue := q.queue ++ [item] }

/-- `Get`: the first queued item, now being processed and no longer dirty; `none` where
`Get` blocks or reports the shutdown. -/
def get (q : RateLimitingQueue α) : Option (α × RateLimitingQueue α) :=
  match q.queue with
  | [] => none
  | item :: rest =>
      some (item, { q with
        queue := rest
        processing := Function.update q.processing item true
        dirty := Function.update q.dirty item false })

/-- `Done`: the item's run is over; if it was added again meanwhile, it is queued now. -/
def done (q : RateLimitingQueue α) (item : α) : RateLimitingQueue α :=
  if q.dirty item then
    { q with processing := Function.update q.processing item false, queue := q.queue ++ [item] }
  else { q with processing := Function.update q.processing item false }

/-- `ShutDown`: from now on nothing is added; `Get` still hands out what is queued. -/
def shutDown (q : RateLimitingQueue α) : RateLimitingQueue α := { q with shuttingDown := true }

/-- `AddAfter` with a positive delay: the item waits in the delaying queue, which keeps
one entry per item. -/
def addAfter (q : RateLimitingQueue α) (item : α) : RateLimitingQueue α :=
  if q.shuttingDown then q else { q with waiting := Function.update q.waiting item true }

/-- The delaying queue's loop adds a waiting item whose delay is over; it stops with the
queue. -/
def fire (q : RateLimitingQueue α) (item : α) : Option (RateLimitingQueue α) :=
  if q.shuttingDown = false ∧ q.waiting item = true then
    some ({ q with waiting := Function.update q.waiting item false }.add item)
  else none

/-- `NumRequeues`. -/
def numRequeues (q : RateLimitingQueue α) (item : α) : Nat := q.failures item

/-- `Forget`: the rate limiter drops the item's failures. -/
def forget (q : RateLimitingQueue α) (item : α) : RateLimitingQueue α :=
  { q with failures := Function.update q.failures item 0 }

/-- `AddRateLimited`: the rate limiter's `When` counts one more failure, and the item
waits for its delay. -/
def addRateLimited (q : RateLimitingQueue α) (item : α) : RateLimitingQueue α :=
  { q with failures := Function.update q.failures item (q.failures item + 1) }.addAfter item

/-! ## The operations, field by field -/

section Fields

variable (q : RateLimitingQueue α) (item : α)

theorem add_queue :
    (q.add item).queue =
      if q.shuttingDown || q.dirty item || q.processing item then q.queue
      else q.queue ++ [item] := by
  unfold add
  cases q.shuttingDown <;> cases q.dirty item <;> cases q.processing item <;> rfl

theorem add_dirty (other : α) :
    (q.add item).dirty other = (q.dirty other || other = item && !q.shuttingDown) := by
  by_cases same : other = item
  · subst same
    unfold add
    cases q.shuttingDown <;> cases dirty : q.dirty other <;> cases q.processing other <;>
      simp [dirty]
  · unfold add
    cases q.shuttingDown <;> cases q.dirty item <;> cases q.processing item <;> simp [same]

/-- `Add` changes only `dirty` and `queue`. -/
theorem add_frame :
    (q.add item).processing = q.processing ∧ (q.add item).shuttingDown = q.shuttingDown ∧
      (q.add item).waiting = q.waiting ∧ (q.add item).failures = q.failures := by
  unfold add
  split_ifs <;> exact ⟨rfl, rfl, rfl, rfl⟩

@[simp] theorem add_processing : (q.add item).processing = q.processing := (add_frame q item).1

@[simp] theorem add_shuttingDown : (q.add item).shuttingDown = q.shuttingDown :=
  (add_frame q item).2.1

@[simp] theorem add_waiting : (q.add item).waiting = q.waiting := (add_frame q item).2.2.1

@[simp] theorem add_failures : (q.add item).failures = q.failures := (add_frame q item).2.2.2

theorem done_queue :
    (q.done item).queue = if q.dirty item then q.queue ++ [item] else q.queue := by
  unfold done; split_ifs <;> rfl

@[simp] theorem done_processing :
    (q.done item).processing = Function.update q.processing item false := by
  unfold done; split_ifs <;> rfl

@[simp] theorem done_dirty : (q.done item).dirty = q.dirty := by
  unfold done; split_ifs <;> rfl

@[simp] theorem done_shuttingDown : (q.done item).shuttingDown = q.shuttingDown := by
  unfold done; split_ifs <;> rfl

@[simp] theorem done_waiting : (q.done item).waiting = q.waiting := by
  unfold done; split_ifs <;> rfl

@[simp] theorem done_failures : (q.done item).failures = q.failures := by
  unfold done; split_ifs <;> rfl

omit [DecidableEq α] in
@[simp] theorem shutDown_queue : q.shutDown.queue = q.queue := rfl
omit [DecidableEq α] in
@[simp] theorem shutDown_dirty : q.shutDown.dirty = q.dirty := rfl
omit [DecidableEq α] in
@[simp] theorem shutDown_processing : q.shutDown.processing = q.processing := rfl
omit [DecidableEq α] in
@[simp] theorem shutDown_shuttingDown : q.shutDown.shuttingDown = true := rfl
omit [DecidableEq α] in
@[simp] theorem shutDown_waiting : q.shutDown.waiting = q.waiting := rfl
omit [DecidableEq α] in
@[simp] theorem shutDown_failures : q.shutDown.failures = q.failures := rfl

@[simp] theorem forget_queue : (q.forget item).queue = q.queue := rfl
@[simp] theorem forget_dirty : (q.forget item).dirty = q.dirty := rfl
@[simp] theorem forget_processing : (q.forget item).processing = q.processing := rfl
@[simp] theorem forget_shuttingDown : (q.forget item).shuttingDown = q.shuttingDown := rfl
@[simp] theorem forget_waiting : (q.forget item).waiting = q.waiting := rfl
@[simp] theorem forget_failures :
    (q.forget item).failures = Function.update q.failures item 0 := rfl

theorem addRateLimited_waiting :
    (q.addRateLimited item).waiting =
      if q.shuttingDown then q.waiting else Function.update q.waiting item true := by
  unfold addRateLimited addAfter; split_ifs <;> rfl

@[simp] theorem addRateLimited_queue : (q.addRateLimited item).queue = q.queue := by
  unfold addRateLimited addAfter; split_ifs <;> rfl

@[simp] theorem addRateLimited_dirty : (q.addRateLimited item).dirty = q.dirty := by
  unfold addRateLimited addAfter; split_ifs <;> rfl

@[simp] theorem addRateLimited_processing :
    (q.addRateLimited item).processing = q.processing := by
  unfold addRateLimited addAfter; split_ifs <;> rfl

@[simp] theorem addRateLimited_shuttingDown :
    (q.addRateLimited item).shuttingDown = q.shuttingDown := by
  unfold addRateLimited addAfter; split_ifs <;> rfl

@[simp] theorem addRateLimited_failures :
    (q.addRateLimited item).failures = Function.update q.failures item (q.failures item + 1) := by
  unfold addRateLimited addAfter; split_ifs <;> rfl

theorem get_eq_some {q' : RateLimitingQueue α} (got : q.get = some (item, q')) :
    ∃ rest, q.queue = item :: rest ∧
      q' = { q with
        queue := rest
        processing := Function.update q.processing item true
        dirty := Function.update q.dirty item false } := by
  unfold get at got
  split at got
  · cases got
  · next rest queued =>
    cases got
    exact ⟨rest, queued, rfl⟩

theorem fire_eq_some {q' : RateLimitingQueue α} (fired : q.fire item = some q') :
    q.shuttingDown = false ∧ q.waiting item = true ∧
      q' = { q with waiting := Function.update q.waiting item false }.add item := by
  unfold fire at fired
  split_ifs at fired with ready
  cases fired
  exact ⟨ready.1, ready.2, rfl⟩

end Fields

/-! ## The queue's invariant -/

/-- No item is queued twice, and an item is queued exactly when it is dirty and no worker
is processing it. -/
structure WellFormed (q : RateLimitingQueue α) : Prop where
  nodup : q.queue.Nodup
  mem_queue : ∀ item, item ∈ q.queue ↔ q.dirty item = true ∧ q.processing item = false

section WellFormed

variable {q : RateLimitingQueue α}

omit [DecidableEq α] in
theorem empty_wellFormed : (empty : RateLimitingQueue α).WellFormed :=
  ⟨List.nodup_nil, fun _ => by simp [empty]⟩

theorem WellFormed.add (wf : q.WellFormed) (item : α) : (q.add item).WellFormed := by
  unfold RateLimitingQueue.add
  split_ifs with stopped pending inFlight
  · exact wf
  · exact wf
  · refine ⟨wf.nodup, fun other => ?_⟩
    by_cases same : other = item
    · subst same
      simp [inFlight, wf.mem_queue]
    · simp [same, wf.mem_queue]
  · have absent : item ∉ q.queue := by simp [wf.mem_queue, pending]
    refine ⟨wf.nodup.append (List.nodup_singleton item) (by simpa using absent),
      fun other => ?_⟩
    by_cases same : other = item
    · subst same
      simpa using inFlight
    · simp [same, wf.mem_queue]

/-- `Get` hands out an item no longer queued, and keeps the invariant. -/
theorem WellFormed.get (wf : q.WellFormed) {item : α} {q' : RateLimitingQueue α}
    (got : q.get = some (item, q')) : q'.WellFormed ∧ item ∉ q'.queue := by
  obtain ⟨rest, queued, rfl⟩ := get_eq_some q item got
  have nodup := wf.nodup
  rw [queued, List.nodup_cons] at nodup
  refine ⟨⟨nodup.2, fun other => ?_⟩, nodup.1⟩
  by_cases same : other = item
  · subst same
    simp [nodup.1]
  · have member := wf.mem_queue other
    simp only [queued, List.mem_cons, same, false_or] at member
    simp [same, member]

/-- `Done` of an item a worker is processing keeps the invariant. -/
theorem WellFormed.done (wf : q.WellFormed) {item : α} (inFlight : q.processing item = true) :
    (q.done item).WellFormed := by
  have absent : item ∉ q.queue := by simp [wf.mem_queue, inFlight]
  refine ⟨?_, fun other => ?_⟩
  · rw [done_queue]
    split_ifs
    · exact wf.nodup.append (List.nodup_singleton item) (by simpa using absent)
    · exact wf.nodup
  · by_cases same : other = item
    · subst same
      rw [done_queue]
      split_ifs with pending <;> simp [pending, absent]
    · rw [done_queue]
      split_ifs <;> simp [same, wf.mem_queue]

omit [DecidableEq α] in
theorem WellFormed.shutDown (wf : q.WellFormed) : q.shutDown.WellFormed :=
  ⟨wf.nodup, wf.mem_queue⟩

theorem WellFormed.forget (wf : q.WellFormed) (item : α) : (q.forget item).WellFormed :=
  ⟨wf.nodup, wf.mem_queue⟩

theorem WellFormed.addRateLimited (wf : q.WellFormed) (item : α) :
    (q.addRateLimited item).WellFormed :=
  ⟨by simpa using wf.nodup, by simpa using wf.mem_queue⟩

theorem WellFormed.fire (wf : q.WellFormed) {item : α} {q' : RateLimitingQueue α}
    (fired : q.fire item = some q') : q'.WellFormed := by
  obtain ⟨-, -, rfl⟩ := fire_eq_some q item fired
  exact WellFormed.add (show WellFormed { q with waiting := Function.update q.waiting item false }
    from ⟨wf.nodup, wf.mem_queue⟩) item

end WellFormed

end RateLimitingQueue

end Nack.Workqueue
