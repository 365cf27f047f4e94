import Nack.Lifecycle.Workers
import Nack.Controllers.JetStream.ConsumerWatch
import Nack.Controllers.JetStream.ConsumerBranches
import Mathlib.Data.Fintype.Basic

/-!
Contract: what the work queue guarantees the objects of the consumer controller, over every
interleaving of store moves, watch events, workers and retries.

Owns: `Transition.queue_order`, what one step does to the order of the queue, and from it
`gets_le_ahead`: a queued key is handed out before the workers take more keys than stood
ahead of it; `Controller.Pending` and `change_pending_until_taken`: a change to an object
is not lost before a worker takes its key; `retryBudget` and `takes_le_retryBudget`: with
no new watch event, the rate limiter's retries of a key are bounded; `erroredRound` and
`errored_write_requeues`: a failed run's own Errored write is a watch event that queues its
key again, past that bound; `drain_takes_pending_once`: after `ShutDown` the workers take
only keys that were pending, each once; and `Label.ByWorker` and `pending_key_taken`:
worker steps alone can hand a pending key to a worker.

Does not own: the invariant these rest on (`Nack.Lifecycle.Workers`).
-/

namespace Nack.Lifecycle

open Nack.Apis Nack.Controllers.JetStream Nack.Workqueue

variable {maxQueueRetries : Nat} {streamFinalizerKey : String} {workers : Nat}

/-- A key handed out later in a run is handed out in the run. -/
theorem mem_taken_cons {l : Label workers} {labels : List (Label workers)} {key : ObjectKey}
    (member : key ∈ labels.filterMap Label.taken?) :
    key ∈ (l :: labels).filterMap Label.taken? := by
  cases taken : l.taken? <;> simp [List.filterMap_cons, taken, member]

theorem run_append (s : Controller workers) (first rest : List (Label workers)) :
    s.run maxQueueRetries streamFinalizerKey (first ++ rest) =
      (s.run maxQueueRetries streamFinalizerKey first).bind
        fun t => t.run maxQueueRetries streamFinalizerKey rest := by
  induction first generalizing s with
  | nil => rfl
  | cons l first inductionHypothesis =>
    simp only [List.cons_append, Controller.run]
    cases s.step maxQueueRetries streamFinalizerKey l with
    | none => rfl
    | some next => exact inductionHypothesis next

/-! ## A stopped process stays stopped -/

section Down

variable {s t : Controller workers} {l : Label workers}

/-- Once the process has stopped, only the store moves. -/
theorem Transition.down (transition : Transition maxQueueRetries streamFinalizerKey s l t)
    (stopped : s.up = false) : t.up = false ∧ l.taken? = none := by
  cases transition <;> simp_all [Label.taken?]

/-- A stopped process hands out no key. -/
theorem taken_of_down (stopped : s.up = false) {labels : List (Label workers)}
    (ran : s.run maxQueueRetries streamFinalizerKey labels = some t) :
    labels.filterMap Label.taken? = [] := by
  induction labels generalizing s with
  | nil => rfl
  | cons l labels inductionHypothesis =>
    obtain ⟨next, stepped, rest⟩ := Option.bind_eq_some.mp ran
    have down := (transition_of_step _ _ stepped).down stopped
    simp [List.filterMap_cons, down.2, inductionHypothesis down.1 rest]

end Down

/-! ## First in, first out -/

section Order

variable {s t : Controller workers} {l : Label workers}

/-- **What one step does to the order of the queue.** A `Get` takes the first key; a
crash stops the process; every other step at most appends keys. -/
theorem Transition.queue_order (transition : Transition maxQueueRetries streamFinalizerKey s l t) :
    (∃ w key rest, l = .get w key ∧ s.queue.queue = key :: rest ∧ t.queue.queue = rest) ∨
      (t.up = false ∧ l.taken? = none) ∨
      (l.taken? = none ∧ ∃ extra, t.queue.queue = s.queue.queue ++ extra) := by
  cases transition with
  | @get w key q _ _ got =>
    obtain ⟨rest, queued, rfl⟩ := RateLimitingQueue.get_eq_some _ _ got
    exact .inl ⟨w, key, rest, rfl, queued, rfl⟩
  | halt _ _ _ => exact .inr (.inl ⟨rfl, rfl⟩)
  | @notify key _ _ _ =>
    refine .inr (.inr ⟨rfl, ?_⟩)
    rw [RateLimitingQueue.add_queue]
    split_ifs
    · exact ⟨[], by simp⟩
    · exact ⟨[key], rfl⟩
  | @done _ key _ _ =>
    refine .inr (.inr ⟨rfl, ?_⟩)
    rw [RateLimitingQueue.done_queue]
    split_ifs
    · exact ⟨[key], rfl⟩
    · exact ⟨[], by simp⟩
  | @fire key _ _ fired =>
    obtain ⟨-, -, rfl⟩ := RateLimitingQueue.fire_eq_some _ _ fired
    refine .inr (.inr ⟨rfl, ?_⟩)
    rw [RateLimitingQueue.add_queue]
    split_ifs
    · exact ⟨[], by simp⟩
    · exact ⟨[key], rfl⟩
  | store _ _ => exact .inr (.inr ⟨rfl, [], by simp⟩)
  | process _ _ _ => exact .inr (.inr ⟨rfl, [], by simp [Controller.finish]⟩)
  | shutDown _ => exact .inr (.inr ⟨rfl, [], by simp⟩)

/-- **First in, first out.** Whatever else happens, until a worker takes a queued key the
workers take no more keys than stood ahead of it: later keys, retries and keys queued
again at `Done` all go behind it. -/
theorem gets_le_ahead {labels : List (Label workers)}
    (ran : s.run maxQueueRetries streamFinalizerKey labels = some t)
    {ahead behind : List ObjectKey} {key : ObjectKey}
    (queued : s.queue.queue = ahead ++ key :: behind)
    (notTaken : key ∉ labels.filterMap Label.taken?) :
    (labels.filterMap Label.taken?).length ≤ ahead.length := by
  induction labels generalizing s ahead behind with
  | nil => simp
  | cons l labels inductionHypothesis =>
    obtain ⟨next, stepped, rest⟩ := Option.bind_eq_some.mp ran
    rcases (transition_of_step _ _ stepped).queue_order with
      ⟨w, first, remaining, rfl, taken, after⟩ | ⟨stopped, untaken⟩ |
        ⟨untaken, extra, after⟩
    · simp only [Label.taken?, List.filterMap_cons, List.mem_cons, not_or] at notTaken ⊢
      rw [taken] at queued
      cases ahead with
      | nil => exact absurd (List.cons.inj queued).1.symm notTaken.1
      | cons _ ahead =>
        have bound := inductionHypothesis rest (after.trans (List.cons.inj queued).2) notTaken.2
        simpa using bound
    · simp [untaken, taken_of_down stopped rest]
    · simp only [List.filterMap_cons, untaken] at notTaken ⊢
      exact @inductionHypothesis next rest ahead (behind ++ extra) (by simp [after, queued])
        notTaken

theorem second_key_waits_for_first :
    ∃ t, (⟨Cluster.empty, [],
        ((RateLimitingQueue.empty : RateLimitingQueue ObjectKey).add ⟨"default", "first"⟩).add
          ⟨"default", "second"⟩, fun _ => .idle, true⟩ : Controller 1).run 10
        "streamfinalizer.jetstream.nats.io"
        [.get 0 ⟨"default", "first"⟩, .process 0 (.allOk "t1"), .done 0] = some t ∧
      (([.get 0 ⟨"default", "first"⟩, .process 0 (.allOk "t1"), .done 0] :
          List (Label 1)).filterMap Label.taken?).length ≤
        [(⟨"default", "first"⟩ : ObjectKey)].length :=
  ⟨_, rfl, @gets_le_ahead 10 "streamfinalizer.jetstream.nats.io" 1
    ⟨Cluster.empty, [],
      ((RateLimitingQueue.empty : RateLimitingQueue ObjectKey).add ⟨"default", "first"⟩).add
        ⟨"default", "second"⟩, fun _ => .idle, true⟩ _
    [.get 0 ⟨"default", "first"⟩, .process 0 (.allOk "t1"), .done 0] rfl
    [⟨"default", "first"⟩] [] ⟨"default", "second"⟩ rfl (by simp [Label.taken?])⟩

end Order

/-! ## No change is lost -/

namespace Controller

/-- `key` waits for a worker: a watch event for it is not yet handled, or it is dirty in
the queue. -/
def Pending (s : Controller workers) (key : ObjectKey) : Prop :=
  key ∈ s.watch ∨ s.queue.dirty key = true

end Controller

section Pending

variable {s t : Controller workers} {l : Label workers} {key : ObjectKey}

/-- A store move changes only the object it is about. -/
theorem step_consumers_of_ne {c c' : Cluster} {a : Action}
    (moved : Nack.Lifecycle.step streamFinalizerKey c a = some c') (different : key ≠ a.key) :
    c'.consumers key = c.consumers key := by
  cases move_of_step streamFinalizerKey moved with
  | apply _ | edit _ | delete _ | remove _ _ _ =>
    simp only [Action.key] at different
    simp [different]
  | reconcileAbsent _ => rfl
  | reconcile _ ending => exact ending.others different

theorem mem_observe_of_ne {before after : Cluster}
    (changed : after.consumers key ≠ before.consumers key) (watch : List ObjectKey) :
    key ∈ watch ++ observe before after key := by
  simp [observe, changed]

/-- A step that changes the object at `key` leaves a watch event for `key`. -/
theorem Transition.watched (transition : Transition maxQueueRetries streamFinalizerKey s l t)
    (changed : t.cluster.consumers key ≠ s.cluster.consumers key) :
    key ∈ t.watch ∨ t.up = false := by
  cases transition with
  | @store a _ _ moved =>
    by_cases same : key = a.key
    · exact .inl (same ▸ mem_observe_of_ne (same ▸ changed) _)
    · exact absurd (step_consumers_of_ne moved same) changed
  | process _ _ _ =>
    exact .inl (List.mem_append_right _ (processConsumer_watched _ _ _ _ changed))
  | halt _ _ _ => exact .inr rfl
  | _ => exact absurd rfl changed

/-- A pending key stays pending through every step but a `Get` of it, as long as the
queue is not shut down. -/
theorem Transition.pending (transition : Transition maxQueueRetries streamFinalizerKey s l t)
    (running : s.queue.shuttingDown = false) (notTaken : l.taken? ≠ some key)
    (pending : s.Pending key) : t.Pending key ∨ t.up = false := by
  unfold Controller.Pending at pending ⊢
  cases transition with
  | store _ _ => exact .inl (pending.imp (List.mem_append_left _) id)
  | @notify other rest _ watched =>
    refine .inl ?_
    rw [watched, List.mem_cons] at pending
    simp only [RateLimitingQueue.add_dirty, running, Bool.not_false, Bool.and_true,
      Bool.or_eq_true, decide_eq_true_eq]
    rcases pending with (same | later) | dirty
    · exact .inr (.inr same)
    · exact .inl later
    · exact .inr (.inl dirty)
  | @get w other q _ _ got =>
    obtain ⟨rest, queued, rfl⟩ := RateLimitingQueue.get_eq_some _ _ got
    have different : key ≠ other := fun same => notTaken (same ▸ rfl)
    exact .inl (by simpa [different] using pending)
  | process _ _ _ =>
    exact .inl (by simpa [Controller.finish] using pending.imp (List.mem_append_left _) id)
  | halt _ _ _ => exact .inr rfl
  | done _ _ => exact .inl (by simpa using pending)
  | @fire other q _ fired =>
    obtain ⟨-, -, rfl⟩ := RateLimitingQueue.fire_eq_some _ _ fired
    refine .inl (pending.imp id fun dirty => ?_)
    simp [RateLimitingQueue.add_dirty, dirty]
  | shutDown _ => exact .inl pending

/-- Only `ShutDown` shuts the queue down. -/
theorem Transition.shuttingDown (transition : Transition maxQueueRetries streamFinalizerKey s l t)
    (running : s.queue.shuttingDown = false) (notShutDown : l ≠ .shutDown) :
    t.queue.shuttingDown = false := by
  cases transition with
  | @get _ _ q _ _ got =>
    obtain ⟨rest, queued, rfl⟩ := RateLimitingQueue.get_eq_some _ _ got
    exact running
  | @fire _ q _ fired =>
    obtain ⟨-, -, rfl⟩ := RateLimitingQueue.fire_eq_some _ _ fired
    simpa using running
  | shutDown _ => exact absurd rfl notShutDown
  | halt _ _ _ => rfl
  | _ => simpa [Controller.finish] using running

/-- The run lemma behind `change_pending_until_taken`: a key stays pending, or its
object stays as it was at `origin` while the key was not pending there. -/
theorem run_pending {origin : Controller workers} {labels : List (Label workers)}
    (ran : s.run maxQueueRetries streamFinalizerKey labels = some t)
    (running : s.queue.shuttingDown = false) (notShutDown : Label.shutDown ∉ labels)
    (notTaken : key ∉ labels.filterMap Label.taken?)
    (holds : s.Pending key ∨ s.up = false ∨
      (s.cluster.consumers key = origin.cluster.consumers key ∧ ¬ origin.Pending key)) :
    t.Pending key ∨ t.up = false ∨
      (t.cluster.consumers key = origin.cluster.consumers key ∧ ¬ origin.Pending key) := by
  induction labels generalizing s with
  | nil => exact Option.some.inj ran ▸ holds
  | cons l labels inductionHypothesis =>
    obtain ⟨next, stepped, rest⟩ := Option.bind_eq_some.mp ran
    have transition := transition_of_step _ _ stepped
    have notShutDown' : l ≠ .shutDown := fun same => notShutDown (same ▸ .head _)
    have untaken : l.taken? ≠ some key := fun taken => notTaken (by simp [taken])
    refine inductionHypothesis rest (transition.shuttingDown running notShutDown')
      (fun member => notShutDown (.tail _ member))
      (fun member => notTaken (mem_taken_cons member)) ?_
    rcases holds with pending | stopped | ⟨unchanged, notPending⟩
    · exact (transition.pending running untaken pending).elim .inl (.inr ∘ .inl)
    · exact .inr (.inl (transition.down stopped).1)
    · by_cases same : next.cluster.consumers key = s.cluster.consumers key
      · exact .inr (.inr ⟨same.trans unchanged, notPending⟩)
      · exact (transition.watched same).elim (.inl ∘ .inl) (.inr ∘ .inl)

/-- **No change is lost.** Along any run in which the queue is not shut down and no worker
takes `key`, a key that was pending, or whose object has changed, is pending at the end:
a watch event for it waits, or it is dirty in the queue, unless the process stopped. -/
theorem change_pending_until_taken {labels : List (Label workers)}
    (ran : s.run maxQueueRetries streamFinalizerKey labels = some t)
    (running : s.queue.shuttingDown = false) (notShutDown : Label.shutDown ∉ labels)
    (notTaken : key ∉ labels.filterMap Label.taken?)
    (pendingOrChanged : s.Pending key ∨ t.cluster.consumers key ≠ s.cluster.consumers key) :
    t.Pending key ∨ t.up = false := by
  have start : s.Pending key ∨ s.up = false ∨
      (s.cluster.consumers key = s.cluster.consumers key ∧ ¬ s.Pending key) := by
    by_cases pending : s.Pending key
    · exact .inl pending
    · exact .inr (.inr ⟨rfl, pending⟩)
  rcases run_pending ran running notShutDown notTaken start with
    pending | stopped | ⟨unchanged, notPending⟩
  · exact .inl pending
  · exact .inr stopped
  · exact absurd unchanged (pendingOrChanged.resolve_left notPending)

theorem edit_pending_until_taken :
    ∃ t, (Controller.start (Cluster.empty.setObject ⟨"default", "my-consumer"⟩
        (.ofManifest ⟨"orders", "my-consumer", [], none⟩ [])) [] : Controller 1).run 10
        "streamfinalizer.jetstream.nats.io"
        [.store (.edit ⟨"default", "my-consumer"⟩ ⟨"orders", "renamed", [], none⟩)] =
          some t ∧
      (t.Pending ⟨"default", "my-consumer"⟩ ∨ t.up = false) :=
  ⟨_, rfl, @change_pending_until_taken 10 "streamfinalizer.jetstream.nats.io" 1
    (Controller.start (Cluster.empty.setObject ⟨"default", "my-consumer"⟩
        (.ofManifest ⟨"orders", "my-consumer", [], none⟩ [])) []) _
    ⟨"default", "my-consumer"⟩
    [.store (.edit ⟨"default", "my-consumer"⟩ ⟨"orders", "renamed", [], none⟩)] rfl rfl
    (by simp) (by simp [Label.taken?]) (.inr (by decide))⟩

end Pending

/-! ## Retries are bounded -/

/-- The most hand-outs a key can still get with no new watch event for it, from the
queue's counts: a pending `Add` and a waiting retry each allow `maxQueueRetries + 1`
hand-outs, a run in progress `maxQueueRetries` retries, less the failures already counted. -/
def budget (maxQueueRetries : Nat) (dirty waiting running : Bool) (failures : Nat) : Nat :=
  (if dirty then maxQueueRetries + 1 else 0) + (if waiting then maxQueueRetries + 1 else 0) +
    (if running then maxQueueRetries else 0) - failures

namespace Controller

/-- `budget` for `key` in the controller's state. -/
def retryBudget (maxQueueRetries : Nat) (s : Controller workers) (key : ObjectKey) : Nat :=
  budget maxQueueRetries (s.queue.dirty key) (s.queue.waiting key)
    (decide (∃ w, s.phases w = .running key)) (s.queue.failures key)

end Controller

section Budget

variable {s t : Controller workers} {l : Label workers} {key : ObjectKey}

/-- A `Get` turns the pending `Add` into a run in progress and spends one hand-out. -/
theorem budget_take {failures : Nat} (waiting : Bool) (bounded : failures ≤ maxQueueRetries) :
    budget maxQueueRetries false waiting true failures + 1 ≤
      budget maxQueueRetries true waiting false failures := by
  cases waiting <;> simp only [budget, if_true, if_false, Bool.false_eq_true] <;> omega

/-- A run whose key is forgotten gives up the run's budget and the counted failures. -/
theorem budget_forget {failures : Nat} (dirty waiting : Bool)
    (bounded : failures ≤ maxQueueRetries) :
    budget maxQueueRetries dirty waiting false 0 ≤
      budget maxQueueRetries dirty waiting true failures := by
  cases dirty <;> cases waiting <;> simp only [budget, if_true, if_false, Bool.false_eq_true] <;>
    omega

/-- A retried run gives up the run's budget for a waiting retry, with one more failure. -/
theorem budget_retry {failures : Nat} (dirty waiting waiting' : Bool)
    (below : failures < maxQueueRetries) :
    budget maxQueueRetries dirty waiting' false (failures + 1) ≤
      budget maxQueueRetries dirty waiting true failures := by
  cases dirty <;> cases waiting <;> cases waiting' <;>
    simp only [budget, if_true, if_false, Bool.false_eq_true] <;> omega

/-- A ready retry becomes a pending `Add`, or nothing if one is pending already. -/
theorem budget_fire {failures : Nat} (dirty running : Bool) :
    budget maxQueueRetries true false running failures ≤
      budget maxQueueRetries dirty true running failures := by
  cases dirty <;> cases running <;> simp only [budget, if_true, if_false, Bool.false_eq_true] <;>
    omega

/-- A worker that moves between two phases other than running `key` does not change whether
some worker runs `key`. -/
theorem exists_running_update {phases : Fin workers → Phase} {w : Fin workers} {phase : Phase}
    (before : phases w ≠ .running key) (after : phase ≠ .running key) :
    (∃ w', Function.update phases w phase w' = .running key) ↔
      ∃ w', phases w' = .running key := by
  constructor
  · rintro ⟨w', running⟩
    by_cases same : w' = w
    · subst same
      simp [after] at running
    · exact ⟨w', by simpa [same] using running⟩
  · rintro ⟨w', running⟩
    have different : w' ≠ w := by
      rintro rfl
      exact before running
    exact ⟨w', by simpa [different] using running⟩

/-- **The step lemma of the budget.** No step but a new watch event for `key` raises its
budget, and a `Get` of `key` lowers it. -/
theorem Transition.retryBudget (transition : Transition maxQueueRetries streamFinalizerKey s l t)
    (sound : s.Sound maxQueueRetries) (unwatched : l ≠ .notify key) :
    t.retryBudget maxQueueRetries key + (if l.taken? = some key then 1 else 0) ≤
      s.retryBudget maxQueueRetries key := by
  have bounded := sound.failures key
  cases transition with
  | store _ _ => simp [Controller.retryBudget, Label.taken?]
  | @notify other _ _ _ =>
    have different : key ≠ other := fun same => unwatched (same ▸ rfl)
    simp [Controller.retryBudget, Label.taken?, RateLimitingQueue.add_dirty, different]
  | @get w other q _ idle got =>
    obtain ⟨rest, queued, rfl⟩ := RateLimitingQueue.get_eq_some _ _ got
    by_cases same : other = key
    · subst same
      have dirty := ((sound.queue.mem_queue other).mp (by simp [queued])).1
      have held : ∀ w', (s.phases w').key? ≠ some other := sound.not_held (by simp [queued])
      have free : ¬ ∃ w', s.phases w' = .running other := fun ⟨w', running⟩ =>
        held w' (by simp [running, Phase.key?])
      have nowRunning : ∃ w', Function.update s.phases w (.running other) w' = .running other :=
        ⟨w, by simp⟩
      simpa [Controller.retryBudget, Label.taken?, dirty, free, nowRunning] using
        budget_take (s.queue.waiting other) bounded
    · have unchanged : (∃ w', Function.update s.phases w (.running other) w' = .running key) ↔
          ∃ w', s.phases w' = .running key :=
        exists_running_update (by simp [idle]) (by simpa using same)
      simp [Controller.retryBudget, Label.taken?, same, Ne.symm same, unchanged]
  | @process w env other err _ running _ =>
    by_cases same : other = key
    · subst same
      have wasRunning : ∃ w', s.phases w' = .running other := ⟨w, running⟩
      have stopped :
          ¬ ∃ w', Function.update s.phases w (.finished other) w' = .running other := by
        rintro ⟨w', running'⟩
        have different : w' ≠ w := by
          rintro rfl
          simp at running'
        simp only [ne_eq, different, not_false_eq_true, Function.update_noteq] at running'
        exact different (sound.exclusive w' w other (by simp [running', Phase.key?])
          (by simp [running, Phase.key?]))
      simp only [Controller.retryBudget, Controller.finish, Label.taken?, wasRunning, stopped,
        requeue_dirty, decide_True, decide_False, reduceCtorEq, if_false, add_zero]
      rw [requeue_eq]
      split_ifs with retried
      · simpa using budget_retry (s.queue.dirty other) (s.queue.waiting other)
          ((s.queue.addRateLimited other).waiting other) retried.2
      · simpa using budget_forget (s.queue.dirty other) (s.queue.waiting other) bounded
    · have unchanged : (∃ w', Function.update s.phases w (.finished other) w' = .running key) ↔
          ∃ w', s.phases w' = .running key :=
        exists_running_update (by simpa [running] using same) (by simp)
      have counts := requeue_ne maxQueueRetries s.queue other err (Ne.symm same)
      simp [Controller.retryBudget, Controller.finish, Label.taken?, unchanged, counts.1, counts.2]
  | halt _ _ _ =>
    simp [Controller.retryBudget, Controller.crash, budget, RateLimitingQueue.empty, Label.taken?]
  | @done w other _ finished =>
    have unchanged : (∃ w', Function.update s.phases w .idle w' = .running key) ↔
        ∃ w', s.phases w' = .running key :=
      exists_running_update (by simp [finished]) (by simp)
    simp [Controller.retryBudget, Label.taken?, unchanged]
  | @fire other q _ fired =>
    obtain ⟨running, waiting, rfl⟩ := RateLimitingQueue.fire_eq_some _ _ fired
    by_cases same : other = key
    · subst same
      simpa [Controller.retryBudget, Label.taken?, RateLimitingQueue.add_dirty, waiting, running]
        using budget_fire (s.queue.dirty other) (decide (∃ w, s.phases w = .running other))
    · simp [Controller.retryBudget, Label.taken?, RateLimitingQueue.add_dirty, Ne.symm same]
  | shutDown _ => simp [Controller.retryBudget, Label.taken?]

/-- **Retries are bounded.** Along any run with no new watch event for `key`, the workers
are handed `key` at most `retryBudget` times: a failed run is retried while the rate
limiter counts fewer than `maxQueueRetries` failures, and dropped after that. -/
theorem takes_le_retryBudget (sound : s.Sound maxQueueRetries) {labels : List (Label workers)}
    (ran : s.run maxQueueRetries streamFinalizerKey labels = some t)
    (unwatched : Label.notify key ∉ labels) :
    (labels.filterMap Label.taken?).count key ≤ s.retryBudget maxQueueRetries key := by
  induction labels generalizing s with
  | nil => simp
  | cons l labels inductionHypothesis =>
    obtain ⟨next, stepped, rest⟩ := Option.bind_eq_some.mp ran
    have transition := transition_of_step _ _ stepped
    have lowered := transition.retryBudget sound fun same => unwatched (same ▸ .head _)
    have later := inductionHypothesis (transition.sound sound) rest
      fun member => unwatched (.tail _ member)
    cases taken : l.taken? with
    | none => simp only [List.filterMap_cons, taken] at lowered ⊢; omega
    | some other =>
      by_cases same : other = key
      · subst same
        simp only [List.filterMap_cons, taken, List.count_cons_self, if_true] at lowered ⊢
        omega
      · simp only [List.filterMap_cons, taken, List.count_cons, same, beq_iff_eq, if_false,
          Option.some.injEq] at lowered ⊢
        omega

end Budget

/-! ## A failed run's own write queues it again -/

/-- Worker `w`'s round on `key` in a world where connecting to NATS fails with `message` and
the clock reads `now`: it takes `key`, its run fails and writes the Errored status, it is
done, and the informer hands on the watch event of that write. -/
def erroredRound (w : Fin workers) (key : ObjectKey) (message now : String) :
    List (Label workers) :=
  [.get w key, .process w (.faultAt .connect (.fail message) now), .done w, .notify key]

namespace Controller

/-- The controller between two such rounds: `key` alone is queued, worker `w` is idle, no
watch event waits, and `key`'s object is `cns`. -/
structure Requeued (s : Controller workers) (w : Fin workers) (key : ObjectKey)
    (cns : Consumer) : Prop where
  up : s.up = true
  idle : s.phases w = .idle
  queued : s.queue.queue = [key]
  accepting : s.queue.shuttingDown = false
  quiet : s.watch = []
  found : s.cluster.consumers key = some cns

end Controller

section Requeue

variable {s : Controller workers} {w : Fin workers} {key : ObjectKey} {cns : Consumer}

/-- **One round.** A run whose Errored write changes the object leaves the controller as it
found it, with the new status recorded. -/
theorem errored_round (requeued : s.Requeued w key cns) {message now : String}
    (changes : erroredStatus now message cns ≠ cns.status) :
    ∃ t, s.run maxQueueRetries streamFinalizerKey (erroredRound w key message now) = some t ∧
      t.Requeued w key { cns with status := erroredStatus now message cns } := by
  have report := processConsumer_connect_failure streamFinalizerKey
    (.faultAt .connect (.fail message) now) key requeued.found rfl rfl rfl
  simp only [Env.faultAt] at report
  have watched := observe_writeStatus requeued.found (erroredStatus now message cns)
  rw [if_neg changes] at watched
  simp only [erroredRound, Controller.run, Controller.step, requeued.up, requeued.idle, and_self,
    ↓reduceIte, RateLimitingQueue.get, requeued.queued, requeued.quiet, Outcome.returned,
    Env.faultAt, Controller.finish, Option.bind_some, Option.some_bind, Function.update_same,
    report, watched, List.nil_append, Function.update_idem, List.head?_cons, List.tail_cons,
    Option.some.injEq, exists_eq_left']
  exact ⟨rfl, by simp, by simp [RateLimitingQueue.add_queue, RateLimitingQueue.done_queue,
    requeued.accepting], by simp [requeued.accepting], rfl, by simp [requeued.found]⟩

/-- The status a run writes at `now` reads back that run's Errored condition as Ready. -/
theorem erroredStatus_ready (now message : String) (cns : Consumer) :
    (erroredStatus now message cns).conditions.find? (·.type == readyCondType) =
      some (erroredCondition now message) :=
  find?_upsertCondition cns.status.conditions (erroredCondition now message)

/-- A round hands `key` out once. -/
theorem erroredRound_taken (now message : String) :
    (erroredRound w key message now).filterMap Label.taken? = [key] := rfl

/-- **A failed run queues its key again.** Where connecting to NATS keeps failing, each
run's Errored write, made at a new time, is a watch event for `key`. Once the informer hands
it on, worker `w` takes `key` again. So `key` is taken once per round for as many rounds as
there are clock readings. That goes past `maxQueueRetries`, which bounds only the rate
limiter's retries (`takes_le_retryBudget`). -/
theorem errored_write_requeues (requeued : s.Requeued w key cns) {message : String}
    {clocks : List String} (distinct : clocks.Nodup)
    (unrecorded : ∀ now ∈ clocks, cns.status.conditions.find? (·.type == readyCondType) ≠
      some (erroredCondition now message)) :
    ∃ t, s.run maxQueueRetries streamFinalizerKey
        (clocks.flatMap (erroredRound w key message)) = some t ∧
      ((clocks.flatMap (erroredRound w key message)).filterMap Label.taken?).count key =
        clocks.length := by
  induction clocks generalizing s cns with
  | nil => exact ⟨s, rfl, rfl⟩
  | cons now clocks inductionHypothesis =>
    obtain ⟨fresh, distinct⟩ := List.nodup_cons.mp distinct
    have changes : erroredStatus now message cns ≠ cns.status := fun same =>
      unrecorded now (.head _) (same ▸ erroredStatus_ready now message cns)
    have moved : ∀ later ∈ clocks, (erroredStatus now message cns).conditions.find?
        (·.type == readyCondType) ≠ some (erroredCondition later message) := by
      intro later member same
      simp only [erroredStatus_ready, Option.some.injEq, erroredCondition, Condition.mk.injEq,
        true_and, and_true] at same
      exact fresh (same ▸ member)
    obtain ⟨mid, round, next⟩ := errored_round requeued changes
    obtain ⟨t, rest, taken⟩ := inductionHypothesis next distinct moved
    refine ⟨t, by rw [List.flatMap_cons, run_append, round]; exact rest, ?_⟩
    simp [List.flatMap_cons, List.filterMap_append, erroredRound_taken, taken, List.count_cons]

end Requeue

theorem connect_failures_requeued_past_retries :
    ∃ t, (⟨Cluster.empty.setObject ⟨"default", "my-consumer"⟩
          (.ofManifest ⟨"orders", "my-consumer", [], none⟩ []), [],
        (RateLimitingQueue.empty : RateLimitingQueue ObjectKey).add ⟨"default", "my-consumer"⟩,
        fun _ => .idle, true⟩ : Controller 1).run 10 "streamfinalizer.jetstream.nats.io"
        (["t1", "t2", "t3", "t4", "t5", "t6", "t7", "t8", "t9", "t10", "t11", "t12"].flatMap
          (erroredRound (0 : Fin 1) ⟨"default", "my-consumer"⟩ "nats: no servers available for connection")) =
        some t ∧
      ((["t1", "t2", "t3", "t4", "t5", "t6", "t7", "t8", "t9", "t10", "t11", "t12"].flatMap
          (erroredRound (0 : Fin 1) ⟨"default", "my-consumer"⟩
            "nats: no servers available for connection")).filterMap Label.taken?).count
        ⟨"default", "my-consumer"⟩ = 12 :=
  errored_write_requeues ⟨rfl, rfl, rfl, rfl, rfl, rfl⟩ (by decide)
    (by simp [Consumer.ofManifest])

/-! ## Shutting down drains the queue -/

section Drain

variable {s t : Controller workers} {l : Label workers}

/-- A `Get` takes a queued key and clears its mark. -/
theorem Transition.taken (transition : Transition maxQueueRetries streamFinalizerKey s l t)
    {key : ObjectKey} (taken : l.taken? = some key) :
    key ∈ s.queue.queue ∧ t.queue.dirty key = false := by
  cases transition with
  | @get _ other q _ _ got =>
    simp only [Label.taken?, Option.some.injEq] at taken
    subst taken
    obtain ⟨rest, queued, rfl⟩ := RateLimitingQueue.get_eq_some _ _ got
    simp [queued]
  | _ => simp [Label.taken?] at taken

/-- Once the queue is shut down, no step marks a key dirty, and the queue stays shut down
or the process stops. -/
theorem Transition.stopping (transition : Transition maxQueueRetries streamFinalizerKey s l t)
    (stopping : s.queue.shuttingDown = true ∨ s.up = false) :
    (t.queue.shuttingDown = true ∨ t.up = false) ∧
      ∀ key, t.queue.dirty key = true → s.queue.dirty key = true := by
  cases transition with
  | store _ _ => exact ⟨stopping, fun _ => id⟩
  | notify up _ =>
    have stopped := stopping.resolve_right (by simp [up])
    exact ⟨.inl (by simpa using stopped),
      fun key => by simp [RateLimitingQueue.add_dirty, stopped]⟩
  | @get _ other q up _ got =>
    obtain ⟨rest, queued, rfl⟩ := RateLimitingQueue.get_eq_some _ _ got
    refine ⟨stopping, fun key dirty => ?_⟩
    by_cases same : key = other
    · subst same
      simp at dirty
    · simpa [same] using dirty
  | process _ _ _ =>
    exact ⟨by simpa [Controller.finish] using stopping, fun _ => by simp [Controller.finish]⟩
  | halt _ _ _ =>
    exact ⟨.inr rfl,
      fun _ dirty => by simp [Controller.crash, RateLimitingQueue.empty] at dirty⟩
  | done _ _ => exact ⟨by simpa using stopping, fun _ => by simp⟩
  | @fire _ _ up fired =>
    have stopped := stopping.resolve_right (by simp [up])
    simp [RateLimitingQueue.fire, stopped] at fired
  | shutDown _ => exact ⟨.inl rfl, fun _ => id⟩

/-- **Shutting down drains the queue.** After `ShutDown`, along any run the workers take
only keys that were pending when the queue shut down, and each of them once: nothing is
added any more, and a key taken is never queued again. -/
theorem drain_takes_pending_once (sound : s.Sound maxQueueRetries)
    (stopping : s.queue.shuttingDown = true) {labels : List (Label workers)}
    (ran : s.run maxQueueRetries streamFinalizerKey labels = some t) :
    (labels.filterMap Label.taken?).Nodup ∧
      ∀ key ∈ labels.filterMap Label.taken?, s.queue.dirty key = true := by
  suffices drains : ∀ {u : Controller workers} {labels : List (Label workers)},
      u.Sound maxQueueRetries → (u.queue.shuttingDown = true ∨ u.up = false) →
      u.run maxQueueRetries streamFinalizerKey labels = some t →
      (labels.filterMap Label.taken?).Nodup ∧
        ∀ key ∈ labels.filterMap Label.taken?, u.queue.dirty key = true from
    drains sound (.inl stopping) ran
  intro u labels sound stopping ran
  induction labels generalizing u with
  | nil => simp
  | cons l labels inductionHypothesis =>
    obtain ⟨next, stepped, rest⟩ := Option.bind_eq_some.mp ran
    have transition := transition_of_step _ _ stepped
    have shrinks := transition.stopping stopping
    obtain ⟨nodup, pending⟩ := inductionHypothesis (transition.sound sound) shrinks.1 rest
    cases taken : l.taken? with
    | none =>
      simp only [List.filterMap_cons, taken]
      exact ⟨nodup, fun key member => shrinks.2 key (pending key member)⟩
    | some key =>
      obtain ⟨queued, cleared⟩ := transition.taken taken
      simp only [List.filterMap_cons, taken, List.nodup_cons, List.mem_cons, forall_eq_or_imp]
      exact ⟨⟨fun member => by simp [pending key member] at cleared, nodup⟩,
        ((sound.queue.mem_queue key).mp queued).1,
        fun key member => shrinks.2 key (pending key member)⟩

theorem drain_after_shutdown :
    ∃ t, (⟨(Cluster.empty.setObject ⟨"default", "my-consumer"⟩
        (.ofManifest ⟨"orders", "my-consumer", [], none⟩ [])), [],
        ((RateLimitingQueue.empty : RateLimitingQueue ObjectKey).add
          ⟨"default", "my-consumer"⟩).shutDown,
        fun _ => .idle, true⟩ : Controller 1).run 10 "streamfinalizer.jetstream.nats.io"
        [.get 0 ⟨"default", "my-consumer"⟩, .process 0 (.allOk "t1"), .done 0] = some t ∧
      (([.get 0 ⟨"default", "my-consumer"⟩, .process 0 (.allOk "t1"), .done 0] :
          List (Label 1)).filterMap Label.taken?).Nodup ∧
      ∀ key ∈ ([.get 0 ⟨"default", "my-consumer"⟩, .process 0 (.allOk "t1"), .done 0] :
          List (Label 1)).filterMap Label.taken?,
        (((RateLimitingQueue.empty : RateLimitingQueue ObjectKey).add
          ⟨"default", "my-consumer"⟩).shutDown).dirty key = true :=
  ⟨_, rfl, @drain_takes_pending_once 10 "streamfinalizer.jetstream.nats.io" 1
    ⟨(Cluster.empty.setObject ⟨"default", "my-consumer"⟩
        (.ofManifest ⟨"orders", "my-consumer", [], none⟩ [])), [],
      ((RateLimitingQueue.empty : RateLimitingQueue ObjectKey).add
        ⟨"default", "my-consumer"⟩).shutDown, fun _ => .idle, true⟩ _
    (.of_idle (fun _ => rfl) (RateLimitingQueue.empty_wellFormed.add _).shutDown (fun _ => rfl)
      fun _ => Nat.zero_le _) rfl _ (by rfl)⟩

end Drain

/-! ## A pending key is never stuck -/

section Progress

variable {s t : Controller workers}

/-- Whether a step is a worker's, with its run in the world `Env.allOk clock`. -/
def Label.ByWorker (clock : String) : Label workers → Prop
  | .get _ _ | .done _ => True
  | .process _ env => env = .allOk clock
  | _ => False

/-- A worker can always be brought back to `Get` by its own steps, with its run in a world
where no call fails: no key is handed out, no dirty mark changes, and the queue only grows
at its end. -/
theorem idle_after (up : s.up = true) (w : Fin workers) (clock : String) :
    ∃ labels u, s.run maxQueueRetries streamFinalizerKey labels = some u ∧
      (∀ l ∈ labels, l.ByWorker clock) ∧
      labels.filterMap Label.taken? = [] ∧ u.up = true ∧
      u.phases = Function.update s.phases w .idle ∧ u.queue.dirty = s.queue.dirty ∧
      ∃ extra, u.queue.queue = s.queue.queue ++ extra := by
  cases phase : s.phases w with
  | idle =>
    exact ⟨[], s, rfl, by simp, rfl, up, by rw [← phase, Function.update_eq_self], rfl, [],
      by simp⟩
  | finished key =>
    refine ⟨[.done w],
      { s with queue := s.queue.done key, phases := Function.update s.phases w .idle },
      by simp [Controller.run, Controller.step, up, phase], by simp [Label.ByWorker], rfl, up, rfl,
      by simp, ?_⟩
    rw [RateLimitingQueue.done_queue]
    split_ifs
    · exact ⟨[key], rfl⟩
    · exact ⟨[], by simp⟩
  | running key =>
    have ok := processConsumer_ok_of_reliable streamFinalizerKey (Env.allOk clock) key s.cluster
      (Env.allOk_reliable clock)
    let ran := s.finish maxQueueRetries w key
      (processConsumer streamFinalizerKey (.allOk clock) key s.cluster) none
    refine ⟨[.process w (.allOk clock), .done w],
      { ran with queue := ran.queue.done key, phases := Function.update ran.phases w .idle },
      by simp [Controller.run, Controller.step, up, phase, ok, Outcome.returned, ran,
        Controller.finish], by simp [Label.ByWorker], rfl, up,
      by simp [ran, Controller.finish], by simp [ran, Controller.finish], ?_⟩
    rw [RateLimitingQueue.done_queue]
    split_ifs
    · exact ⟨[key], by simp [ran, Controller.finish]⟩
    · exact ⟨[], by simp [ran, Controller.finish]⟩

/-- From `Get`, a worker works through the queue up to a queued key: it takes each key
ahead of it, runs it in a world where no call fails, and marks it done. -/
theorem taken_from_queue (w : Fin workers) (clock : String) {key : ObjectKey}
    (ahead : List ObjectKey) {behind : List ObjectKey} (up : s.up = true)
    (idle : s.phases w = .idle) (queued : s.queue.queue = ahead ++ key :: behind) :
    ∃ labels t, s.run maxQueueRetries streamFinalizerKey labels = some t ∧
      key ∈ labels.filterMap Label.taken? ∧ (∀ l ∈ labels, l.ByWorker clock) ∧ t.up = true ∧
      t.phases w = .running key := by
  induction ahead generalizing s behind with
  | nil =>
    refine ⟨[.get w key],
      { s with
        queue := { s.queue with
          queue := behind
          processing := Function.update s.queue.processing key true
          dirty := Function.update s.queue.dirty key false }
        phases := Function.update s.phases w (.running key) },
      by simp [Controller.run, Controller.step, up, idle, RateLimitingQueue.get, queued],
      by simp [Label.taken?], by simp [Label.ByWorker], up, by simp⟩
  | cons first ahead inductionHypothesis =>
    let taking : Controller workers :=
      { s with
        queue := { s.queue with
          queue := ahead ++ key :: behind
          processing := Function.update s.queue.processing first true
          dirty := Function.update s.queue.dirty first false }
        phases := Function.update s.phases w (.running first) }
    have took : s.run maxQueueRetries streamFinalizerKey [.get w first] = some taking := by
      simp [Controller.run, Controller.step, up, idle, RateLimitingQueue.get, queued, taking]
    obtain ⟨labels, u, ran, byWorker, untaken, up', phases', -, extra, grown⟩ :=
      idle_after (s := taking) up w clock
    have idle' : u.phases w = .idle := by simp [phases']
    obtain ⟨rest, t, ran', taken, byWorker', stillUp, running⟩ :=
      @inductionHypothesis u (behind ++ extra) up' idle' (by simp [grown, taking])
    refine ⟨[.get w first] ++ (labels ++ rest), t, ?_, ?_, ?_, stillUp, running⟩
    · rw [run_append, took, Option.some_bind, run_append, ran, Option.some_bind, ran']
    · simp only [List.filterMap_append, untaken, List.nil_append]
      exact List.mem_append_right _ taken
    · simp only [List.mem_append, List.mem_singleton]
      rintro l (rfl | member | member)
      · trivial
      · exact byWorker l member
      · exact byWorker' l member

/-- The schedule behind `pending_key_taken`: worker steps, every run in the world
`Env.allOk clock`, that end with a worker holding the key it was just handed. -/
theorem pending_key_taken_by_workers (sound : s.Sound maxQueueRetries) (up : s.up = true)
    {key : ObjectKey} (pending : s.queue.dirty key = true) (w₀ : Fin workers) (clock : String) :
    ∃ labels t w, s.run maxQueueRetries streamFinalizerKey labels = some t ∧
      key ∈ labels.filterMap Label.taken? ∧ (∀ l ∈ labels, l.ByWorker clock) ∧ t.up = true ∧
      t.phases w = .running key := by
  obtain ⟨w, only⟩ : ∃ w, ∀ w', (s.phases w').key? = some key → w' = w := by
    by_cases held : ∃ w, (s.phases w).key? = some key
    · obtain ⟨w, holds⟩ := held
      exact ⟨w, fun w' holds' => sound.exclusive w' w key holds' holds⟩
    · exact ⟨w₀, fun w' holds' => absurd ⟨w', holds'⟩ held⟩
  obtain ⟨labels, u, ran, byWorker, untaken, up', phases', dirty', -⟩ := idle_after up w clock
  have sound' := run_sound sound ran
  have free : u.queue.processing key = false := by
    cases inFlight : u.queue.processing key
    · rfl
    · obtain ⟨w', holds⟩ := sound'.inFlight key inFlight
      by_cases same : w' = w
      · simp [phases', same, Phase.key?] at holds
      · simp only [phases', ne_eq, same, not_false_eq_true, Function.update_noteq] at holds
        exact absurd (only w' holds) same
  have queued : key ∈ u.queue.queue :=
    (sound'.queue.mem_queue key).mpr ⟨by simp [dirty', pending], free⟩
  obtain ⟨ahead, behind, split⟩ := List.append_of_mem queued
  obtain ⟨rest, t, ran', taken, byWorker', stillUp, running⟩ :=
    taken_from_queue w clock ahead up' (by simp [phases']) split
  refine ⟨labels ++ rest, t, w, by rw [run_append, ran, Option.some_bind, ran'], ?_, ?_,
    stillUp, running⟩
  · simpa [List.filterMap_append, untaken] using taken
  · simp only [List.mem_append]
    rintro l (member | member)
    · exact byWorker l member
    · exact byWorker' l member

/-- **A pending key is never stuck.** In a sound state of a running controller with a
worker, a key marked dirty in the queue can be handed to a worker by worker steps alone,
every run in a world where no call fails: the worker holding it, if one does, finishes and
`Done` queues it again, and a free worker then works through the keys ahead of it. -/
theorem pending_key_taken (sound : s.Sound maxQueueRetries) (up : s.up = true)
    {key : ObjectKey} (pending : s.queue.dirty key = true) (w₀ : Fin workers) (clock : String) :
    ∃ labels t, s.run maxQueueRetries streamFinalizerKey labels = some t ∧
      key ∈ labels.filterMap Label.taken? ∧ ∀ l ∈ labels, l.ByWorker clock :=
  let ⟨labels, t, _, ran, taken, byWorker, _⟩ :=
    pending_key_taken_by_workers sound up pending w₀ clock
  ⟨labels, t, ran, taken, byWorker⟩

theorem queued_key_taken :
    ∃ labels t, (⟨(Cluster.empty.setObject ⟨"default", "my-consumer"⟩
        (.ofManifest ⟨"orders", "my-consumer", [], none⟩ [])), [],
        (RateLimitingQueue.empty : RateLimitingQueue ObjectKey).add ⟨"default", "my-consumer"⟩,
        fun _ => .idle, true⟩ : Controller 1).run 10 "streamfinalizer.jetstream.nats.io" labels =
        some t ∧ ⟨"default", "my-consumer"⟩ ∈ labels.filterMap Label.taken? ∧
      ∀ l ∈ labels, l.ByWorker "t1" :=
  pending_key_taken
    (.of_idle (fun _ => rfl) (RateLimitingQueue.empty_wellFormed.add _) (fun _ => rfl)
      fun _ => Nat.zero_le _) rfl rfl 0 "t1"

end Progress

end Nack.Lifecycle
