import Nack.Lifecycle.Step
import Nack.Workqueue.RateLimiting

/-!
Contract: the consumer controller as a whole: the store and its watch, the work queue,
and the workers that each run `runConsumerQueue`, interleaved in any order.

Owns: `Phase`, where one worker is in `processQueueNext`; `requeue`, what
`processQueueNext` tells the queue once `processConsumer` returned; `Controller`, the
state of the system, and `Label`, its steps: a store move, the informer handing the next
watch event to the event handler (which adds the key), a worker's `Get`, its run of
`processConsumer` with the retry decision, its deferred `Done`, a retry whose delay is
over, and `ShutDown`; `Controller.step` and `Controller.run`; `Transition`, everything one
step can do; `Controller.Sound`, the invariant of every run (the queue's own invariant, each
key in flight held by the worker that took it and by no other, failures within the retry
bound), with its step lemma `Transition.sound` and run lemma `run_sound`; and
`run_simulates`: with one worker, the cluster of the controller only ever moves as the store
system (`Nack.Lifecycle.step`) moves.

`processQueueNext` takes the queue's lock three times, and each worker step is one of
them: `Get`; the run with `Forget` or `AddRateLimited`; and the deferred `Done`. Each
write of a run that changes its object is one watch event (`Report.watched`), and so is
each store move that changes one. A run that halts stops the process, and every worker
with it (`Controller.crash`); the next process starts from the cluster it left.

A run is one step, so its calls never interleave with those of another run. With one
worker that is the program: nothing else of the controller moves while `process` runs.
With more workers, runs on different keys overlap call by call in the program; the model
keeps each run whole. What is proved of the queue does not depend on this, since a run
touches the queue only when it returns; neither do the counts for one key, since only the
worker holding a key writes its object. What is proved of the whole cluster along
controller runs (`run_simulates`) is stated for one worker.

Does not own: the key format and `splitNamespaceName`, whose junk-item branch never runs
since only the event handler adds keys; error logging; the informer cache, which a run
reads as the store.
-/

namespace Nack.Controllers.JetStream

open Nack.Workqueue

/-- Where one worker of `runConsumerQueue` is in `processQueueNext`. -/
inductive Phase where
  /-- At `q.Get()`. -/
  | idle
  /-- `Get` returned `key`; `process` has not returned. -/
  | running (key : ObjectKey)
  /-- `process` returned and the queue was told; the deferred `q.Done(key)` is next. -/
  | finished (key : ObjectKey)
deriving DecidableEq, Repr

/-- The key a worker holds between `Get` and `Done`. -/
def Phase.key? : Phase → Option ObjectKey
  | .idle => none
  | .running key | .finished key => some key

/-- How `processConsumer` ended, as `processQueueNext` sees it: the error it returned
(`none` for `nil`), or `none` when the process halted and nothing returned. -/
def Outcome.returned : Outcome → Option (Option String)
  | .ok => some none
  | .error message => some (some message)
  | .halted => none

theorem Outcome.returned_eq_none {outcome : Outcome} :
    outcome.returned = none ↔ outcome = .halted := by
  cases outcome <;> simp [Outcome.returned]

/-- Modelled from the spec: `processQueueNext` is not under src/. Section 4.4: once
`process` returned `err`, a success forgets the key's failures; a failure is retried with
the rate limiter's delay while `NumRequeues` is below `maxQueueRetries`, and forgotten after
that. -/
def requeue (maxQueueRetries : Nat) (q : RateLimitingQueue ObjectKey) (key : ObjectKey) :
    Option String → RateLimitingQueue ObjectKey
  | none => q.forget key
  | some _ => if q.numRequeues key < maxQueueRetries then q.addRateLimited key else q.forget key

end Nack.Controllers.JetStream

namespace Nack.Lifecycle

open Nack.Apis Nack.Controllers.JetStream Nack.Workqueue

/-- The key of the object a move is about. -/
def Action.key : Action → ObjectKey
  | .apply key _ _ | .edit key _ | .delete key _ | .remove key | .reconcile key _ => key

/-- A worker's run of `processConsumer`, as opposed to a move of the store. -/
def Action.isReconcile : Action → Bool
  | .reconcile _ _ => true
  | _ => false

section Workers

variable (maxQueueRetries : Nat)

/-- The consumer controller with `workers` workers. -/
structure Controller (workers : Nat) where
  cluster : Cluster
  /-- The keys of the watch events the informer has not yet handed to the event handler. -/
  watch : List ObjectKey
  queue : RateLimitingQueue ObjectKey
  phases : Fin workers → Phase
  /-- The controller process is running. -/
  up : Bool

/-- One step of the controller. -/
inductive Label (workers : Nat) where
  /-- A user or the store moves; a run is a worker's `process` step instead. -/
  | store (a : Action)
  /-- The informer hands the next watch event, for `key`, to the handler, which adds `key`. -/
  | notify (key : ObjectKey)
  /-- Worker `w`'s `Get` returns `key`. -/
  | get (w : Fin workers) (key : ObjectKey)
  /-- Worker `w` runs `processConsumer` on its key in a world that answers `env`. -/
  | process (w : Fin workers) (env : Env)
  /-- Worker `w`'s deferred `Done`. -/
  | done (w : Fin workers)
  /-- The delay of `key`'s retry is over. -/
  | fire (key : ObjectKey)
  | shutDown

/-- The key a step hands to a worker. -/
def Label.taken? {workers : Nat} : Label workers → Option ObjectKey
  | .get _ key => some key
  | _ => none

variable (streamFinalizerKey : String) {workers : Nat}

namespace Controller

/-- A controller process starting on `cluster`, its informer listing the objects `keys`. -/
def start (cluster : Cluster) (keys : List ObjectKey) : Controller workers :=
  ⟨cluster, keys, .empty, fun _ => .idle, true⟩

/-- The process stopped in a run that left `cluster`. -/
def crash (cluster : Cluster) : Controller workers :=
  ⟨cluster, [], .empty, fun _ => .idle, false⟩

/-- Worker `w`'s run of `processConsumer` on `key` returned `err` and left `report`. -/
def finish (s : Controller workers) (w : Fin workers) (key : ObjectKey) (report : Report)
    (err : Option String) : Controller workers :=
  { s with
    cluster := report.cluster
    watch := s.watch ++ report.watched
    queue := requeue maxQueueRetries s.queue key err
    phases := Function.update s.phases w (.finished key) }

/-- One step; `none` where it cannot be taken. -/
def step (s : Controller workers) : Label workers → Option (Controller workers)
  | .store a =>
      if a.isReconcile then none
      else (Nack.Lifecycle.step streamFinalizerKey s.cluster a).map fun c =>
        { s with cluster := c, watch := s.watch ++ observe s.cluster c a.key }
  | .notify key =>
      if s.up ∧ s.watch.head? = some key then
        some { s with watch := s.watch.tail, queue := s.queue.add key }
      else none
  | .get w key =>
      if s.up ∧ s.phases w = .idle then
        match s.queue.get with
        | some (item, q) =>
            if item = key then
              some { s with queue := q, phases := Function.update s.phases w (.running key) }
            else none
        | none => none
      else none
  | .process w env =>
      match s.up, s.phases w with
      | true, .running key =>
          match (processConsumer streamFinalizerKey env key s.cluster).outcome.returned with
          | some err =>
              some (s.finish maxQueueRetries w key
                (processConsumer streamFinalizerKey env key s.cluster) err)
          | none => some (crash (processConsumer streamFinalizerKey env key s.cluster).cluster)
      | _, _ => none
  | .done w =>
      match s.up, s.phases w with
      | true, .finished key =>
          some { s with queue := s.queue.done key, phases := Function.update s.phases w .idle }
      | _, _ => none
  | .fire key => if s.up then (s.queue.fire key).map fun q => { s with queue := q } else none
  | .shutDown => if s.up then some { s with queue := s.queue.shutDown } else none

/-- The steps `labels`, taken one after another from `s`. -/
def run (s : Controller workers) : List (Label workers) → Option (Controller workers)
  | [] => some s
  | l :: labels => (s.step maxQueueRetries streamFinalizerKey l).bind fun t => run t labels

end Controller

/-- **Everything one step of the controller can do**, with what it needs. -/
inductive Transition (s : Controller workers) : Label workers → Controller workers → Prop where
  | store {a : Action} {c : Cluster} : a.isReconcile = false →
      Nack.Lifecycle.step streamFinalizerKey s.cluster a = some c →
      Transition s (.store a) { s with cluster := c, watch := s.watch ++ observe s.cluster c a.key }
  | notify {key : ObjectKey} {rest : List ObjectKey} : s.up = true → s.watch = key :: rest →
      Transition s (.notify key) { s with watch := rest, queue := s.queue.add key }
  | get {w : Fin workers} {key : ObjectKey} {q : RateLimitingQueue ObjectKey} : s.up = true →
      s.phases w = .idle → s.queue.get = some (key, q) →
      Transition s (.get w key)
        { s with queue := q, phases := Function.update s.phases w (.running key) }
  | process {w : Fin workers} {env : Env} {key : ObjectKey} {err : Option String} :
      s.up = true → s.phases w = .running key →
      (processConsumer streamFinalizerKey env key s.cluster).outcome.returned = some err →
      Transition s (.process w env)
        (s.finish maxQueueRetries w key (processConsumer streamFinalizerKey env key s.cluster) err)
  | halt {w : Fin workers} {env : Env} {key : ObjectKey} : s.up = true →
      s.phases w = .running key →
      (processConsumer streamFinalizerKey env key s.cluster).outcome = .halted →
      Transition s (.process w env)
        (.crash (processConsumer streamFinalizerKey env key s.cluster).cluster)
  | done {w : Fin workers} {key : ObjectKey} : s.up = true → s.phases w = .finished key →
      Transition s (.done w)
        { s with queue := s.queue.done key, phases := Function.update s.phases w .idle }
  | fire {key : ObjectKey} {q : RateLimitingQueue ObjectKey} : s.up = true →
      s.queue.fire key = some q → Transition s (.fire key) { s with queue := q }
  | shutDown : s.up = true → Transition s .shutDown { s with queue := s.queue.shutDown }

theorem transition_of_step {s t : Controller workers} {l : Label workers}
    (stepped : s.step maxQueueRetries streamFinalizerKey l = some t) :
    Transition maxQueueRetries streamFinalizerKey s l t := by
  cases l with
  | store a =>
    simp only [Controller.step] at stepped
    split at stepped
    · cases stepped
    · next notReconcile =>
      obtain ⟨c, moved, rfl⟩ := Option.map_eq_some'.mp stepped
      exact .store (by simpa using notReconcile) moved
  | notify key =>
    simp only [Controller.step] at stepped
    split at stepped
    · next ready =>
      cases stepped
      obtain ⟨up, head⟩ := ready
      obtain ⟨rest, watched⟩ := List.head?_eq_some_iff.mp head
      simp only [watched, List.tail_cons]
      exact .notify up watched
    · cases stepped
  | get w key =>
    simp only [Controller.step] at stepped
    split at stepped
    · next ready =>
      split at stepped
      · next item q got =>
        split at stepped
        · next same =>
          cases stepped
          exact .get ready.1 ready.2 (same ▸ got)
        · cases stepped
      · cases stepped
    · cases stepped
  | process w env =>
    simp only [Controller.step] at stepped
    split at stepped
    · next key up running =>
      split at stepped
      · next err returned =>
        cases stepped
        exact .process up running returned
      · next halted =>
        cases stepped
        exact .halt up running (Outcome.returned_eq_none.mp halted)
    · cases stepped
  | done w =>
    simp only [Controller.step] at stepped
    split at stepped
    · next key up finished =>
      cases stepped
      exact .done up finished
    · cases stepped
  | fire key =>
    simp only [Controller.step] at stepped
    split at stepped
    · next up =>
      obtain ⟨q, fired, rfl⟩ := Option.map_eq_some'.mp stepped
      exact .fire up fired
    · cases stepped
  | shutDown =>
    simp only [Controller.step] at stepped
    split at stepped
    · next up =>
      cases stepped
      exact .shutDown up
    · cases stepped

/-! ## The invariant of every run -/

namespace Controller

/-- What every run of the controller keeps. -/
structure Sound (s : Controller workers) : Prop where
  /-- No key is queued twice, and a key is queued exactly when it is dirty and not in flight. -/
  queue : s.queue.WellFormed
  /-- A key a worker holds between `Get` and `Done` is in flight. -/
  held : ∀ w key, (s.phases w).key? = some key → s.queue.processing key = true
  /-- A key in flight is held by a worker. -/
  inFlight : ∀ key, s.queue.processing key = true → ∃ w, (s.phases w).key? = some key
  /-- No two workers hold the same key. -/
  exclusive :
    ∀ w w' key, (s.phases w).key? = some key → (s.phases w').key? = some key → w = w'
  /-- The rate limiter counts at most `maxQueueRetries` failures of a key. -/
  failures : ∀ key, s.queue.failures key ≤ maxQueueRetries

variable {maxQueueRetries}

/-- A process whose workers are all idle is sound when its queue is well formed, nothing is
in flight and no key has more failures than the bound. -/
theorem Sound.of_idle {s : Controller workers} (idle : ∀ w, s.phases w = .idle)
    (wellFormed : s.queue.WellFormed) (free : ∀ key, s.queue.processing key = false)
    (bounded : ∀ key, s.queue.failures key ≤ maxQueueRetries) : s.Sound maxQueueRetries where
  queue := wellFormed
  held w _ holds := by simp [idle w, Phase.key?] at holds
  inFlight key inFlight := by simp [free key] at inFlight
  exclusive w _ _ holds := by simp [idle w, Phase.key?] at holds
  failures := bounded

theorem start_sound (cluster : Cluster) (keys : List ObjectKey) :
    (start cluster keys : Controller workers).Sound maxQueueRetries :=
  .of_idle (fun _ => rfl) RateLimitingQueue.empty_wellFormed (fun _ => rfl) fun _ => Nat.zero_le _

theorem crash_sound (cluster : Cluster) :
    (crash cluster : Controller workers).Sound maxQueueRetries :=
  .of_idle (fun _ => rfl) RateLimitingQueue.empty_wellFormed (fun _ => rfl) fun _ => Nat.zero_le _

/-- A queued key is held by no worker. -/
theorem Sound.not_held {s : Controller workers} (sound : s.Sound maxQueueRetries)
    {key : ObjectKey} (queued : key ∈ s.queue.queue) (w : Fin workers) :
    (s.phases w).key? ≠ some key := fun holds => by
  have inFlight := sound.held w key holds
  simp [(sound.queue.mem_queue key).mp queued] at inFlight

end Controller

/-! ## The retry decision keeps the queue's invariant -/

section Requeue

variable (q : RateLimitingQueue ObjectKey) (key : ObjectKey) (err : Option String)

/-- `requeue` retries exactly a failure below the bound, and forgets the key otherwise. -/
theorem requeue_eq : requeue maxQueueRetries q key err =
      if err.isSome ∧ q.failures key < maxQueueRetries then q.addRateLimited key
      else q.forget key := by
  cases err <;> simp [requeue, RateLimitingQueue.numRequeues]

@[simp] theorem requeue_queue : (requeue maxQueueRetries q key err).queue = q.queue := by
  rw [requeue_eq]; split_ifs <;> simp

@[simp] theorem requeue_dirty : (requeue maxQueueRetries q key err).dirty = q.dirty := by
  rw [requeue_eq]; split_ifs <;> simp

@[simp] theorem requeue_processing :
    (requeue maxQueueRetries q key err).processing = q.processing := by
  rw [requeue_eq]; split_ifs <;> simp

@[simp] theorem requeue_shuttingDown :
    (requeue maxQueueRetries q key err).shuttingDown = q.shuttingDown := by
  rw [requeue_eq]; split_ifs <;> simp

theorem requeue_failures_self :
    (requeue maxQueueRetries q key err).failures key =
      if err.isSome ∧ q.failures key < maxQueueRetries then q.failures key + 1 else 0 := by
  rw [requeue_eq]; split_ifs <;> simp

theorem requeue_waiting_self :
    (requeue maxQueueRetries q key err).waiting key =
      if err.isSome ∧ q.failures key < maxQueueRetries ∧ q.shuttingDown = false then true
      else q.waiting key := by
  rw [requeue_eq]
  by_cases retried : err.isSome ∧ q.failures key < maxQueueRetries
  · cases stopping : q.shuttingDown <;>
      simp [retried, stopping, RateLimitingQueue.addRateLimited_waiting]
  · rw [if_neg retried, if_neg fun retry => retried ⟨retry.1, retry.2.1⟩]
    rfl

/-- The retry decision for `key` leaves every other key's counts alone. -/
theorem requeue_ne {other : ObjectKey} (different : other ≠ key) :
    (requeue maxQueueRetries q key err).failures other = q.failures other ∧
      (requeue maxQueueRetries q key err).waiting other = q.waiting other := by
  rw [requeue_eq]
  split_ifs
  · cases stopping : q.shuttingDown <;>
      simp [different, stopping, RateLimitingQueue.addRateLimited_waiting]
  · simp [different]

theorem requeue_wellFormed (wf : q.WellFormed) : (requeue maxQueueRetries q key err).WellFormed :=
  ⟨by simpa using wf.nodup, by simpa using wf.mem_queue⟩

/-- A key is retried only below the bound, so its count of failures stays within it. -/
theorem requeue_failures_le (bounded : ∀ other, q.failures other ≤ maxQueueRetries)
    (other : ObjectKey) :
    (requeue maxQueueRetries q key err).failures other ≤ maxQueueRetries := by
  by_cases same : other = key
  · subst same
    rw [requeue_failures_self]
    split_ifs with retried
    · exact retried.2
    · exact Nat.zero_le _
  · rw [(requeue_ne maxQueueRetries q key err same).1]
    exact bounded other

end Requeue

/-! ## Each step keeps the invariant -/

section Sound

variable {maxQueueRetries streamFinalizerKey}
variable {s t : Controller workers} {l : Label workers}

theorem update_key?_of_running {phases : Fin workers → Phase} {w : Fin workers}
    {key : ObjectKey} (running : phases w = .running key) (w' : Fin workers) :
    (Function.update phases w (.finished key) w').key? = (phases w').key? := by
  by_cases same : w' = w
  · subst same
    simp [running, Phase.key?]
  · simp [same]

theorem Transition.sound (transition : Transition maxQueueRetries streamFinalizerKey s l t)
    (sound : s.Sound maxQueueRetries) : t.Sound maxQueueRetries := by
  cases transition with
  | store _ _ =>
    exact ⟨sound.queue, sound.held, sound.inFlight, sound.exclusive, sound.failures⟩
  | notify _ _ =>
    exact ⟨sound.queue.add _, by rw [RateLimitingQueue.add_processing]; exact sound.held,
      by rw [RateLimitingQueue.add_processing]; exact sound.inFlight, sound.exclusive,
      by rw [RateLimitingQueue.add_failures]; exact sound.failures⟩
  | @get w key q _ idle got =>
    obtain ⟨rest, queued, rfl⟩ := RateLimitingQueue.get_eq_some _ _ got
    have free : ∀ w', (s.phases w').key? ≠ some key := sound.not_held (by simp [queued])
    refine ⟨(sound.queue.get got).1, fun w' key' holds => ?_, fun key' inFlight => ?_,
      fun w₁ w₂ key' holds₁ holds₂ => ?_, sound.failures⟩
    · by_cases sameKey : key' = key
      · subst sameKey
        exact Function.update_same _ _ _
      · have other : w' ≠ w := by
          rintro rfl
          simp [Phase.key?] at holds
          exact sameKey holds.symm
        simp only [ne_eq, other, not_false_eq_true, Function.update_noteq] at holds
        simp [sameKey, sound.held w' key' holds]
    · by_cases sameKey : key' = key
      · exact ⟨w, by simp [sameKey, Phase.key?]⟩
      · obtain ⟨w', holds⟩ := sound.inFlight key' (by simpa [sameKey] using inFlight)
        have other : w' ≠ w := by
          rintro rfl
          simp [idle, Phase.key?] at holds
        exact ⟨w', by simpa [other] using holds⟩
    · by_cases first : w₁ = w <;> by_cases second : w₂ = w
      · rw [first, second]
      · subst first
        simp only [Function.update_same, Phase.key?, Option.some.injEq] at holds₁
        subst holds₁
        simp only [ne_eq, second, not_false_eq_true, Function.update_noteq] at holds₂
        exact absurd holds₂ (free w₂)
      · subst second
        simp only [Function.update_same, Phase.key?, Option.some.injEq] at holds₂
        subst holds₂
        simp only [ne_eq, first, not_false_eq_true, Function.update_noteq] at holds₁
        exact absurd holds₁ (free w₁)
      · simp only [ne_eq, first, second, not_false_eq_true, Function.update_noteq]
          at holds₁ holds₂
        exact sound.exclusive w₁ w₂ key' holds₁ holds₂
  | process _ running _ =>
    refine ⟨requeue_wellFormed _ _ _ _ sound.queue, fun w' key' holds => ?_,
      fun key' inFlight => ?_, fun w₁ w₂ key' holds₁ holds₂ => ?_,
      requeue_failures_le _ _ _ _ sound.failures⟩
    · simp only [Controller.finish, update_key?_of_running running] at holds
      simpa [Controller.finish] using sound.held w' key' holds
    · obtain ⟨w', holds⟩ := sound.inFlight key' (by simpa [Controller.finish] using inFlight)
      exact ⟨w', by simpa only [Controller.finish, update_key?_of_running running] using holds⟩
    · simp only [Controller.finish, update_key?_of_running running] at holds₁ holds₂
      exact sound.exclusive w₁ w₂ key' holds₁ holds₂
  | halt _ _ _ => exact Controller.crash_sound _
  | @done w key _ finished =>
    have inFlight := sound.held w key (by simp [finished, Phase.key?])
    refine ⟨sound.queue.done inFlight, fun w' key' holds => ?_, fun key' inFlight' => ?_,
      fun w₁ w₂ key' holds₁ holds₂ => ?_, by simpa using sound.failures⟩
    · by_cases same : w' = w
      · subst same
        simp [Phase.key?] at holds
      · simp only [ne_eq, same, not_false_eq_true, Function.update_noteq] at holds
        have other : key' ≠ key := by
          rintro rfl
          exact same (sound.exclusive w' w key' holds (by simp [finished, Phase.key?]))
        simp [other, sound.held w' key' holds]
    · have other : key' ≠ key := by
        rintro rfl
        simp at inFlight'
      obtain ⟨w', holds⟩ := sound.inFlight key' (by simpa [other] using inFlight')
      have different : w' ≠ w := by
        rintro rfl
        simp [finished, Phase.key?] at holds
        exact other holds.symm
      exact ⟨w', by simpa [different] using holds⟩
    · by_cases first : w₁ = w
      · subst first
        simp [Phase.key?] at holds₁
      · by_cases second : w₂ = w
        · subst second
          simp [Phase.key?] at holds₂
        · simp only [ne_eq, first, second, not_false_eq_true, Function.update_noteq]
            at holds₁ holds₂
          exact sound.exclusive w₁ w₂ key' holds₁ holds₂
  | @fire key q _ fired =>
    obtain ⟨-, -, rfl⟩ := RateLimitingQueue.fire_eq_some _ _ fired
    exact ⟨sound.queue.fire fired, by rw [RateLimitingQueue.add_processing]; exact sound.held,
      by rw [RateLimitingQueue.add_processing]; exact sound.inFlight, sound.exclusive,
      by rw [RateLimitingQueue.add_failures]; exact sound.failures⟩
  | shutDown _ =>
    exact ⟨sound.queue.shutDown, sound.held, sound.inFlight, sound.exclusive, sound.failures⟩

/-- **The run lemma.** Every run keeps `Sound`. -/
theorem run_sound (sound : s.Sound maxQueueRetries) {labels : List (Label workers)}
    (ran : s.run maxQueueRetries streamFinalizerKey labels = some t) : t.Sound maxQueueRetries := by
  induction labels generalizing s with
  | nil => exact Option.some.inj ran ▸ sound
  | cons l labels inductionHypothesis =>
    obtain ⟨next, stepped, rest⟩ := Option.bind_eq_some.mp ran
    exact inductionHypothesis ((transition_of_step _ _ stepped).sound sound) rest

end Sound

/-! ## The controller moves the cluster as the store system does -/

section Simulation

variable {maxQueueRetries streamFinalizerKey}
variable {s t : Controller workers} {l : Label workers}

/-- A step leaves the cluster alone, or moves it by one move of the store system. -/
theorem Transition.simulates (transition : Transition maxQueueRetries streamFinalizerKey s l t) :
    t.cluster = s.cluster ∨
      ∃ a, Nack.Lifecycle.step streamFinalizerKey s.cluster a = some t.cluster := by
  cases transition with
  | store _ moved => exact .inr ⟨_, moved⟩
  | @process _ env key _ _ _ _ => exact .inr ⟨.reconcile key env, rfl⟩
  | @halt _ env key _ _ _ => exact .inr ⟨.reconcile key env, rfl⟩
  | _ => exact .inl rfl

/-- **The controller refines the store system, with one worker.** Every run of a
one-worker controller extends a run of the store system that reaches its start: its store
moves are the system's moves, and each run of `processConsumer`, halted or not, is a
reconcile move. So what holds of every cluster the store system reaches holds all along. -/
theorem run_simulates {s t : Controller 1} {c : Cluster}
    (reaches : Steps streamFinalizerKey anyMove c s.cluster) {labels : List (Label 1)}
    (ran : s.run maxQueueRetries streamFinalizerKey labels = some t) :
    Steps streamFinalizerKey anyMove c t.cluster := by
  induction labels generalizing s with
  | nil => exact Option.some.inj ran ▸ reaches
  | cons l labels inductionHypothesis =>
    obtain ⟨next, stepped, rest⟩ := Option.bind_eq_some.mp ran
    refine inductionHypothesis ?_ rest
    rcases (transition_of_step _ _ stepped).simulates with same | ⟨a, moved⟩
    · exact same ▸ reaches
    · exact reaches.tail a trivial moved

end Simulation

/-! ## Every run of a controller process -/

section Runs

variable {maxQueueRetries streamFinalizerKey}

/-- **The controller's invariant.** In every state of every run of a controller process,
whatever its number of workers and however store moves, watch events, worker steps,
retries and crashes interleave: no key is queued twice; a key is queued exactly when it
is dirty and no worker holds it; a key in flight is held by one worker and by no other;
and the rate limiter counts at most `maxQueueRetries` failures of any key. -/
theorem controller_sound (cluster : Cluster) (keys : List ObjectKey)
    {labels : List (Label workers)} {s : Controller workers}
    (ran : (Controller.start cluster keys).run maxQueueRetries streamFinalizerKey labels = some s) :
    s.Sound maxQueueRetries :=
  run_sound (Controller.start_sound cluster keys) ran

theorem two_workers_sound :
    ∃ s, (Controller.start Cluster.empty [⟨"default", "my-consumer"⟩] : Controller 2).run 10
        "streamfinalizer.jetstream.nats.io"
        [.notify ⟨"default", "my-consumer"⟩, .get 0 ⟨"default", "my-consumer"⟩,
          .process 0 (.allOk "t1"), .done 0] = some s ∧ s.Sound 10 :=
  ⟨_, rfl, @controller_sound 10 "streamfinalizer.jetstream.nats.io" 2 Cluster.empty
    [⟨"default", "my-consumer"⟩]
    [.notify ⟨"default", "my-consumer"⟩, .get 0 ⟨"default", "my-consumer"⟩,
      .process 0 (.allOk "t1"), .done 0] _ rfl⟩

end Runs

end Workers

end Nack.Lifecycle
