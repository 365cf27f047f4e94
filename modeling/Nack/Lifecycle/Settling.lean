import Nack.Lifecycle.Scheduling

/-!
Contract: the controller in a quiet world, where users leave the objects alone and no call
fails. Its own writes do not keep it busy: each object is handed to a worker a bounded
number of times, over every interleaving of watch events, workers, retries, the store's
removals and shutdowns. And a deletion is never stuck: the controller's steps and the
store's removal take a deleting object out of the store.

Owns: `Cluster.changesLeft`, how many more writes an object can undergo in such a world;
`Settles`, that a quiet move pays for each of its watch events with one of those writes,
proved of the store's removal of a deleted object (`settles_removeObject`) and of a run in
which no call fails (`settles_processConsumer`); `Label.Quiet`; `Controller.workLeft`, the
hand-outs still to come for a key; its step lemma `Transition.workLeft`; and
`quiet_takes_le_workLeft`. Then `quiet_run_keeps`, the run lemma for properties of the
cluster along quiet runs; `Cluster.Releasing`, an object that only the token still holds;
and `deleted_object_removed`.

Does not own: the queue's invariant (`Nack.Lifecycle.Workers`), and retries where calls fail
(`Nack.Lifecycle.Scheduling`).

## Why the controller settles

Each write that changes an object is one watch event, and every watch event queues the
object again; a write that leaves the object as it was is no event. The create arm makes two
writes, the finalizer token where the object lacks it and the status, so one run can cause two
watch events for its object. It writes the status with the time of the write, so a second create would
write again. What stops the loop is the arm's guard: the status it writes observes the
object's generation, and a run that finds its generation observed takes the no-op arm,
which writes nothing. The delete arm clears the finalizer token once; written again, the
list is the same, the object does not change, and no event follows.
-/

namespace Nack.Controllers.JetStream

/-- How many more writes the object at `key` can undergo where users leave the objects
alone and no call fails. A live object whose status has not observed its generation can
still be created: a write of the finalizer token, where it lacks it, and a write of the
status. A deleting object can still lose the token, in one write, and then be removed by the
store. -/
def Cluster.changesLeft (streamFinalizerKey : String) (cluster : Cluster) (key : ObjectKey) :
    Nat :=
  match cluster.consumers key with
  | none => 0
  | some cns =>
      if cns.deletionTimestamp.isSome then
        (if streamFinalizerKey ∈ cns.finalizers then 1 else 0) + 1
      else if cns.generation = cns.status.observedGeneration then 0
      else (if streamFinalizerKey ∈ cns.finalizers then 0 else 1) + 1

/-- The object at `key` is gone, or is being deleted and carries no finalizer but the
token. -/
def Cluster.Releasing (streamFinalizerKey : String) (cluster : Cluster) (key : ObjectKey) : Prop :=
  ∀ cns, cluster.consumers key = some cns →
    cns.deletionTimestamp.isSome ∧ ∀ f ∈ cns.finalizers, f = streamFinalizerKey

end Nack.Controllers.JetStream

namespace Nack.Lifecycle

open Nack.Apis Nack.Controllers.JetStream Nack.Workqueue

variable {maxQueueRetries : Nat} {streamFinalizerKey : String} {workers : Nat}

/-! ## One quiet move -/

/-- A move from `before` to `after` whose writes cause the watch events `events` pays for
each event for `key` with a write the object at `key` can no longer undergo. -/
def Settles (streamFinalizerKey : String) (before after : Cluster) (events : List ObjectKey)
    (key : ObjectKey) : Prop :=
  events.count key + after.changesLeft streamFinalizerKey key ≤
    before.changesLeft streamFinalizerKey key

section Quiet

variable {before after : Cluster} {key : ObjectKey}

/-- A move that leaves the object at `key` alone, with no event for it, settles nothing and
unsettles nothing. -/
theorem Settles.of_eq {events : List ObjectKey} (same : after.consumers key = before.consumers key)
    (silent : key ∉ events) : Settles streamFinalizerKey before after events key := by
  simp [Settles, Cluster.changesLeft, same, List.count_eq_zero_of_not_mem silent]

variable (streamFinalizerKey) in
/-- The store's removal of a deleted object whose finalizers are all cleared is the last
write the object can undergo. -/
theorem settles_removeObject {cluster : Cluster} {removed : ObjectKey} {cns : Consumer}
    (found : cluster.consumers removed = some cns) (deleting : cns.deletionTimestamp.isSome)
    (cleared : cns.finalizers = []) (key : ObjectKey) :
    Settles streamFinalizerKey cluster (cluster.removeObject removed)
      (observe cluster (cluster.removeObject removed) removed) key := by
  by_cases same : key = removed
  · subst same
    simp [Settles, Cluster.changesLeft, observe, found, deleting, cleared]
  · exact .of_eq (by simp [same]) (by unfold observe; split_ifs <;> simp [same])

variable (streamFinalizerKey) in
/-- **A run in which no call fails pays for its writes.** It writes its object only in the
create arm, after which the status observes the generation, or in the delete arm, after
which the object no longer carries the token; a write that leaves the object as it was is
no event. -/
theorem settles_processConsumer {env : Env} (reliable : env.Reliable) (run : ObjectKey)
    (cluster : Cluster) (key : ObjectKey) :
    Settles streamFinalizerKey cluster (processConsumer streamFinalizerKey env run cluster).cluster
      (processConsumer streamFinalizerKey env run cluster).watched key := by
  by_cases other : key = run
  swap
  · exact .of_eq (processConsumer_consumers_of_ne _ _ _ other)
      fun member => other (processConsumer_watched_key _ _ _ _ member)
  subst other
  cases found : cluster.consumers key with
  | none => rw [processConsumer_absent _ _ _ found]; exact .of_eq rfl (List.not_mem_nil key)
  | some cns =>
    by_cases deleting : cns.deletionTimestamp.isSome
    · rw [processConsumer_delete_reliable streamFinalizerKey env key found deleting reliable]
      by_cases carried : streamFinalizerKey ∈ cns.finalizers <;>
        simp [Settles, Cluster.changesLeft, found, deleting, carried]
    have live : cns.deletionTimestamp = none := Option.not_isSome_iff_eq_none.mp deleting
    by_cases observed : cns.generation = cns.status.observedGeneration
    · rw [processConsumer_noop_reliable streamFinalizerKey env key found live observed reliable]
      exact .of_eq rfl (List.not_mem_nil key)
    by_cases present : cns.spec.consumerName ∈ cluster.server
    · rw [processConsumer_update_reliable streamFinalizerKey env key found live observed present
        reliable]
      exact .of_eq rfl (List.not_mem_nil key)
    · rw [processConsumer_create_reliable streamFinalizerKey env key found
        ⟨live, observed, present⟩ reliable]
      by_cases carried : streamFinalizerKey ∈ cns.finalizers <;>
        simp [Settles, Cluster.changesLeft, found, live, observed, carried, okStatus]

end Quiet

/-! ## Quiet runs -/

/-- A step of a world in which users leave the objects alone and no call fails: of the
store's moves only its removal of a deleted object, and runs in which every call succeeds. -/
def Label.Quiet : Label workers → Prop
  | .store (.remove _) => True
  | .store _ => False
  | .process _ env => env.Reliable
  | _ => True

/-- The hand-outs still to come for `key` in a quiet world: one for each of its watch
events, for a pending `Add`, for a waiting retry, and for each change its object can still
undergo. -/
def Controller.workLeft (streamFinalizerKey : String) (s : Controller workers)
    (key : ObjectKey) : Nat :=
  s.watch.count key + (if s.queue.dirty key then 1 else 0) +
    (if s.queue.waiting key then 1 else 0) + s.cluster.changesLeft streamFinalizerKey key

section Work

variable {s t : Controller workers} {l : Label workers}

/-- **The step lemma of quiet runs.** No quiet step raises the work left for `key`, and a
`Get` of `key` lowers it. -/
theorem Transition.workLeft (transition : Transition maxQueueRetries streamFinalizerKey s l t)
    (sound : s.Sound maxQueueRetries) (quiet : l.Quiet) (key : ObjectKey) :
    t.workLeft streamFinalizerKey key + (if l.taken? = some key then 1 else 0) ≤
      s.workLeft streamFinalizerKey key := by
  cases transition with
  | @store a c _ moved =>
    cases a with
    | remove removed =>
      cases move_of_step _ moved with
      | remove found deleting cleared =>
        have paid := settles_removeObject streamFinalizerKey found deleting cleared key
        simp only [Settles] at paid
        simp only [Controller.workLeft, Label.taken?, Action.key, List.count_append, reduceCtorEq,
          if_false, add_zero]
        omega
    | _ => exact (quiet : False).elim
  | @notify other rest _ watched =>
    by_cases same : key = other
    · subst same
      have atMostOne : (if (s.queue.add key).dirty key then 1 else 0) ≤ 1 := by split <;> omega
      simp only [Controller.workLeft, watched, List.count_cons_self, Label.taken?,
        RateLimitingQueue.add_waiting, reduceCtorEq, if_false, add_zero]
      omega
    · simp [Controller.workLeft, Label.taken?, watched, RateLimitingQueue.add_dirty, same,
        List.count_cons, Ne.symm same]
  | @get w other q _ _ got =>
    obtain ⟨rest, queued, rfl⟩ := RateLimitingQueue.get_eq_some _ _ got
    by_cases same : other = key
    · subst same
      have dirty := ((sound.queue.mem_queue other).mp (by simp [queued])).1
      simp [Controller.workLeft, Label.taken?, dirty]
      omega
    · simp [Controller.workLeft, Label.taken?, same, Ne.symm same]
  | @process w env other err _ _ returned =>
    have ok := processConsumer_ok_of_reliable streamFinalizerKey env other s.cluster quiet
    have forgotten : err = none := by
      simpa [ok, Outcome.returned] using returned.symm
    subst forgotten
    have paid := settles_processConsumer streamFinalizerKey quiet other s.cluster key
    simp only [Settles] at paid
    simp only [Controller.workLeft, Controller.finish, Label.taken?, requeue, List.count_append,
      reduceCtorEq, if_false, add_zero, RateLimitingQueue.forget_dirty,
      RateLimitingQueue.forget_waiting]
    omega
  | halt _ _ halted =>
    simp [processConsumer_ok_of_reliable _ _ _ _ quiet] at halted
  | done _ _ => simp [Controller.workLeft, Label.taken?]
  | @fire other q _ fired =>
    obtain ⟨running, waiting, rfl⟩ := RateLimitingQueue.fire_eq_some _ _ fired
    by_cases same : other = key
    · subst same
      cases dirty : s.queue.dirty other <;>
        simp [Controller.workLeft, Label.taken?, RateLimitingQueue.add_dirty, waiting, running,
          dirty]
    · simp [Controller.workLeft, Label.taken?, RateLimitingQueue.add_dirty, Ne.symm same]
  | shutDown _ => simp [Controller.workLeft, Label.taken?]

/-- **No hot loop.** Where users leave the objects alone and no call fails, along any run,
whatever the interleaving of watch events, workers, retries, the store's removals and
shutdowns, the workers are handed `key` at most `workLeft` times: the controller's own writes
queue an object again only while its status has not observed its generation or it still
carries the finalizer token of its deletion. -/
theorem quiet_takes_le_workLeft (sound : s.Sound maxQueueRetries) {labels : List (Label workers)}
    (ran : s.run maxQueueRetries streamFinalizerKey labels = some t)
    (quiet : ∀ l ∈ labels, l.Quiet) (key : ObjectKey) :
    (labels.filterMap Label.taken?).count key ≤ s.workLeft streamFinalizerKey key := by
  induction labels generalizing s with
  | nil => simp
  | cons l labels inductionHypothesis =>
    obtain ⟨next, stepped, rest⟩ := Option.bind_eq_some.mp ran
    have transition := transition_of_step _ _ stepped
    have lowered := transition.workLeft sound (quiet l (.head _)) key
    have later := inductionHypothesis (transition.sound sound) rest
      fun l' member => quiet l' (.tail _ member)
    cases taken : l.taken? with
    | none => simp only [List.filterMap_cons, taken] at lowered ⊢; omega
    | some other =>
      by_cases same : other = key
      · subst same
        simp only [List.filterMap_cons, taken, List.count_cons_self, if_true] at lowered ⊢
        omega
      · simp only [List.filterMap_cons, taken, List.count_cons, same, beq_iff_eq, if_false,
          Option.some.injEq] at lowered ⊢
        omega

theorem create_then_settled :
    ∃ t, (Controller.start (Cluster.empty.setObject ⟨"default", "my-consumer"⟩
        (.ofManifest ⟨"orders", "my-consumer", [], none⟩ [])) [⟨"default", "my-consumer"⟩] :
        Controller 1).run 10 "streamfinalizer.jetstream.nats.io"
        [.notify ⟨"default", "my-consumer"⟩, .get 0 ⟨"default", "my-consumer"⟩,
          .process 0 (.allOk "t1"), .done 0, .notify ⟨"default", "my-consumer"⟩,
          .get 0 ⟨"default", "my-consumer"⟩, .process 0 (.allOk "t2"), .done 0] = some t ∧
      (([.notify ⟨"default", "my-consumer"⟩, .get 0 ⟨"default", "my-consumer"⟩,
          .process 0 (.allOk "t1"), .done 0, .notify ⟨"default", "my-consumer"⟩,
          .get 0 ⟨"default", "my-consumer"⟩, .process 0 (.allOk "t2"), .done 0] :
          List (Label 1)).filterMap Label.taken?).count ⟨"default", "my-consumer"⟩ ≤
        (Controller.start (Cluster.empty.setObject ⟨"default", "my-consumer"⟩
          (.ofManifest ⟨"orders", "my-consumer", [], none⟩ []))
          [⟨"default", "my-consumer"⟩] : Controller 1).workLeft
          "streamfinalizer.jetstream.nats.io" ⟨"default", "my-consumer"⟩ :=
  Exists.imp (fun _ ran => ⟨ran, quiet_takes_le_workLeft (Controller.start_sound _ _) ran
    (by simp only [List.mem_cons, List.mem_singleton, forall_eq_or_imp, List.not_mem_nil,
      or_false, forall_eq, Label.Quiet, Env.allOk_reliable, and_self]) _⟩) ⟨_, rfl⟩

/-! ## Deletion completes -/

/-- A worker step, its run in the world `Env.allOk clock`, is a quiet step. -/
theorem Label.ByWorker.quiet {l : Label workers} {clock : String} (byWorker : l.ByWorker clock) :
    l.Quiet := by
  cases l <;> simp_all [Label.ByWorker, Label.Quiet, Env.allOk_reliable]

/-- What a quiet step does to the cluster: nothing, the store's removal of a deleted object
whose finalizers are all cleared, or a run in which no call fails. -/
theorem Transition.cluster_of_quiet (transition : Transition maxQueueRetries streamFinalizerKey s l t)
    (quiet : l.Quiet) :
    t.cluster = s.cluster ∨
      (∃ key cns, s.cluster.consumers key = some cns ∧ cns.deletionTimestamp.isSome ∧
        cns.finalizers = [] ∧ t.cluster = s.cluster.removeObject key) ∨
      ∃ env key, env.Reliable ∧
        t.cluster = (processConsumer streamFinalizerKey env key s.cluster).cluster := by
  cases transition with
  | @store a c _ moved =>
    cases a with
    | remove removed =>
      cases move_of_step _ moved with
      | remove found deleting cleared => exact .inr (.inl ⟨removed, _, found, deleting, cleared, rfl⟩)
    | _ => exact (quiet : False).elim
  | @process _ env key _ _ _ _ => exact .inr (.inr ⟨env, key, quiet, rfl⟩)
  | halt _ _ halted =>
    simp [processConsumer_ok_of_reliable _ _ _ _ quiet] at halted
  | _ => exact .inl rfl

/-- **The run lemma of quiet runs on the cluster.** A property of the cluster that the
store's removals and runs in which no call fails keep holds after every quiet run. -/
theorem quiet_run_keeps (P : Cluster → Prop)
    (removal : ∀ cluster key cns, cluster.consumers key = some cns →
      cns.deletionTimestamp.isSome → cns.finalizers = [] → P cluster →
        P (cluster.removeObject key))
    (runs : ∀ cluster env key, env.Reliable → P cluster →
      P (processConsumer streamFinalizerKey env key cluster).cluster)
    {labels : List (Label workers)} (ran : s.run maxQueueRetries streamFinalizerKey labels = some t)
    (quiet : ∀ l ∈ labels, l.Quiet) (holds : P s.cluster) : P t.cluster := by
  induction labels generalizing s with
  | nil => exact Option.some.inj ran ▸ holds
  | cons l labels inductionHypothesis =>
    obtain ⟨next, stepped, rest⟩ := Option.bind_eq_some.mp ran
    refine inductionHypothesis rest (fun l' member => quiet l' (.tail _ member)) ?_
    rcases (transition_of_step _ _ stepped).cluster_of_quiet (quiet l (.head _)) with
      same | ⟨key, cns, found, deleting, cleared, removed⟩ | ⟨env, key, reliable, ran⟩
    · exact same ▸ holds
    · exact removed ▸ removal _ key cns found deleting cleared holds
    · exact ran ▸ runs _ env key reliable holds

end Work

section Releasing

variable {cluster : Cluster} {key : ObjectKey}

theorem releasing_removeObject (releasing : cluster.Releasing streamFinalizerKey key)
    (removed : ObjectKey) : (cluster.removeObject removed).Releasing streamFinalizerKey key := by
  intro cns found
  by_cases same : key = removed
  · simp [same] at found
  · exact releasing cns (by simpa [same] using found)

/-- A run in which no call fails takes the delete arm on a releasing object, and clears its
token. -/
theorem processConsumer_releasing {env : Env} (reliable : env.Reliable) (run : ObjectKey)
    (releasing : cluster.Releasing streamFinalizerKey key) :
    (processConsumer streamFinalizerKey env run cluster).cluster.Releasing streamFinalizerKey key := by
  by_cases other : key = run
  swap
  · intro cns found
    exact releasing cns (by rwa [processConsumer_consumers_of_ne _ _ _ other] at found)
  subst other
  cases found : cluster.consumers key with
  | none => rwa [processConsumer_absent _ _ _ found]
  | some cns =>
    obtain ⟨deleting, onlyToken⟩ := releasing cns found
    have completed := processConsumer_ok streamFinalizerKey env key found
      (processConsumer_ok_of_reliable streamFinalizerKey env key cluster reliable)
    generalize (processConsumer streamFinalizerKey env key cluster).cluster = after at completed ⊢
    cases completed with
    | idle _ live => simp [live] at deleting
    | created guard => simp [guard.1] at deleting
    | deleted _ =>
      intro cns' cleared
      simp only [Cluster.writeFinalizers_self, Cluster.removeConsumer_consumers, found,
        Option.map_some', Option.some.injEq] at cleared
      subst cleared
      exact ⟨deleting, fun f member => onlyToken f (mem_removeFinalizer.mp member).1⟩

end Releasing

section Deletion

variable {s : Controller workers}

/-- From a worker running the key of a releasing object, a run in which no call fails clears
the token, and the store then removes the object. -/
theorem removed_after_run {w : Fin workers} {key : ObjectKey} {cns : Consumer}
    (up : s.up = true) (running : s.phases w = .running key)
    (found : s.cluster.consumers key = some cns) (deleting : cns.deletionTimestamp.isSome)
    (onlyToken : ∀ f ∈ cns.finalizers, f = streamFinalizerKey) (clock : String) :
    ∃ t, s.run maxQueueRetries streamFinalizerKey [.process w (.allOk clock), .store (.remove key)] =
      some t ∧ t.cluster.consumers key = none := by
  have ok := processConsumer_ok_of_reliable streamFinalizerKey (.allOk clock) key s.cluster
    (Env.allOk_reliable clock)
  have cleared : (processConsumer streamFinalizerKey (.allOk clock) key s.cluster).cluster.consumers
      key = some { cns with finalizers := [] } := by
    have completed := processConsumer_ok streamFinalizerKey (.allOk clock) key found ok
    generalize (processConsumer streamFinalizerKey (.allOk clock) key s.cluster).cluster = after
      at completed ⊢
    cases completed with
    | idle _ live => simp [live] at deleting
    | created guard => simp [guard.1] at deleting
    | deleted _ =>
      have none_left : removeFinalizer cns.finalizers streamFinalizerKey = [] :=
        List.filter_eq_nil_iff.mpr fun f member => by simp [onlyToken f member]
      simp [found, none_left]
  simp [Controller.run, Controller.step, up, running, ok, Outcome.returned, Controller.finish,
    Action.isReconcile, Nack.Lifecycle.step, cleared, deleting]

/-- **Deletion completes.** In a sound state of a running controller with a worker, an object
that is being deleted, carries no finalizer but the token, and whose key is pending is
removed from the store by quiet steps alone: worker steps whose runs meet no failed call,
and the store's removal. -/
theorem deleted_object_removed (sound : s.Sound maxQueueRetries) (up : s.up = true)
    {key : ObjectKey} (pending : s.queue.dirty key = true) {cns : Consumer}
    (found : s.cluster.consumers key = some cns) (deleting : cns.deletionTimestamp.isSome)
    (onlyToken : ∀ f ∈ cns.finalizers, f = streamFinalizerKey) (w₀ : Fin workers)
    (clock : String) :
    ∃ labels t, s.run maxQueueRetries streamFinalizerKey labels = some t ∧
      (∀ l ∈ labels, l.Quiet) ∧ t.cluster.consumers key = none := by
  obtain ⟨labels, u, w, ran, -, byWorker, up', running⟩ :=
    pending_key_taken_by_workers sound up pending w₀ clock
  have quiet : ∀ l ∈ labels, l.Quiet := fun l member => (byWorker l member).quiet
  have releasing : u.cluster.Releasing streamFinalizerKey key :=
    quiet_run_keeps (fun cluster => cluster.Releasing streamFinalizerKey key)
      (fun _ _ _ _ _ _ releasing => releasing_removeObject releasing _)
      (fun _ _ _ reliable releasing => processConsumer_releasing reliable _ releasing) ran quiet
      fun cns' found' => by
        obtain rfl : cns = cns' := Option.some.inj (found.symm.trans found')
        exact ⟨deleting, onlyToken⟩
  cases found' : u.cluster.consumers key with
  | none => exact ⟨labels, u, ran, quiet, found'⟩
  | some cns' =>
    obtain ⟨deleting', onlyToken'⟩ := releasing cns' found'
    obtain ⟨t, ran', gone⟩ := removed_after_run up' running found' deleting' onlyToken' clock
    refine ⟨labels ++ [.process w (.allOk clock), .store (.remove key)], t,
      by rw [run_append, ran, Option.some_bind, ran'], ?_, gone⟩
    simp only [List.mem_append, List.mem_cons, List.mem_singleton, List.not_mem_nil, or_false]
    rintro l (member | rfl | rfl)
    · exact quiet l member
    · exact Env.allOk_reliable clock
    · trivial

theorem deleting_test_object_removed :
    ∃ labels t, (⟨Cluster.empty.setObject ⟨"default", "my-consumer"⟩
        ⟨1, some 5, ["streamfinalizer.jetstream.nats.io"], ⟨"orders", "my-consumer", [], none⟩,
          ⟨1, []⟩⟩, [],
        (RateLimitingQueue.empty : RateLimitingQueue ObjectKey).add ⟨"default", "my-consumer"⟩,
        fun _ => .idle, true⟩ : Controller 1).run 10 "streamfinalizer.jetstream.nats.io" labels =
        some t ∧
      (∀ l ∈ labels, l.Quiet) ∧ t.cluster.consumers ⟨"default", "my-consumer"⟩ = none :=
  deleted_object_removed
    (.of_idle (fun _ => rfl) (RateLimitingQueue.empty_wellFormed.add _) (fun _ => rfl)
      fun _ => Nat.zero_le _) rfl rfl rfl rfl (by simp) 0 "t1"

end Deletion

end Nack.Lifecycle
