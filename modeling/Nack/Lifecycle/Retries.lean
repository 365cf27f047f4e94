import Nack.Lifecycle.Step

/-!
Contract: two runs of `processConsumer` in a row on one key, with nothing in between.

Owns: `Settled`, what a run that returns `nil` leaves its object in: the create guard
fails, and a deleting object's consumer is gone and its finalizer cleared; a run on a
settled object makes no `NewConsumer` or `Delete` call, keeps the server, the
finalizers and the observed generation, and, when it returns `nil`, the whole cluster;
a failed run can still write its Errored condition. And the retry of a create that
failed once `NewConsumer` went through: the consumer exists, so the retry takes the
update arm (or the no-op arm, where the Created status landed with its reply lost), which
writes nothing; the create is never finished.

Does not own: runs with other moves between them (`Nack.Lifecycle.Invariants`).
-/

namespace Nack.Lifecycle

open Nack.Apis Nack.Controllers.JetStream

/-- What a run that returns `nil` leaves its object in: it fails the create guard, and
if it is being deleted, its consumer is gone and the finalizer cleared. -/
def Settled (streamFinalizerKey : String) (cns : Consumer) (cluster : Cluster) : Prop :=
  ¬ CreateGuard cns cluster ∧
    (cns.deletionTimestamp.isSome → cns.spec.consumerName ∉ cluster.server ∧
      removeFinalizer cns.finalizers streamFinalizerKey = cns.finalizers)

section Twice

variable (streamFinalizerKey : String) (env : Env) (key : ObjectKey)

/-- A run that returns `nil` settles its object. -/
theorem settled_of_ok {cluster : Cluster} {cns : Consumer}
    (found : cluster.consumers key = some cns)
    (ok : (processConsumer streamFinalizerKey env key cluster).outcome = .ok) :
    ∃ c, (processConsumer streamFinalizerKey env key cluster).cluster.consumers key = some c ∧
      Settled streamFinalizerKey c (processConsumer streamFinalizerKey env key cluster).cluster := by
  have completed := processConsumer_ok streamFinalizerKey env key found ok
  generalize (processConsumer streamFinalizerKey env key cluster).cluster = after at completed ⊢
  cases completed with
  | idle unguarded live =>
    exact ⟨cns, found, unguarded, fun deleting => by simp [live] at deleting⟩
  | created guard =>
    refine ⟨{ cns with
        finalizers := addFinalizer cns.finalizers streamFinalizerKey
        status := okStatus (env.clock .setConsumerOK) cns },
      by simp [found], fun guard' => guard'.2.1 rfl, fun deleting => ?_⟩
    simp [guard.1] at deleting
  | deleted deleting =>
    refine ⟨{ cns with finalizers := removeFinalizer cns.finalizers streamFinalizerKey },
      by simp [found], fun guard' => ?_, fun _ => ⟨by simp, by simp⟩⟩
    simp [show cns.deletionTimestamp = none from guard'.1] at deleting

/-- A completed arm on a settled object writes nothing. -/
theorem Completed.of_settled {cluster after : Cluster} {c : Consumer}
    (found : cluster.consumers key = some c) (settled : Settled streamFinalizerKey c cluster)
    (completed : Completed streamFinalizerKey env key c cluster after) : after = cluster := by
  cases completed with
  | idle _ _ => rfl
  | created guard => exact absurd guard settled.1
  | deleted deleting =>
    obtain ⟨absent, cleared⟩ := settled.2 deleting
    rw [Cluster.removeConsumer_of_not_mem absent, cleared, Cluster.writeFinalizers_of_eq found]

/-- A stopped run on a settled object writes nothing but its Errored condition. -/
theorem Interrupted.of_settled {cluster after : Cluster} {c : Consumer}
    (found : cluster.consumers key = some c) (settled : Settled streamFinalizerKey c cluster)
    (interrupted : Interrupted streamFinalizerKey env key c cluster after) : after = cluster := by
  cases interrupted with
  | beforeWrites => rfl
  | afterNewConsumer guard _ | afterFinalizer guard _ _ | afterStatus guard _ _ _ =>
    exact absurd guard settled.1
  | afterDelete deleting => exact Cluster.removeConsumer_of_not_mem (settled.2 deleting).1
  | afterClear deleting =>
    exact Completed.of_settled streamFinalizerKey env key found settled (.deleted deleting)

/-- **A run on a settled object writes at most its Errored condition.** -/
theorem Ending.of_settled {cluster after : Cluster} {c : Consumer}
    (found : cluster.consumers key = some c) (settled : Settled streamFinalizerKey c cluster)
    {ok : Bool} (ending : Ending streamFinalizerKey env key c cluster ok after) :
    after = cluster ∨ ∃ err, ok = false ∧
      after = cluster.writeStatus key (erroredStatus (env.clock .setConsumerErrored) err c) := by
  cases ending with
  | completed completed =>
    exact .inl (Completed.of_settled streamFinalizerKey env key found settled completed)
  | stopped interrupted =>
    exact .inl (Interrupted.of_settled streamFinalizerKey env key found settled interrupted)
  | erroredWritten err interrupted =>
    exact .inr ⟨err, rfl, by
      rw [Interrupted.of_settled streamFinalizerKey env key found settled interrupted]⟩

/-- A run on a settled object makes no call that changes the server. -/
theorem settled_calls {cluster : Cluster} {c : Consumer} (found : cluster.consumers key = some c)
    (settled : Settled streamFinalizerKey c cluster) (name : ConsumerName) :
    Call.newConsumer name ∉ (processConsumer streamFinalizerKey env key cluster).calls ∧
      Call.delete name ∉ (processConsumer streamFinalizerKey env key cluster).calls := by
  have justified := (processConsumer_ending streamFinalizerKey env key found).2.1
  exact ⟨fun made => settled.1 (justified _ made).2,
    fun deleted => (settled.2 (justified _ deleted).2.1).1 ((justified _ deleted).1 ▸
      (justified _ deleted).2.2)⟩

/-- **Reconciling twice.** After a run that returns `nil`, a second run on the cluster it
left, in any world, makes no `NewConsumer` and no `Delete` call; it keeps the consumers
on the server and the object's finalizers and observed generation; and, if it returns
`nil`, it leaves the cluster as it found it. Only a second run that fails writes
something: its Errored condition. -/
theorem second_run_changes_no_remote_state {cluster mid : Cluster}
    (first : (processConsumer streamFinalizerKey env key cluster).outcome = .ok)
    (result : (processConsumer streamFinalizerKey env key cluster).cluster = mid) (env' : Env) :
    (∀ name, Call.newConsumer name ∉ (processConsumer streamFinalizerKey env' key mid).calls ∧
      Call.delete name ∉ (processConsumer streamFinalizerKey env' key mid).calls) ∧
    (processConsumer streamFinalizerKey env' key mid).cluster.server = mid.server ∧
    (∀ c, mid.consumers key = some c → ∃ c',
      (processConsumer streamFinalizerKey env' key mid).cluster.consumers key = some c' ∧
      c'.finalizers = c.finalizers ∧ c'.status.observedGeneration = c.status.observedGeneration) ∧
    ((processConsumer streamFinalizerKey env' key mid).outcome = .ok →
      (processConsumer streamFinalizerKey env' key mid).cluster = mid) := by
  cases found : cluster.consumers key with
  | none =>
    rw [processConsumer_absent streamFinalizerKey env key found] at result
    subst result
    simp [processConsumer_absent streamFinalizerKey env' key found, found]
  | some cns =>
    obtain ⟨c, stored, settled⟩ := settled_of_ok streamFinalizerKey env key found first
    rw [result] at stored settled
    refine ⟨settled_calls streamFinalizerKey env' key stored settled, ?_⟩
    rcases Ending.of_settled streamFinalizerKey env' key stored settled
        (processConsumer_ending streamFinalizerKey env' key stored).1 with
      same | ⟨err, failed, errored⟩
    · rw [same]
      exact ⟨rfl, fun c' stored' => ⟨c', stored', rfl, rfl⟩, fun _ => rfl⟩
    · rw [errored]
      refine ⟨rfl, fun c' stored' => ?_, fun ok => ?_⟩
      · rw [stored] at stored'
        cases stored'
        exact ⟨{ c with status := erroredStatus (env'.clock .setConsumerErrored) err c },
          by simp [stored], rfl, rfl⟩
      · rw [ok] at failed
        cases failed

theorem second_run_after_create :
    let mid := (processConsumer "streamfinalizer.jetstream.nats.io" (.allOk "t1")
      ⟨"default", "my-consumer"⟩ (Cluster.empty.setObject ⟨"default", "my-consumer"⟩
        (.ofManifest ⟨"orders", "my-consumer", [], none⟩ []))).cluster
    let second := processConsumer "streamfinalizer.jetstream.nats.io"
      (.faultAt .connect (.fail "nats: no servers available for connection") "t2")
      ⟨"default", "my-consumer"⟩ mid
    (∀ name, Call.newConsumer name ∉ second.calls ∧ Call.delete name ∉ second.calls) ∧
    second.cluster.server = mid.server ∧
    (∀ c, mid.consumers ⟨"default", "my-consumer"⟩ = some c → ∃ c',
      second.cluster.consumers ⟨"default", "my-consumer"⟩ = some c' ∧
      c'.finalizers = c.finalizers ∧ c'.status.observedGeneration = c.status.observedGeneration) ∧
    (second.outcome = .ok → second.cluster = mid) :=
  second_run_changes_no_remote_state "streamfinalizer.jetstream.nats.io" (.allOk "t1")
    ⟨"default", "my-consumer"⟩ (by decide) rfl
    (.faultAt .connect (.fail "nats: no servers available for connection") "t2")

/-- A second run that fails writes its Errored condition over the Created one. -/
theorem failed_second_run_counterexample :
    ¬ ∀ (s : Cluster) (key : ObjectKey) (env env' : Env) (c c' : Consumer),
      Reachable "streamfinalizer.jetstream.nats.io" anyMove s →
      (processConsumer "streamfinalizer.jetstream.nats.io" env key s).outcome = .ok →
      (processConsumer "streamfinalizer.jetstream.nats.io" env key s).cluster.consumers key =
        some c →
      (processConsumer "streamfinalizer.jetstream.nats.io" env' key
        (processConsumer "streamfinalizer.jetstream.nats.io" env key s).cluster).cluster.consumers
        key = some c' →
      c'.status.conditions = c.status.conditions := by
  intro unchanged
  have trace := Steps.of_runMoves "streamfinalizer.jetstream.nats.io" (fun _ => True) .empty
    [.apply ⟨"default", "my-consumer"⟩ ⟨"orders", "my-consumer", [], none⟩ []]
    (fun _ _ => trivial) rfl
  exact absurd (unchanged _ ⟨"default", "my-consumer"⟩ (.allOk "t1")
    (.faultAt .connect (.fail "nats: no servers available for connection") "t2") _ _ trace
    (by decide) rfl rfl) (by decide)

/-! ## Retrying a half-done create -/

/-- **A retry does not finish a half-done create.** Let a run create an object's consumer
and then fail: at the finalizer write, at the status write, or by halting, or with a
reply lost. The consumer is on the server, so the next run takes the update arm (or the
no-op arm, where the Created status landed with its reply lost): if it returns `nil`, it
has written nothing. Unless the Created status write went through with its reply lost,
the object's generation stays unobserved. -/
theorem retry_after_partial_create_writes_nothing {cluster : Cluster} {cns : Consumer}
    (found : cluster.consumers key = some cns) (fresh : cns.spec.consumerName ∉ cluster.server)
    (made : cns.spec.consumerName ∈ (processConsumer streamFinalizerKey env key cluster).cluster.server)
    (failed : (processConsumer streamFinalizerKey env key cluster).outcome ≠ .ok) (env' : Env)
    (retried : (processConsumer streamFinalizerKey env' key
      (processConsumer streamFinalizerKey env key cluster).cluster).outcome = .ok) :
    (processConsumer streamFinalizerKey env' key
        (processConsumer streamFinalizerKey env key cluster).cluster).cluster =
      (processConsumer streamFinalizerKey env key cluster).cluster ∧
    ((∀ message, env.fault .setConsumerOK ≠ .lost message) →
      ∃ c, (processConsumer streamFinalizerKey env key cluster).cluster.consumers key = some c ∧
        c.status.observedGeneration ≠ c.generation) := by
  have ending := (processConsumer_ending streamFinalizerKey env key found).1
  have notOk : (processConsumer streamFinalizerKey env key cluster).outcome.isOk = false := by
    cases outcome : (processConsumer streamFinalizerKey env key cluster).outcome <;>
      simp_all [Outcome.isOk]
  rw [notOk] at ending
  generalize (processConsumer streamFinalizerKey env key cluster).cluster = mid at ending made retried ⊢
  have guard : CreateGuard cns cluster := by
    cases ending with
    | stopped interrupted => exact interrupted.createGuard fresh made
    | erroredWritten _ interrupted => exact interrupted.createGuard fresh (by simpa using made)
  obtain ⟨c, stored, -⟩ := ending.stored (keptByRuns_true _) found
  have declared := ending.declared found key
  simp only [stored, found, Option.map_some', Option.some.injEq, Consumer.declared,
    Prod.mk.injEq] at declared
  obtain ⟨generation, deletion, spec⟩ := declared
  refine ⟨?_, fun answered => ?_⟩
  · have completed := processConsumer_ok streamFinalizerKey env' key stored retried
    generalize (processConsumer streamFinalizerKey env' key mid).cluster = after at completed ⊢
    cases completed with
    | idle _ _ => rfl
    | created guard' => exact absurd (by rw [spec]; exact made) guard'.2.2
    | deleted deleting => simp [deletion, guard.1] at deleting
  · obtain ⟨c', stored', observed⟩ := ending.observed_of_failed found answered
    rw [stored] at stored'
    cases stored'
    exact ⟨c, stored, by rw [observed, generation]; exact Ne.symm guard.2.1⟩

theorem retry_after_failed_finalizer_write :
    let first := processConsumer "streamfinalizer.jetstream.nats.io"
      (.faultAt .setConsumerFinalizer (.fail "conflict") "t1") ⟨"default", "my-consumer"⟩
      (Cluster.empty.setObject ⟨"default", "my-consumer"⟩
        (.ofManifest ⟨"orders", "my-consumer", [], none⟩ []))
    (processConsumer "streamfinalizer.jetstream.nats.io" (.allOk "t2") ⟨"default", "my-consumer"⟩
        first.cluster).cluster = first.cluster ∧
      ((∀ message, (Env.faultAt .setConsumerFinalizer (.fail "conflict") "t1").fault
          .setConsumerOK ≠ .lost message) →
        ∃ c, first.cluster.consumers ⟨"default", "my-consumer"⟩ = some c ∧
          c.status.observedGeneration ≠ c.generation) :=
  retry_after_partial_create_writes_nothing "streamfinalizer.jetstream.nats.io"
    (.faultAt .setConsumerFinalizer (.fail "conflict") "t1") ⟨"default", "my-consumer"⟩ rfl
    (by decide) (by decide) (by decide) (.allOk "t2") (by decide)

/-- The claim's failing input: a create whose finalizer write fails leaves the consumer on
the server, and the retry, in which every call succeeds, returns `nil` but leaves the
object without the finalizer, its generation unobserved and its `Ready` condition
Errored. -/
theorem retry_after_partial_create_unfinished :
    ¬ ∀ (s : Cluster) (key : ObjectKey) (env env' : Env) (cns c : Consumer),
      Reachable "streamfinalizer.jetstream.nats.io" anyMove s → s.consumers key = some cns →
      cns.deletionTimestamp = none → cns.spec.consumerName ∉ s.server →
      cns.spec.consumerName ∈
        (processConsumer "streamfinalizer.jetstream.nats.io" env key s).cluster.server →
      (processConsumer "streamfinalizer.jetstream.nats.io" env key s).outcome ≠ .ok →
      (processConsumer "streamfinalizer.jetstream.nats.io" env' key
        (processConsumer "streamfinalizer.jetstream.nats.io" env key s).cluster).outcome = .ok →
      (processConsumer "streamfinalizer.jetstream.nats.io" env' key
        (processConsumer "streamfinalizer.jetstream.nats.io" env key s).cluster).cluster.consumers
        key = some c →
      "streamfinalizer.jetstream.nats.io" ∈ c.finalizers ∧
        c.status.observedGeneration = c.generation ∧
        (c.status.conditions.find? (·.type == readyCondType)).map (·.reason) = some "Created" := by
  intro finished
  have trace := Steps.of_runMoves "streamfinalizer.jetstream.nats.io" (fun _ => True) .empty
    [.apply ⟨"default", "my-consumer"⟩ ⟨"orders", "my-consumer", [], none⟩ []]
    (fun _ _ => trivial) rfl
  exact absurd (finished _ ⟨"default", "my-consumer"⟩
    (.faultAt .setConsumerFinalizer (.fail "conflict") "t1") (.allOk "t2") _ _ trace rfl rfl
    (by decide) (by decide) (by decide) (by decide) rfl) (by decide)

end Twice

end Nack.Lifecycle
