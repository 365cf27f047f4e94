import Nack.Controllers.JetStream.ConsumerCalls

/-!
Contract: everything one run of `processConsumer` can do, said once.

A run reads the object `cns` stored under `key` in the cluster `cluster`. `Ending`
lists where it can leave the cluster: a completed switch arm (`Completed`: nothing,
the full create, the full delete), or a run stopped part-way (`Interrupted`), with or
without the deferred Errored status. A run can stop after a write that took effect: the
write's reply was lost, so even an arm that made all its writes can end in an error.
Each ending records the faults of the writes it made. Every call that changes the server
is justified by what the run read (`CallJustified`), and a run only fails where a call
failed.

Owns: `CreateGuard`, `Completed`, `Interrupted`, `Ending`, `CallJustified`, and
`processConsumer_ending`, proved arm by arm from the call equations, and read back in
`processConsumer_ok` and `processConsumer_ok_of_reliable`.

Does not own: what the endings mean for the cluster over many runs (`Cluster`
modules), or the texts of errors and events.
-/

namespace Nack.Controllers.JetStream

open Nack.Apis

section Endings

variable (streamFinalizerKey : String) (env : Env) (key : ObjectKey) (cns : Consumer)
  (cluster : Cluster)

/-- The guard of the `createOK` arm, on what the run read: the object is not being
deleted, its generation is unobserved, and its consumer is not on the server. -/
def CreateGuard : Prop :=
  cns.deletionTimestamp = none ∧ cns.generation ≠ cns.status.observedGeneration ∧
    cns.spec.consumerName ∉ cluster.server

/-- Where a switch arm that runs to its end leaves the cluster. -/
inductive Completed : Cluster → Prop where
  /-- The update warning or the no-op. -/
  | idle : ¬ CreateGuard cns cluster → cns.deletionTimestamp = none → Completed cluster
  | created : CreateGuard cns cluster → env.fault .newConsumer = .ok →
      env.fault .setConsumerFinalizer = .ok →
      Completed (((cluster.addConsumer cns.spec.consumerName).writeFinalizers key
        (addFinalizer cns.finalizers streamFinalizerKey)).writeStatus key
          (okStatus (env.clock .setConsumerOK) cns))
  | deleted : cns.deletionTimestamp.isSome →
      Completed ((cluster.removeConsumer cns.spec.consumerName).writeFinalizers key
        (removeFinalizer cns.finalizers streamFinalizerKey))

/-- Where a run that stops early leaves the cluster, before its deferred Errored write. -/
inductive Interrupted : Cluster → Prop where
  | beforeWrites : Interrupted cluster
  /-- `NewConsumer` took effect, and then its reply was lost or the finalizer write did not
  take effect. -/
  | afterNewConsumer : CreateGuard cns cluster →
      (∃ message, env.fault .newConsumer = .lost message) ∨
        (env.fault .setConsumerFinalizer).takesEffect = false →
      Interrupted (cluster.addConsumer cns.spec.consumerName)
  | afterFinalizer : CreateGuard cns cluster → env.fault .newConsumer = .ok →
      (env.fault .setConsumerFinalizer).takesEffect = true →
      Interrupted ((cluster.addConsumer cns.spec.consumerName).writeFinalizers key
        (addFinalizer cns.finalizers streamFinalizerKey))
  | afterDelete : cns.deletionTimestamp.isSome →
      Interrupted (cluster.removeConsumer cns.spec.consumerName)
  /-- The create arm made all its writes, and the reply of the status write was lost. -/
  | afterStatus : CreateGuard cns cluster → env.fault .newConsumer = .ok →
      env.fault .setConsumerFinalizer = .ok → (∃ message, env.fault .setConsumerOK = .lost message) →
      Interrupted (((cluster.addConsumer cns.spec.consumerName).writeFinalizers key
        (addFinalizer cns.finalizers streamFinalizerKey)).writeStatus key
          (okStatus (env.clock .setConsumerOK) cns))
  /-- The delete arm made all its writes, and the reply of the finalizer write was lost. -/
  | afterClear : cns.deletionTimestamp.isSome →
      Interrupted ((cluster.removeConsumer cns.spec.consumerName).writeFinalizers key
        (removeFinalizer cns.finalizers streamFinalizerKey))

/-- **What one run can do**, by whether it returned `nil`. -/
inductive Ending : Bool → Cluster → Prop where
  | completed {after : Cluster} : Completed streamFinalizerKey env key cns cluster after →
      Ending true after
  | stopped {after : Cluster} : Interrupted streamFinalizerKey env key cns cluster after →
      Ending false after
  | erroredWritten {after : Cluster} (err : String) :
      Interrupted streamFinalizerKey env key cns cluster after →
      Ending false (after.writeStatus key (erroredStatus (env.clock .setConsumerErrored) err cns))

/-- A call that changes the server is justified by what the run read: `NewConsumer`
only under the create guard, `Delete` only of a consumer that is there, for an object
being deleted. -/
def CallJustified : Call → Prop
  | .newConsumer name => name = cns.spec.consumerName ∧ CreateGuard cns cluster
  | .delete name => name = cns.spec.consumerName ∧ cns.deletionTimestamp.isSome ∧
      name ∈ cluster.server
  | _ => True

end Endings

/-- The calls from `before` to `after` keep every call justified by what `before` read. -/
def CallsJustified (before after : RunState) : Prop :=
  (∀ call ∈ before.calls, CallJustified before.cns before.cluster call) →
    ∀ call ∈ after.calls, CallJustified before.cns before.cluster call

theorem CallsJustified.record {before after : RunState} (calls : CallsJustified before after)
    {call : Call} (justified : CallJustified before.cns before.cluster call) :
    CallsJustified before (after.record call) := by
  intro previous
  simpa [or_imp, forall_and, justified] using calls previous

/-- `CallsJustified.record`, for a state written out field by field. -/
theorem CallsJustified.snoc {before : RunState} {calls : List Call} {call : Call}
    {cluster : Cluster} {cns : Consumer} {events : List Event} {watched : List ObjectKey}
    (rest : CallsJustified before { before with calls := calls })
    (justified : CallJustified before.cns before.cluster call) :
    CallsJustified before ⟨cluster, cns, calls ++ [call], events, watched⟩ :=
  rest.record justified

section Runs

variable (streamFinalizerKey : String) (env : Env) (key : ObjectKey)

/-- What a part of a run inside the deferred Errored write may leave: a completed arm,
or an interrupted one that kept the object's status and met a faulted call. -/
def BodyPost (before : RunState) : EStateM.Result Stop RunState Unit → Prop
  | .ok _ after =>
      Completed streamFinalizerKey env key before.cns before.cluster after.cluster ∧
        CallsJustified before after
  | .error _ after =>
      Interrupted streamFinalizerKey env key before.cns before.cluster after.cluster ∧
        after.cns.status = before.cns.status ∧ CallsJustified before after ∧ ¬ env.Reliable

/-- What a whole run, deferred Errored write included, may leave. -/
def RunPost (before : RunState) : EStateM.Result Stop RunState Unit → Prop
  | .ok _ after =>
      Ending streamFinalizerKey env key before.cns before.cluster true after.cluster ∧
        CallsJustified before after
  | .error _ after =>
      Ending streamFinalizerKey env key before.cns before.cluster false after.cluster ∧
        CallsJustified before after ∧ ¬ env.Reliable

/-- A call that changes nothing can be made before a part of the run. -/
theorem BodyPost.of_record (st : RunState) (call : Call)
    (harmless : CallJustified st.cns st.cluster call) {result : EStateM.Result Stop RunState Unit}
    (post : BodyPost streamFinalizerKey env key (st.record call) result) :
    BodyPost streamFinalizerKey env key st result := by
  have widen : CallsJustified (st.record call) = CallsJustified st := by
    funext after
    simp [CallsJustified, or_imp, forall_and, harmless]
  cases result <;> simpa [BodyPost, widen] using post

theorem createArm_post (st : RunState) (stored : st.cluster.consumers key = some st.cns)
    (guard : CreateGuard st.cns st.cluster) :
    BodyPost streamFinalizerKey env key st
      (createArm streamFinalizerKey env key st.cns.spec st) := by
  obtain ⟨cluster, cns, calls, events, watched⟩ := st
  dsimp only at stored guard
  have made : CallJustified cns cluster (.newConsumer cns.spec.consumerName) := ⟨rfl, guard⟩
  simp only [createArm, normalEvent, run_bind, run_modify, createConsumer_run, RunState.emit,
    RunState.record, RunState.mapCluster]
  cases hnew : env.fault .newConsumer with
  | fail _ =>
    exact ⟨.beforeWrites, rfl, .snoc id made, Env.not_reliable .newConsumer (by simp [hnew])⟩
  | halt => exact ⟨.beforeWrites, rfl, id, Env.not_reliable .newConsumer (by simp [hnew])⟩
  | lost _ =>
    exact ⟨.afterNewConsumer guard (.inl ⟨_, hnew⟩), rfl, .snoc id made,
      Env.not_reliable .newConsumer (by simp [hnew])⟩
  | ok =>
    simp only [setConsumerFinalizer_run]
    cases hfin : env.fault .setConsumerFinalizer with
    | fail _ =>
      exact ⟨.afterNewConsumer guard (.inr (by simp [hfin])), rfl, .snoc (.snoc id made) trivial,
        Env.not_reliable .setConsumerFinalizer (by simp [hfin])⟩
    | halt =>
      exact ⟨.afterNewConsumer guard (.inr (by simp [hfin])), rfl, .snoc id made,
        Env.not_reliable .setConsumerFinalizer (by simp [hfin])⟩
    | lost _ =>
      exact ⟨.afterFinalizer guard hnew (by simp [hfin]), rfl, .snoc (.snoc id made) trivial,
        Env.not_reliable .setConsumerFinalizer (by simp [hfin])⟩
    | ok =>
      simp only [setConsumerOK_run, RunState.write, RunState.record,
        Cluster.writeFinalizers_self, Cluster.addConsumer_consumers, stored, Option.map_some',
        Option.getD_some]
      have written : Interrupted streamFinalizerKey env key cns cluster _ :=
        .afterFinalizer guard hnew (by simp [hfin])
      cases hok : env.fault .setConsumerOK with
      | fail _ =>
        exact ⟨written, rfl, .snoc (.snoc (.snoc id made) trivial) trivial,
          Env.not_reliable .setConsumerOK (by simp [hok])⟩
      | halt =>
        exact ⟨written, rfl, .snoc (.snoc id made) trivial,
          Env.not_reliable .setConsumerOK (by simp [hok])⟩
      | lost _ =>
        exact ⟨.afterStatus guard hnew hfin ⟨_, hok⟩, rfl,
          .snoc (.snoc (.snoc id made) trivial) trivial,
          Env.not_reliable .setConsumerOK (by simp [hok])⟩
      | ok =>
        exact ⟨.created guard hnew hfin, .snoc (.snoc (.snoc id made) trivial) trivial⟩

theorem deleteArm_post (st : RunState) (stored : st.cluster.consumers key = some st.cns)
    (deleting : st.cns.deletionTimestamp.isSome) :
    BodyPost streamFinalizerKey env key st
      (deleteArm streamFinalizerKey env key st.cns.spec st) := by
  obtain ⟨cluster, cns, calls, events, watched⟩ := st
  dsimp only at stored deleting
  simp only [deleteArm, normalEvent, run_bind, run_modify, deleteConsumer_run, RunState.emit,
    RunState.record, RunState.mapCluster, ConsumerSpec.mk_consumerName]
  have completed : Completed streamFinalizerKey env key cns cluster _ := .deleted deleting
  have cleared : Interrupted streamFinalizerKey env key cns cluster _ := .afterClear deleting
  cases hload : env.fault .deleteConsumerLoad with
  | fail _ | lost _ =>
    exact ⟨.beforeWrites, rfl, .snoc id trivial,
      Env.not_reliable .deleteConsumerLoad (by simp [hload])⟩
  | halt =>
    exact ⟨.beforeWrites, rfl, id, Env.not_reliable .deleteConsumerLoad (by simp [hload])⟩
  | ok =>
    by_cases found : cns.spec.consumerName ∈ cluster.server
    · have deleted : CallJustified cns cluster (.delete cns.spec.consumerName) :=
        ⟨rfl, deleting, found⟩
      simp only [found, if_true]
      cases hdel : env.fault .deleteConsumer with
      | fail _ =>
        exact ⟨.beforeWrites, rfl, .snoc (.snoc id trivial) deleted,
          Env.not_reliable .deleteConsumer (by simp [hdel])⟩
      | halt =>
        exact ⟨.beforeWrites, rfl, .snoc id trivial,
          Env.not_reliable .deleteConsumer (by simp [hdel])⟩
      | lost _ =>
        exact ⟨.afterDelete deleting, rfl, .snoc (.snoc id trivial) deleted,
          Env.not_reliable .deleteConsumer (by simp [hdel])⟩
      | ok =>
        simp only [clearConsumerFinalizer_run, RunState.write, RunState.record]
        cases hclear : env.fault .clearConsumerFinalizer with
        | fail _ =>
          exact ⟨.afterDelete deleting, rfl, .snoc (.snoc (.snoc id trivial) deleted) trivial,
            Env.not_reliable .clearConsumerFinalizer (by simp [hclear])⟩
        | halt =>
          exact ⟨.afterDelete deleting, rfl, .snoc (.snoc id trivial) deleted,
            Env.not_reliable .clearConsumerFinalizer (by simp [hclear])⟩
        | lost _ =>
          exact ⟨cleared, rfl, .snoc (.snoc (.snoc id trivial) deleted) trivial,
            Env.not_reliable .clearConsumerFinalizer (by simp [hclear])⟩
        | ok => exact ⟨completed, .snoc (.snoc (.snoc id trivial) deleted) trivial⟩
    · rw [Cluster.removeConsumer_of_not_mem found] at completed cleared
      simp only [found, if_false, clearConsumerFinalizer_run, RunState.write, RunState.record]
      cases hclear : env.fault .clearConsumerFinalizer with
      | fail _ =>
        exact ⟨.beforeWrites, rfl, .snoc (.snoc id trivial) trivial,
          Env.not_reliable .clearConsumerFinalizer (by simp [hclear])⟩
      | halt =>
        exact ⟨.beforeWrites, rfl, .snoc id trivial,
          Env.not_reliable .clearConsumerFinalizer (by simp [hclear])⟩
      | lost _ =>
        exact ⟨cleared, rfl, .snoc (.snoc id trivial) trivial,
          Env.not_reliable .clearConsumerFinalizer (by simp [hclear])⟩
      | ok => exact ⟨completed, .snoc (.snoc id trivial) trivial⟩

/-- The switch completes one of its arms or stops inside one. -/
theorem reconcileSwitch_post (st : RunState) (stored : st.cluster.consumers key = some st.cns) :
    BodyPost streamFinalizerKey env key st
      (reconcileSwitch streamFinalizerKey env key st.cns.spec st) := by
  simp only [reconcileSwitch, run_bind, run_get, consumerExists_run, ConsumerSpec.mk_consumerName]
  cases hexists : env.fault .consumerExists with
  | fail _ | lost _ =>
    exact BodyPost.of_record streamFinalizerKey env key st
      (.loadConsumer st.cns.spec.consumerName) trivial
      ⟨.beforeWrites, rfl, id, Env.not_reliable .consumerExists (by simp [hexists])⟩
  | halt => exact ⟨.beforeWrites, rfl, id, Env.not_reliable .consumerExists (by simp [hexists])⟩
  | ok =>
    dsimp only
    apply BodyPost.of_record streamFinalizerKey env key st (.loadConsumer st.cns.spec.consumerName)
      trivial
    have stored' : (st.record (.loadConsumer st.cns.spec.consumerName)).cluster.consumers key =
        some (st.record (.loadConsumer st.cns.spec.consumerName)).cns := stored
    by_cases guard : CreateGuard st.cns st.cluster
    · obtain ⟨live, unobserved, absent⟩ := guard
      rw [if_pos (by simp [live, unobserved, absent])]
      exact createArm_post streamFinalizerKey env key _ stored' ⟨live, unobserved, absent⟩
    · cases deletion : st.cns.deletionTimestamp with
      | some _ =>
        rw [if_neg (by simp [deletion]), if_neg (by simp [deletion]), if_pos (by simp [deletion])]
        exact deleteArm_post streamFinalizerKey env key _ stored' (by simp [deletion])
      | none =>
        rw [if_neg (by simpa [CreateGuard, deletion, and_comm] using guard)]
        split
        · exact ⟨.idle guard deletion, id⟩
        · rw [if_neg (by simp [deletion])]
          exact ⟨.idle guard deletion, id⟩

/-- The deferred Errored write after a part of the run that stopped. -/
theorem erroredDefer_post (before after : RunState) (stop : Stop)
    (interrupted : Interrupted streamFinalizerKey env key before.cns before.cluster after.cluster)
    (sameStatus : after.cns.status = before.cns.status) (calls : CallsJustified before after)
    (faulted : ¬ env.Reliable) :
    RunPost streamFinalizerKey env key before (erroredDefer env key stop after) := by
  cases stop with
  | halt => exact ⟨.stopped interrupted, calls, faulted⟩
  | error err =>
    simp only [erroredDefer, run_bind, run_tryCatch, run_get, setConsumerErrored_run]
    have sameErrored : erroredStatus (env.clock .setConsumerErrored) err after.cns =
        erroredStatus (env.clock .setConsumerErrored) err before.cns := by
      simp [erroredStatus, sameStatus]
    have written : Ending streamFinalizerKey env key before.cns before.cluster false _ :=
      .erroredWritten err interrupted
    cases env.fault .setConsumerErrored with
    | ok | lost _ => exact ⟨by simpa [sameErrored] using written, calls.record trivial, faulted⟩
    | fail _ => exact ⟨.stopped interrupted, calls.record trivial, faulted⟩
    | halt => exact ⟨.stopped interrupted, calls, faulted⟩

theorem runPost_of_bodyPost (body : Run Unit) (st : RunState)
    (post : BodyPost streamFinalizerKey env key st (body st)) :
    RunPost streamFinalizerKey env key st (tryCatch body (erroredDefer env key) st) := by
  rw [run_tryCatch]
  revert post
  cases body st with
  | ok _ after => exact fun ⟨completed, calls⟩ => ⟨.completed completed, calls⟩
  | error stop after =>
    exact fun ⟨interrupted, sameStatus, calls, faulted⟩ =>
      erroredDefer_post streamFinalizerKey env key st after stop interrupted sameStatus calls
        faulted

theorem connectedSwitch_post (st : RunState) (stored : st.cluster.consumers key = some st.cns) :
    BodyPost streamFinalizerKey env key st
      (connectedSwitch streamFinalizerKey env key st.cns.spec st) := by
  simp only [connectedSwitch, run_tryCatch, run_bind, normalEvent, run_modify]
  have switch : BodyPost streamFinalizerKey env key st (reconcileSwitch streamFinalizerKey env key
      st.cns.spec (st.emit ⟨.normal, "Connected", "Connected to NATS Server"⟩)) :=
    reconcileSwitch_post streamFinalizerKey env key
      (st.emit ⟨.normal, "Connected", "Connected to NATS Server"⟩) stored
  revert switch
  cases reconcileSwitch streamFinalizerKey env key st.cns.spec
      (st.emit ⟨.normal, "Connected", "Connected to NATS Server"⟩) with
  | ok _ after => exact fun ⟨completed, calls⟩ => ⟨completed, calls.record trivial⟩
  | error stop after =>
    cases stop with
    | error _ =>
      exact fun ⟨interrupted, sameStatus, calls, faulted⟩ =>
        ⟨interrupted, sameStatus, calls.record trivial, faulted⟩
    | halt => exact id

theorem connected_post (st : RunState) (stored : st.cluster.consumers key = some st.cns) :
    BodyPost streamFinalizerKey env key st ((do
        normalEvent "Connecting" "Connecting to NATS Server"
        connect env (",".intercalate st.cns.spec.servers)
        connectedSwitch streamFinalizerKey env key st.cns.spec) st) := by
  simp only [run_bind, normalEvent, run_modify, connect, attempt_run]
  cases hconnect : env.fault .connect with
  | ok =>
    exact BodyPost.of_record streamFinalizerKey env key
      (st.emit ⟨.normal, "Connecting", "Connecting to NATS Server"⟩)
      (.connect (",".intercalate st.cns.spec.servers)) trivial
      (connectedSwitch_post streamFinalizerKey env key _ stored)
  | fail _ | lost _ =>
    exact ⟨.beforeWrites, rfl, CallsJustified.record id trivial,
      Env.not_reliable .connect (by simp [hconnect])⟩
  | halt => exact ⟨.beforeWrites, rfl, id, Env.not_reliable .connect (by simp [hconnect])⟩

theorem connectAndReconcile_post (st : RunState) (stored : st.cluster.consumers key = some st.cns) :
    BodyPost streamFinalizerKey env key st
      (connectAndReconcile streamFinalizerKey env key st.cns.spec st) := by
  rw [connectAndReconcile, run_bind]
  cases st.cns.spec.credentialsSecret with
  | none => exact connected_post streamFinalizerKey env key st stored
  | some secret =>
    simp only [getCreds, attempt_run]
    cases hsecret : env.fault .getSecret with
    | ok =>
      exact BodyPost.of_record streamFinalizerKey env key st (.getSecret secret) trivial
        (connected_post streamFinalizerKey env key _ stored)
    | fail _ | lost _ =>
      exact ⟨.beforeWrites, rfl, CallsJustified.record id trivial,
        Env.not_reliable .getSecret (by simp [hsecret])⟩
    | halt => exact ⟨.beforeWrites, rfl, id, Env.not_reliable .getSecret (by simp [hsecret])⟩

theorem reconcileConsumer_post (st : RunState) (stored : st.cluster.consumers key = some st.cns) :
    RunPost streamFinalizerKey env key st
      (reconcileConsumer streamFinalizerKey env key st.cns.spec st) :=
  runPost_of_bodyPost streamFinalizerKey env key _ st
    (connectAndReconcile_post streamFinalizerKey env key st stored)

/-- Whether a run returned `nil`. -/
def Outcome.isOk : Outcome → Bool
  | .ok => true
  | _ => false

/-- **The inversion lemma of `processConsumer`.** A run on a stored object ends in one of
the `Ending`s, makes only justified calls to the server, and fails only where a call
failed. -/
theorem processConsumer_ending {cluster : Cluster} {cns : Consumer}
    (found : cluster.consumers key = some cns) :
    Ending streamFinalizerKey env key cns cluster
        (processConsumer streamFinalizerKey env key cluster).outcome.isOk
        (processConsumer streamFinalizerKey env key cluster).cluster ∧
      (∀ call ∈ (processConsumer streamFinalizerKey env key cluster).calls,
        CallJustified cns cluster call) ∧
      ((processConsumer streamFinalizerKey env key cluster).outcome ≠ .ok → ¬ env.Reliable) := by
  have post := reconcileConsumer_post streamFinalizerKey env key ⟨cluster, cns, [], [], []⟩ found
  simp only [processConsumer, found, run_apply, wrapErrors, run_tryCatch]
  revert post
  cases reconcileConsumer streamFinalizerKey env key cns.spec ⟨cluster, cns, [], [], []⟩ with
  | ok _ after => exact fun ⟨ending, calls⟩ => ⟨ending, calls (by simp), by simp⟩
  | error stop after =>
    cases stop <;>
      exact fun ⟨ending, calls, faulted⟩ => ⟨ending, calls (by simp), fun _ => faulted⟩

/-- A run on a key with no object returns `nil` and does nothing. -/
theorem processConsumer_absent {cluster : Cluster} (absent : cluster.consumers key = none) :
    processConsumer streamFinalizerKey env key cluster = ⟨.ok, cluster, [], [], []⟩ := by
  simp [processConsumer, absent]

/-- A run that returns `nil` completed one of the switch's arms. -/
theorem processConsumer_ok {cluster : Cluster} {cns : Consumer}
    (found : cluster.consumers key = some cns)
    (ok : (processConsumer streamFinalizerKey env key cluster).outcome = .ok) :
    Completed streamFinalizerKey env key cns cluster
      (processConsumer streamFinalizerKey env key cluster).cluster := by
  have ending := (processConsumer_ending streamFinalizerKey env key found).1
  rw [ok] at ending
  cases ending with
  | completed completed => exact completed

/-- A run in which no call fails returns `nil`. -/
theorem processConsumer_ok_of_reliable (cluster : Cluster) (reliable : env.Reliable) :
    (processConsumer streamFinalizerKey env key cluster).outcome = .ok := by
  cases found : cluster.consumers key with
  | none => simp [processConsumer_absent streamFinalizerKey env key found]
  | some cns =>
    by_contra failed
    exact (processConsumer_ending streamFinalizerKey env key found).2.2 failed reliable

end Runs

end Nack.Controllers.JetStream
