import Nack.Controllers.JetStream.ConsumerEffects

/-!
Contract: what one run of `processConsumer` returns, records and writes, arm by arm, in
a world where no call fails; a failed `Connect`; the deferred Errored write and the
text of every returned error; the closing of the connection; and what the delete arm
writes back to the finalizers.

Owns: `connectedState`, the run's state when the switch starts, and
`processConsumer_of_switch`, which reduces a failure-free run to its switch; the four
arms of the switch as whole reports (`processConsumer_create_reliable` and the update,
delete and no-op ones); the run whose `Connect` fails; `processConsumer_of_stopped`,
which reduces a run that stops with an error to its deferred Errored write, and what
that write records; `processConsumer_error_prefixed`; `Close` as the last call of a run
that connected; the frame of a run; the delete arm's write-back of
`consumerFinalizerKey`.

Does not own: runs that fail part-way through an arm (`ConsumerRuns`).
-/

namespace Nack.Controllers.JetStream

open Nack.Apis

/-- The calls a run makes before its switch where nothing fails: the secret lookup, if the
spec names a secret, and `Connect`. -/
def connectCalls (spec : ConsumerSpec) : List Call :=
  (spec.credentialsSecret.map Call.getSecret).toList ++ [.connect (",".intercalate spec.servers)]

/-- The events a run records before its switch. -/
def connectEvents : List Event :=
  [⟨.normal, "Connecting", "Connecting to NATS Server"⟩,
    ⟨.normal, "Connected", "Connected to NATS Server"⟩]

/-- The run's state when the switch starts, in a world where nothing fails. -/
def connectedState (cluster : Cluster) (cns : Consumer) : RunState :=
  ⟨cluster, cns, connectCalls cns.spec, connectEvents, []⟩

section Reliable

variable (streamFinalizerKey : String) (env : Env) (key : ObjectKey) {cluster : Cluster}
  {cns : Consumer}

/-- **A failure-free run is its switch.** Where nothing fails, a run makes the secret
lookup and `Connect`, records `Connecting` and `Connected`, runs the switch, and closes
the connection. -/
theorem processConsumer_of_switch (found : cluster.consumers key = some cns)
    (reliable : env.Reliable) {after : RunState}
    (switch : reconcileSwitch streamFinalizerKey env key cns.spec (connectedState cluster cns) =
      .ok () after) :
    processConsumer streamFinalizerKey env key cluster =
      ⟨.ok, after.cluster, after.calls ++ [.close], after.events, after.watched⟩ := by
  cases secret : cns.spec.credentialsSecret <;>
    simp only [connectedState, connectCalls, connectEvents, secret, Option.map_none',
      Option.map_some', Option.toList_none, Option.toList_some, List.nil_append,
      List.singleton_append] at switch <;>
    simp [processConsumer, found, wrapErrors, reconcileConsumer, connectAndReconcile,
      connectedSwitch, getCreds, normalEvent, connect, close, attempt_run, reliable _, secret,
      switch, RunState.emit, RunState.record]

/-- The create arm, where nothing fails: `NewConsumer`, the finalizer write, the status
write with the observed generation and a `Ready` condition `Created`, and the events
`Creating` and `Created`. -/
theorem processConsumer_create_reliable (found : cluster.consumers key = some cns)
    (guard : CreateGuard cns cluster) (reliable : env.Reliable) :
    processConsumer streamFinalizerKey env key cluster =
      { outcome := .ok
        cluster := ((cluster.addConsumer cns.spec.consumerName).writeFinalizers key
          (addFinalizer cns.finalizers streamFinalizerKey)).writeStatus key
            (okStatus (env.clock .setConsumerOK) cns)
        calls := connectCalls cns.spec ++
          [.loadConsumer cns.spec.consumerName, .newConsumer cns.spec.consumerName,
            .update (addFinalizer cns.finalizers streamFinalizerKey),
            .updateStatus (okStatus (env.clock .setConsumerOK) cns), .close]
        events := connectEvents ++
          [⟨.normal, "Creating", "Creating consumer " ++ goQuote cns.spec.durableName ++
            " on stream " ++ goQuote cns.spec.streamName⟩,
          ⟨.normal, "Created", "Created consumer " ++ goQuote cns.spec.durableName ++
            " on stream " ++ goQuote cns.spec.streamName⟩]
        watched := (if streamFinalizerKey ∈ cns.finalizers then [] else [key]) ++ [key] } := by
  obtain ⟨live, unobserved, absent⟩ := guard
  have observes : okStatus (env.clock .setConsumerOK) cns ≠ cns.status :=
    fun same => unobserved (congrArg Status.observedGeneration same)
  rw [processConsumer_of_switch streamFinalizerKey env key found reliable (by
      simp [connectedState, reconcileSwitch, createArm, normalEvent, consumerExists_run,
        createConsumer_run, setConsumerFinalizer_run, setConsumerOK_run, reliable _, live,
        unobserved, absent, found, okStatus, RunState.emit, RunState.record,
        RunState.mapCluster, RunState.write]; rfl),
    observe_writeFinalizers (c := cns) (by simp [found]),
    observe_writeStatus (c := { cns with finalizers := addFinalizer cns.finalizers streamFinalizerKey })
      (by simp [found])]
  simp only [okStatus] at observes
  simp [connectedState, addFinalizer_eq_self, okStatus, observes]

example :
    let cluster : Cluster := ⟨fun k => if k = ⟨"default", "my-consumer"⟩ then
      some ⟨1, none, [], ⟨"", "my-consumer", [], none⟩, ⟨0, []⟩⟩ else none, []⟩
    processConsumer "streamfinalizer.jetstream.nats.io" (.allOk "t1") ⟨"default", "my-consumer"⟩
        cluster =
      { outcome := .ok
        cluster := ((cluster.addConsumer ⟨"", "my-consumer"⟩).writeFinalizers
          ⟨"default", "my-consumer"⟩ ["streamfinalizer.jetstream.nats.io"]).writeStatus
            ⟨"default", "my-consumer"⟩ ⟨1, [createdCondition "t1"]⟩
        calls := [.connect "", .loadConsumer ⟨"", "my-consumer"⟩, .newConsumer ⟨"", "my-consumer"⟩,
          .update ["streamfinalizer.jetstream.nats.io"], .updateStatus ⟨1, [createdCondition "t1"]⟩,
          .close]
        events := [⟨.normal, "Connecting", "Connecting to NATS Server"⟩,
          ⟨.normal, "Connected", "Connected to NATS Server"⟩,
          ⟨.normal, "Creating", "Creating consumer \"my-consumer\" on stream \"\""⟩,
          ⟨.normal, "Created", "Created consumer \"my-consumer\" on stream \"\""⟩]
        watched := [⟨"default", "my-consumer"⟩, ⟨"default", "my-consumer"⟩] } :=
  @processConsumer_create_reliable "streamfinalizer.jetstream.nats.io" (.allOk "t1")
    ⟨"default", "my-consumer"⟩ ⟨fun k => if k = ⟨"default", "my-consumer"⟩ then
      some ⟨1, none, [], ⟨"", "my-consumer", [], none⟩, ⟨0, []⟩⟩ else none, []⟩ _ rfl
    ⟨rfl, by decide, by decide⟩ (Env.allOk_reliable _)

/-- The update arm, where nothing fails: consumer updates are not allowed, so the run
only warns; it writes nothing and makes no call to the server beyond the existence
check. -/
theorem processConsumer_update_reliable (found : cluster.consumers key = some cns)
    (live : cns.deletionTimestamp = none)
    (unobserved : cns.generation ≠ cns.status.observedGeneration)
    (present : cns.spec.consumerName ∈ cluster.server) (reliable : env.Reliable) :
    processConsumer streamFinalizerKey env key cluster =
      { outcome := .ok
        cluster := cluster
        calls := connectCalls cns.spec ++ [.loadConsumer cns.spec.consumerName, .close]
        events := connectEvents ++
          [⟨.warning, "Updating", "Consumer updates (" ++ goQuote cns.spec.durableName ++ " on " ++
            goQuote cns.spec.streamName ++ ") are not allowed, recreate to update"⟩]
        watched := [] } := by
  rw [processConsumer_of_switch streamFinalizerKey env key found reliable (by
    simp [connectedState, reconcileSwitch, warningEvent, consumerExists_run, reliable _, live,
      unobserved, present, RunState.emit, RunState.record]; rfl)]
  simp [connectedState]

/-- The delete arm, where nothing fails, whatever the generations: `Delete` if the
consumer is there, then the finalizer write that clears the controller's token, and no
status write. -/
theorem processConsumer_delete_reliable (found : cluster.consumers key = some cns)
    (deleting : cns.deletionTimestamp.isSome) (reliable : env.Reliable) :
    processConsumer streamFinalizerKey env key cluster =
      { outcome := .ok
        cluster := (cluster.removeConsumer cns.spec.consumerName).writeFinalizers key
          (removeFinalizer cns.finalizers streamFinalizerKey)
        calls := connectCalls cns.spec ++
          [.loadConsumer cns.spec.consumerName, .loadConsumer cns.spec.consumerName] ++
          (if cns.spec.consumerName ∈ cluster.server then [.delete cns.spec.consumerName] else []) ++
          [.update (removeFinalizer cns.finalizers streamFinalizerKey), .close]
        events := connectEvents ++
          [⟨.normal, "Deleting", "Deleting consumer " ++ goQuote cns.spec.durableName ++
            " on stream " ++ goQuote cns.spec.streamName⟩]
        watched := if streamFinalizerKey ∈ cns.finalizers then [key] else [] } := by
  have pending : cns.deletionTimestamp ≠ none := fun gone => by simp [gone] at deleting
  by_cases present : cns.spec.consumerName ∈ cluster.server <;>
    rw [processConsumer_of_switch streamFinalizerKey env key found reliable (by
        simp [connectedState, reconcileSwitch, deleteArm, normalEvent, consumerExists_run,
          deleteConsumer_run, clearConsumerFinalizer_run, reliable _, pending, deleting, present,
          found, RunState.emit, RunState.record, RunState.mapCluster, RunState.write]; rfl),
      observe_writeFinalizers (c := cns) (by simp [found])] <;>
    simp [connectedState, present, Cluster.removeConsumer_of_not_mem, removeFinalizer_eq_self]

/-- The no-op arm, where nothing fails: a live object whose generation is observed gets
a `Noop` warning and nothing else, whether or not its consumer is on the server. -/
theorem processConsumer_noop_reliable (found : cluster.consumers key = some cns)
    (live : cns.deletionTimestamp = none)
    (observed : cns.generation = cns.status.observedGeneration) (reliable : env.Reliable) :
    processConsumer streamFinalizerKey env key cluster =
      { outcome := .ok
        cluster := cluster
        calls := connectCalls cns.spec ++ [.loadConsumer cns.spec.consumerName, .close]
        events := connectEvents ++
          [⟨.warning, "Noop", "Nothing done for consumer " ++ goQuote cns.spec.durableName⟩]
        watched := [] } := by
  rw [processConsumer_of_switch streamFinalizerKey env key found reliable (by
    simp [connectedState, reconcileSwitch, warningEvent, consumerExists_run, reliable _, live,
      observed, RunState.emit, RunState.record]; rfl)]
  simp [connectedState]

end Reliable

/-! ## Failing runs -/

section Failing

variable (streamFinalizerKey : String) (env : Env) (key : ObjectKey) {cluster : Cluster}
  {cns : Consumer}

/-- **A failed `Connect`.** The run records `Connecting` and nothing after it, makes no
call to the server, upserts the Errored `Ready` condition with the error of `Connect`,
and returns that error under the run's context. -/
theorem processConsumer_connect_failure (found : cluster.consumers key = some cns)
    (secretRead : env.fault .getSecret = .ok) {message : String}
    (refused : env.fault .connect = .fail message) (written : env.fault .setConsumerErrored = .ok) :
    processConsumer streamFinalizerKey env key cluster =
      { outcome := .error ("failed to process consumer: " ++ message)
        cluster := cluster.writeStatus key (erroredStatus (env.clock .setConsumerErrored) message cns)
        calls := connectCalls cns.spec ++
          [.updateStatus (erroredStatus (env.clock .setConsumerErrored) message cns)]
        events := [⟨.normal, "Connecting", "Connecting to NATS Server"⟩]
        watched := observe cluster
          (cluster.writeStatus key (erroredStatus (env.clock .setConsumerErrored) message cns))
          key } := by
  cases secret : cns.spec.credentialsSecret <;>
    simp [processConsumer, found, wrapErrors, reconcileConsumer, connectAndReconcile, getCreds,
      normalEvent, connect, attempt_run, secretRead, refused, written, erroredDefer_run,
      connectCalls, secret, RunState.emit, RunState.record, RunState.mapCluster]

example :
    let cluster : Cluster := ⟨fun k => if k = ⟨"default", "my-consumer"⟩ then
      some ⟨1, none, [], ⟨"", "my-consumer", [], none⟩, ⟨0, []⟩⟩ else none, []⟩
    processConsumer "streamfinalizer.jetstream.nats.io"
        (.faultAt .connect (.fail "nats: no servers available for connection") "t1")
        ⟨"default", "my-consumer"⟩ cluster =
      { outcome := .error "failed to process consumer: nats: no servers available for connection"
        cluster := cluster.writeStatus ⟨"default", "my-consumer"⟩
          ⟨0, [erroredCondition "t1" "nats: no servers available for connection"]⟩
        calls := [.connect "", .updateStatus
          ⟨0, [erroredCondition "t1" "nats: no servers available for connection"]⟩]
        events := [⟨.normal, "Connecting", "Connecting to NATS Server"⟩]
        watched := [⟨"default", "my-consumer"⟩] } :=
  @processConsumer_connect_failure "streamfinalizer.jetstream.nats.io"
    (.faultAt .connect (.fail "nats: no servers available for connection") "t1")
    ⟨"default", "my-consumer"⟩ ⟨fun k => if k = ⟨"default", "my-consumer"⟩ then
      some ⟨1, none, [], ⟨"", "my-consumer", [], none⟩, ⟨0, []⟩⟩ else none, []⟩ _ rfl rfl _ rfl rfl

theorem wrapErrors_error {α : Type} {context message : String} {body : Run α}
    {st after : RunState} (failed : wrapErrors context body st = .error (.error message) after) :
    ∃ inner, message = context ++ ": " ++ inner := by
  simp only [wrapErrors, run_tryCatch] at failed
  split at failed
  · next stop _ _ =>
    cases stop with
    | error inner =>
      simp only [run_throw, EStateM.Result.error.injEq, Stop.error.injEq] at failed
      exact ⟨inner, failed.1.symm⟩
    | halt => simp at failed
  · cases failed

/-- **A stopped run ends in its deferred Errored write.** A run whose body stops with an
error writes the Errored condition over the status of the object it holds, and returns
the error under the run's context, with the write's own failure merged in, whether or
not the write took effect. -/
theorem processConsumer_of_stopped (found : cluster.consumers key = some cns) {err : String}
    {mid : RunState}
    (stopped : connectAndReconcile streamFinalizerKey env key cns.spec ⟨cluster, cns, [], [], []⟩ =
      .error (.error err) mid) :
    processConsumer streamFinalizerKey env key cluster =
      let status := erroredStatus (env.clock .setConsumerErrored) err mid.cns
      let written := mid.watched ++ observe mid.cluster (mid.cluster.writeStatus key status) key
      match env.fault .setConsumerErrored with
      | .ok => ⟨.error ("failed to process consumer: " ++ err), mid.cluster.writeStatus key status,
          mid.calls ++ [.updateStatus status], mid.events, written⟩
      | .fail serr => ⟨.error ("failed to process consumer: " ++
            (err ++ ": " ++ ("failed to set consumer errored status: " ++ serr))),
          mid.cluster, mid.calls ++ [.updateStatus status], mid.events, mid.watched⟩
      | .lost serr => ⟨.error ("failed to process consumer: " ++
            (err ++ ": " ++ ("failed to set consumer errored status: " ++ serr))),
          mid.cluster.writeStatus key status, mid.calls ++ [.updateStatus status], mid.events,
          written⟩
      | .halt => ⟨.halted, mid.cluster, mid.calls, mid.events, mid.watched⟩ := by
  cases h : env.fault .setConsumerErrored <;>
    simp [processConsumer, found, reconcileConsumer, wrapErrors, stopped, erroredDefer_run, h,
      RunState.record, RunState.write]

/-- **A failure is recorded as the error it returns.** Where the deferred Errored write
goes through, a run that returns an error leaves its object with a `Ready` condition
Errored whose message is that error, less the run's context. -/
theorem processConsumer_error_recorded (found : cluster.consumers key = some cns)
    (written : env.fault .setConsumerErrored = .ok) {message : String}
    (failed : (processConsumer streamFinalizerKey env key cluster).outcome = .error message) :
    ∃ err, message = "failed to process consumer: " ++ err ∧
      ∃ c, (processConsumer streamFinalizerKey env key cluster).cluster.consumers key = some c ∧
        c.status.conditions.find? (·.type == readyCondType) =
          some (erroredCondition (env.clock .setConsumerErrored) err) := by
  have post := connectAndReconcile_post streamFinalizerKey env key ⟨cluster, cns, [], [], []⟩ found
  revert failed post
  cases body :
      connectAndReconcile streamFinalizerKey env key cns.spec ⟨cluster, cns, [], [], []⟩ with
  | ok _ after => simp [processConsumer, found, reconcileConsumer, wrapErrors, body]
  | error stop mid =>
    cases stop with
    | halt => simp [processConsumer, found, reconcileConsumer, wrapErrors, body, erroredDefer]
    | error err =>
      simp only [processConsumer_of_stopped streamFinalizerKey env key found body, written]
      rintro failed ⟨interrupted, -, -, -⟩
      obtain ⟨c, stored, -, -⟩ := interrupted.stored (keptByRuns_true _) found
      exact ⟨err, (Outcome.error.inj failed).symm,
        { c with status := erroredStatus (env.clock .setConsumerErrored) err mid.cns },
        by simp [stored],
        find?_upsertCondition mid.cns.status.conditions
          (erroredCondition (env.clock .setConsumerErrored) err)⟩

theorem connect_failure_recorded :
    let cluster : Cluster := ⟨fun k => if k = ⟨"default", "my-consumer"⟩ then
      some ⟨1, none, [], ⟨"", "my-consumer", [], none⟩, ⟨0, []⟩⟩ else none, []⟩
    ∃ err, "failed to process consumer: nats: no servers available for connection" =
        "failed to process consumer: " ++ err ∧
      ∃ c, (processConsumer "streamfinalizer.jetstream.nats.io"
          (.faultAt .connect (.fail "nats: no servers available for connection") "t1")
          ⟨"default", "my-consumer"⟩ cluster).cluster.consumers ⟨"default", "my-consumer"⟩ = some c ∧
        c.status.conditions.find? (·.type == readyCondType) = some (erroredCondition "t1" err) :=
  @processConsumer_error_recorded "streamfinalizer.jetstream.nats.io"
    (.faultAt .connect (.fail "nats: no servers available for connection") "t1")
    ⟨"default", "my-consumer"⟩ ⟨fun k => if k = ⟨"default", "my-consumer"⟩ then
      some ⟨1, none, [], ⟨"", "my-consumer", [], none⟩, ⟨0, []⟩⟩ else none, []⟩ _ rfl rfl _ rfl

/-- **A failed Errored write is not lost.** Where the deferred Errored write fails, or
takes effect with its reply lost, a run that returns an error returns both errors, the
write's after the run's. Where the write failed, the object keeps the status the run
left: the one it read, or the Created status of a write whose reply was lost; where the
write's reply was lost, the object has the Errored status. -/
theorem processConsumer_errored_write_merged (found : cluster.consumers key = some cns)
    {writeError : String}
    (unanswered : env.fault .setConsumerErrored = .fail writeError ∨
      env.fault .setConsumerErrored = .lost writeError)
    {message : String}
    (failed : (processConsumer streamFinalizerKey env key cluster).outcome = .error message) :
    ∃ err, message = "failed to process consumer: " ++
        (err ++ ": " ++ ("failed to set consumer errored status: " ++ writeError)) ∧
      ∃ c, (processConsumer streamFinalizerKey env key cluster).cluster.consumers key = some c ∧
        (env.fault .setConsumerErrored = .fail writeError → c.status = cns.status ∨
          (∃ lost, env.fault .setConsumerOK = .lost lost) ∧
            c.status = okStatus (env.clock .setConsumerOK) cns) ∧
        (env.fault .setConsumerErrored = .lost writeError →
          c.status = erroredStatus (env.clock .setConsumerErrored) err cns) := by
  have post := connectAndReconcile_post streamFinalizerKey env key ⟨cluster, cns, [], [], []⟩ found
  revert failed post
  cases body :
      connectAndReconcile streamFinalizerKey env key cns.spec ⟨cluster, cns, [], [], []⟩ with
  | ok _ after => simp [processConsumer, found, reconcileConsumer, wrapErrors, body]
  | error stop mid =>
    cases stop with
    | halt => simp [processConsumer, found, reconcileConsumer, wrapErrors, body, erroredDefer]
    | error err =>
      have ran := processConsumer_of_stopped streamFinalizerKey env key found body
      rintro failed ⟨interrupted, sameStatus, -, -⟩
      rcases unanswered with unwritten | lost
      · simp only [unwritten] at ran
        simp only [ran, Outcome.error.injEq] at failed
        rw [ran]
        obtain ⟨c, stored, -, status⟩ := interrupted.stored (keptByRuns_true _) found
        exact ⟨err, failed.symm, c, stored,
          fun _ => status.imp_right fun ⟨_, lost, okWritten⟩ => ⟨lost, okWritten⟩,
          fun lost => absurd (unwritten.symm.trans lost) (by simp)⟩
      · have sameErrored : erroredStatus (env.clock .setConsumerErrored) err mid.cns =
            erroredStatus (env.clock .setConsumerErrored) err cns := by
          simp [erroredStatus, sameStatus]
        simp only [lost, sameErrored] at ran
        simp only [ran, Outcome.error.injEq] at failed
        rw [ran]
        obtain ⟨c, stored, status, -⟩ :=
          interrupted.stored_errored (keptByRuns_true _) found (env.clock .setConsumerErrored) err
        exact ⟨err, failed.symm, c, stored, fun unwritten => absurd (lost.symm.trans unwritten)
          (by simp), fun _ => status⟩

theorem connect_failure_errored_write_merged :
    let env : Env := ⟨fun site => if site = .connect then .fail "nats: no servers available"
      else if site = .setConsumerErrored then .lost "conflict" else .ok, fun _ => "t1"⟩
    let cns : Consumer := ⟨1, none, [], ⟨"", "my-consumer", [], none⟩, ⟨0, []⟩⟩
    let cluster : Cluster :=
      ⟨fun k => if k = ⟨"default", "my-consumer"⟩ then some cns else none, []⟩
    ∃ err, "failed to process consumer: nats: no servers available: " ++
          "failed to set consumer errored status: conflict" =
        "failed to process consumer: " ++
          (err ++ ": " ++ ("failed to set consumer errored status: " ++ "conflict")) ∧
      ∃ c, (processConsumer "streamfinalizer.jetstream.nats.io" env ⟨"default", "my-consumer"⟩
          cluster).cluster.consumers ⟨"default", "my-consumer"⟩ = some c ∧
        (env.fault .setConsumerErrored = .fail "conflict" → c.status = cns.status ∨
          (∃ lost, env.fault .setConsumerOK = .lost lost) ∧
            c.status = okStatus (env.clock .setConsumerOK) cns) ∧
        (env.fault .setConsumerErrored = .lost "conflict" →
          c.status = erroredStatus (env.clock .setConsumerErrored) err cns) :=
  @processConsumer_errored_write_merged "streamfinalizer.jetstream.nats.io"
    ⟨fun site => if site = .connect then .fail "nats: no servers available"
      else if site = .setConsumerErrored then .lost "conflict" else .ok, fun _ => "t1"⟩
    ⟨"default", "my-consumer"⟩ ⟨fun k => if k = ⟨"default", "my-consumer"⟩ then
      some ⟨1, none, [], ⟨"", "my-consumer", [], none⟩, ⟨0, []⟩⟩ else none, []⟩ _ rfl _
    (.inr rfl) _ rfl

/-- A run returns an error only where some call failed or the process halted. -/
theorem processConsumer_error_needs_fault (cluster : Cluster)
    (failed : (processConsumer streamFinalizerKey env key cluster).outcome ≠ .ok) :
    ∃ site, env.fault site ≠ .ok := by
  by_contra reliable
  push_neg at reliable
  exact failed (processConsumer_ok_of_reliable streamFinalizerKey env key cluster reliable)

theorem connect_failure_needs_fault :
    ∃ site, (Env.faultAt .connect (.fail "nats: no servers available for connection") "t1").fault
      site ≠ .ok :=
  processConsumer_error_needs_fault "streamfinalizer.jetstream.nats.io"
    (.faultAt .connect (.fail "nats: no servers available for connection") "t1")
    ⟨"default", "my-consumer"⟩
    ⟨fun _ => some ⟨1, none, [], ⟨"", "my-consumer", [], none⟩, ⟨0, []⟩⟩, []⟩ (by decide)

end Failing

/-! ## Closing the connection -/

section Closing

variable (streamFinalizerKey : String) (env : Env) (key : ObjectKey)

theorem connectedSwitch_closes (spec : ConsumerSpec) (st : RunState) :
    match connectedSwitch streamFinalizerKey env key spec st with
    | .ok _ after | .error (.error _) after => ∃ before, after.calls = before ++ [.close]
    | .error .halt _ => True := by
  simp only [connectedSwitch, run_tryCatch, run_bind, normalEvent, run_modify]
  cases reconcileSwitch streamFinalizerKey env key spec
      (st.emit ⟨.normal, "Connected", "Connected to NATS Server"⟩) with
  | ok _ after => exact ⟨after.calls, rfl⟩
  | error stop after =>
    cases stop with
    | error _ => exact ⟨after.calls, rfl⟩
    | halt => trivial

theorem connectAndReconcile_closes (spec : ConsumerSpec) (st : RunState)
    (secretRead : env.fault .getSecret = .ok) (connected : env.fault .connect = .ok) :
    match connectAndReconcile streamFinalizerKey env key spec st with
    | .ok _ after | .error (.error _) after => ∃ before, after.calls = before ++ [.close]
    | .error .halt _ => True := by
  cases secret : spec.credentialsSecret <;>
    simp only [connectAndReconcile, getCreds, secret, run_bind, run_pure, attempt_run, secretRead,
      normalEvent, run_modify, connect, connected] <;>
    exact connectedSwitch_closes streamFinalizerKey env key spec _

end Closing

/-! ## The frame of a run -/

/-- **A run writes only its own object's finalizers and status.** Every other object
is untouched; the reconciled object keeps its generation, deletion timestamp and spec;
and the only consumer that can appear on or disappear from the server is the one its
spec names. -/
theorem processConsumer_frame (streamFinalizerKey : String) (env : Env) (key : ObjectKey)
    (cluster : Cluster) :
    (∀ other, other ≠ key →
      (processConsumer streamFinalizerKey env key cluster).cluster.consumers other =
        cluster.consumers other) ∧
    ((processConsumer streamFinalizerKey env key cluster).cluster.consumers key).map
        Consumer.declared = (cluster.consumers key).map Consumer.declared ∧
    (∀ name, (name ∈ (processConsumer streamFinalizerKey env key cluster).cluster.server ↔
        name ∈ cluster.server) ∨
      ∃ cns, cluster.consumers key = some cns ∧ name = cns.spec.consumerName) := by
  cases found : cluster.consumers key with
  | none => simp [processConsumer_absent streamFinalizerKey env key found, found]
  | some cns =>
    have ending := (processConsumer_ending streamFinalizerKey env key found).1
    refine ⟨fun _ different => ending.others different, by rw [ending.declared found key, found],
      fun name => ?_⟩
    by_cases named : name = cns.spec.consumerName
    · exact .inr ⟨cns, rfl, named⟩
    · exact .inl ⟨fun member => (ending.mem_server member).resolve_right named,
        fun member => ending.mem_server_of_ne member named⟩

/-! ## What the delete arm writes back -/

/-- **The delete arm keeps `consumerFinalizerKey`.** Where nothing fails, a run on a
deleting object returns `nil` and writes back its finalizers with every
`streamFinalizerKey` removed and the rest in order: the token the controller declares,
`consumerFinalizerKey`, stays. -/
theorem deletion_keeps_consumerFinalizerKey (streamFinalizerKey : String)
    (distinct : streamFinalizerKey ≠ consumerFinalizerKey) (env : Env) (key : ObjectKey)
    {cluster : Cluster} {cns : Consumer} (found : cluster.consumers key = some cns)
    (deleting : cns.deletionTimestamp.isSome) (reliable : env.Reliable)
    (owned : consumerFinalizerKey ∈ cns.finalizers) :
    (processConsumer streamFinalizerKey env key cluster).outcome = .ok ∧
      (processConsumer streamFinalizerKey env key cluster).cluster.consumers key =
        some { cns with finalizers := removeFinalizer cns.finalizers streamFinalizerKey } ∧
      consumerFinalizerKey ∈ removeFinalizer cns.finalizers streamFinalizerKey := by
  have ok := processConsumer_ok_of_reliable streamFinalizerKey env key cluster reliable
  refine ⟨ok, ?_, by simp [owned, Ne.symm distinct]⟩
  have completed := processConsumer_ok streamFinalizerKey env key found ok
  generalize (processConsumer streamFinalizerKey env key cluster).cluster = after at completed ⊢
  cases completed with
  | idle _ live => simp [live] at deleting
  | created guard => simp [guard.1] at deleting
  | deleted _ => simp [found]

theorem deletion_keeps_consumerFinalizerKey_of_test_object :
    let cluster : Cluster := ⟨fun k => if k = ⟨"default", "my-consumer"⟩ then
      some ⟨1, some 1, [consumerFinalizerKey], ⟨"", "my-consumer", [], none⟩, ⟨0, []⟩⟩ else none, []⟩
    (processConsumer "streamfinalizer.jetstream.nats.io" (.allOk "t1") ⟨"default", "my-consumer"⟩
        cluster).outcome = .ok ∧
      (processConsumer "streamfinalizer.jetstream.nats.io" (.allOk "t1") ⟨"default", "my-consumer"⟩
        cluster).cluster.consumers ⟨"default", "my-consumer"⟩ =
        some ⟨1, some 1, [consumerFinalizerKey], ⟨"", "my-consumer", [], none⟩, ⟨0, []⟩⟩ ∧
      consumerFinalizerKey ∈ [consumerFinalizerKey] :=
  @deletion_keeps_consumerFinalizerKey "streamfinalizer.jetstream.nats.io" (by decide)
    (.allOk "t1") ⟨"default", "my-consumer"⟩ ⟨fun k => if k = ⟨"default", "my-consumer"⟩ then
      some ⟨1, some 1, [consumerFinalizerKey], ⟨"", "my-consumer", [], none⟩, ⟨0, []⟩⟩ else none, []⟩
    _ rfl rfl (Env.allOk_reliable _) (by decide)

end Nack.Controllers.JetStream
