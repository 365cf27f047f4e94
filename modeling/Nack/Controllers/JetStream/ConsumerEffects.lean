import Nack.Controllers.JetStream.ConsumerRuns

/-!
Contract: what one run of `processConsumer` leaves in the cluster, object by object,
read off the run's `Ending`.

Owns: the frame of a run (`Ending.others`: the other objects are untouched;
`Ending.declared`: the reconciled one keeps its generation, deletion timestamp and
spec); `KeptByRuns`, the writes a property of one object must survive, and
`Ending.keeps`, that it then survives every run; and the server after a run
(`Ending.mem_server`, `Ending.mem_server_of_ne`): only the reconciled object's
consumer can appear or disappear.

Does not own: the moves of users and of the store between runs (`Nack.Lifecycle`).
-/

namespace Nack.Apis

/-- The part of an object a run never writes: its generation, deletion timestamp and
spec. -/
def Consumer.declared (c : Consumer) : Nat × Option Nat × ConsumerSpec :=
  (c.generation, c.deletionTimestamp, c.spec)

end Nack.Apis

namespace Nack.Controllers.JetStream

open Nack.Apis

/-- The writes a run can make to the object `c` it reconciles, each under what the run
must have read for it. A property of one object that all of them keep, every run
keeps. -/
structure KeptByRuns (streamFinalizerKey : String) (P : Consumer → Prop) : Prop where
  finalizerAdded : ∀ c, P c → P { c with finalizers := addFinalizer c.finalizers streamFinalizerKey }
  created : ∀ c now, P c →
    P { c with finalizers := addFinalizer c.finalizers streamFinalizerKey, status := okStatus now c }
  finalizerCleared : ∀ c, c.deletionTimestamp.isSome → P c →
    P { c with finalizers := removeFinalizer c.finalizers streamFinalizerKey }
  erroredWritten : ∀ c now err, P c → P { c with status := erroredStatus now err c }

/-- Every run keeps what holds of every object. -/
theorem keptByRuns_true (streamFinalizerKey : String) : KeptByRuns streamFinalizerKey fun _ => True :=
  ⟨fun _ => id, fun _ _ => id, fun _ _ => id, fun _ _ _ => id⟩

section Effects

variable {streamFinalizerKey : String} {env : Env} {key : ObjectKey} {cns : Consumer}
  {cluster after : Cluster} {P : Consumer → Prop}

/-! ## The frame of a run -/

theorem Interrupted.others (interrupted : Interrupted streamFinalizerKey env key cns cluster after)
    {other : ObjectKey} (different : other ≠ key) :
    after.consumers other = cluster.consumers other := by
  cases interrupted <;> simp [different]

theorem Completed.others (completed : Completed streamFinalizerKey env key cns cluster after)
    {other : ObjectKey} (different : other ≠ key) :
    after.consumers other = cluster.consumers other := by
  cases completed <;> simp [different]

/-- A run touches no object but the one it reconciles. -/
theorem Ending.others {ok : Bool} (ending : Ending streamFinalizerKey env key cns cluster ok after)
    {other : ObjectKey} (different : other ≠ key) :
    after.consumers other = cluster.consumers other := by
  cases ending with
  | completed completed => exact completed.others different
  | stopped interrupted => exact interrupted.others different
  | erroredWritten _ interrupted => simp [different, interrupted.others different]

/-- A run of `processConsumer` touches no object but the one under its key. -/
theorem processConsumer_consumers_of_ne (streamFinalizerKey : String) (env : Env)
    {key other : ObjectKey} (cluster : Cluster) (different : other ≠ key) :
    (processConsumer streamFinalizerKey env key cluster).cluster.consumers other =
      cluster.consumers other := by
  cases found : cluster.consumers key with
  | none => rw [processConsumer_absent streamFinalizerKey env key found]
  | some _ => exact (processConsumer_ending streamFinalizerKey env key found).1.others different

/-! ## The reconciled object -/

/-- An interrupted run leaves the object's status as it read it, unless the create arm's
status write went through with its reply lost. -/
theorem Interrupted.stored (kept : KeptByRuns streamFinalizerKey P)
    (found : cluster.consumers key = some cns)
    (interrupted : Interrupted streamFinalizerKey env key cns cluster after) :
    ∃ c, after.consumers key = some c ∧ (P cns → P c) ∧
      (c.status = cns.status ∨ CreateGuard cns cluster ∧
        (∃ message, env.fault .setConsumerOK = .lost message) ∧
        c.status = okStatus (env.clock .setConsumerOK) cns) := by
  cases interrupted with
  | beforeWrites | afterNewConsumer _ _ | afterDelete _ =>
    exact ⟨cns, by simpa using found, id, .inl rfl⟩
  | afterFinalizer _ _ _ =>
    exact ⟨{ cns with finalizers := addFinalizer cns.finalizers streamFinalizerKey },
      by simp [found], kept.finalizerAdded cns, .inl rfl⟩
  | afterStatus guard _ _ lost =>
    exact ⟨{ cns with
        finalizers := addFinalizer cns.finalizers streamFinalizerKey
        status := okStatus (env.clock .setConsumerOK) cns },
      by simp [found], kept.created cns _, .inr ⟨guard, lost, rfl⟩⟩
  | afterClear deleting =>
    exact ⟨{ cns with finalizers := removeFinalizer cns.finalizers streamFinalizerKey },
      by simp [found], kept.finalizerCleared cns deleting, .inl rfl⟩

/-- The deferred Errored write after an interrupted run writes over the status the run
read, whatever the run wrote before it. -/
theorem Interrupted.stored_errored (kept : KeptByRuns streamFinalizerKey P)
    (found : cluster.consumers key = some cns)
    (interrupted : Interrupted streamFinalizerKey env key cns cluster after) (now err : String) :
    ∃ c, (after.writeStatus key (erroredStatus now err cns)).consumers key = some c ∧
      c.status = erroredStatus now err cns ∧ (P cns → P c) := by
  cases interrupted with
  | beforeWrites | afterNewConsumer _ _ | afterDelete _ =>
    exact ⟨{ cns with status := erroredStatus now err cns }, by simp [found], rfl,
      kept.erroredWritten cns now err⟩
  | afterFinalizer _ _ _ | afterStatus _ _ _ _ =>
    exact ⟨{ cns with
        finalizers := addFinalizer cns.finalizers streamFinalizerKey
        status := erroredStatus now err cns },
      by simp [found], rfl, fun held => kept.erroredWritten _ now err (kept.finalizerAdded cns held)⟩
  | afterClear deleting =>
    exact ⟨{ cns with
        finalizers := removeFinalizer cns.finalizers streamFinalizerKey
        status := erroredStatus now err cns },
      by simp [found], rfl,
      fun held => kept.erroredWritten _ now err (kept.finalizerCleared cns deleting held)⟩

theorem Completed.stored (kept : KeptByRuns streamFinalizerKey P)
    (found : cluster.consumers key = some cns)
    (completed : Completed streamFinalizerKey env key cns cluster after) :
    ∃ c, after.consumers key = some c ∧ (P cns → P c) := by
  cases completed with
  | idle _ _ => exact ⟨cns, found, id⟩
  | created _ _ _ =>
    exact ⟨{ cns with
        finalizers := addFinalizer cns.finalizers streamFinalizerKey
        status := okStatus (env.clock .setConsumerOK) cns },
      by simp [found], kept.created cns _⟩
  | deleted deleting =>
    exact ⟨{ cns with finalizers := removeFinalizer cns.finalizers streamFinalizerKey },
      by simp [found], kept.finalizerCleared cns deleting⟩

theorem Ending.stored (kept : KeptByRuns streamFinalizerKey P)
    (found : cluster.consumers key = some cns) {ok : Bool}
    (ending : Ending streamFinalizerKey env key cns cluster ok after) :
    ∃ c, after.consumers key = some c ∧ (P cns → P c) := by
  cases ending with
  | completed completed => exact completed.stored kept found
  | stopped interrupted =>
    obtain ⟨c, stored, link, -⟩ := interrupted.stored kept found
    exact ⟨c, stored, link⟩
  | erroredWritten err interrupted =>
    obtain ⟨c, stored, -, link⟩ := interrupted.stored_errored kept found _ err
    exact ⟨c, stored, link⟩

/-- A run that returns an error leaves the object's observed generation as it read it,
unless the create arm's status write went through with its reply lost. -/
theorem Ending.observed_of_failed (found : cluster.consumers key = some cns)
    (ending : Ending streamFinalizerKey env key cns cluster false after)
    (answered : ∀ message, env.fault .setConsumerOK ≠ .lost message) :
    ∃ c, after.consumers key = some c ∧
      c.status.observedGeneration = cns.status.observedGeneration := by
  cases ending with
  | stopped interrupted =>
    obtain ⟨c, stored, -, same | ⟨-, ⟨message, lost⟩, -⟩⟩ :=
      interrupted.stored (keptByRuns_true _) found
    · exact ⟨c, stored, by rw [same]⟩
    · exact absurd lost (answered message)
  | erroredWritten err interrupted =>
    obtain ⟨c, stored, status, -⟩ := interrupted.stored_errored (keptByRuns_true _) found _ err
    exact ⟨c, stored, by rw [status]; rfl⟩

/-- A stopped run that leaves the object's consumer on the server, where it was not
before, stopped inside the create arm. -/
theorem Interrupted.createGuard (interrupted : Interrupted streamFinalizerKey env key cns cluster after)
    (fresh : cns.spec.consumerName ∉ cluster.server) (made : cns.spec.consumerName ∈ after.server) :
    CreateGuard cns cluster := by
  cases interrupted with
  | beforeWrites => exact absurd made fresh
  | afterNewConsumer guard _ | afterFinalizer guard _ _ | afterStatus guard _ _ _ => exact guard
  | afterDelete _ | afterClear _ => simp at made

/-- **Every run keeps what its writes keep.** Object by object, the store before and
after a run holds the same keys, and a property of one object that `KeptByRuns`
writes keep holds after the run wherever it held before. -/
theorem Ending.keeps (kept : KeptByRuns streamFinalizerKey P)
    (found : cluster.consumers key = some cns) {ok : Bool}
    (ending : Ending streamFinalizerKey env key cns cluster ok after) (k : ObjectKey) :
    Option.Rel (fun before after => P before → P after) (cluster.consumers k) (after.consumers k) := by
  by_cases same : k = key
  · subst same
    obtain ⟨c, stored, link⟩ := ending.stored kept found
    rw [found, stored]
    exact .some link
  · rw [ending.others same]
    cases cluster.consumers k with
    | none => exact .none
    | some _ => exact .some id

/-- The forward reading of `Ending.keeps`: an object that held `P` is still stored after
the run, and still holds it. -/
theorem Ending.keeps_stored (kept : KeptByRuns streamFinalizerKey P)
    (found : cluster.consumers key = some cns) {ok : Bool}
    (ending : Ending streamFinalizerKey env key cns cluster ok after) {k : ObjectKey} {c : Consumer}
    (before : cluster.consumers k = some c) (holds : P c) :
    ∃ c', after.consumers k = some c' ∧ P c' := by
  have related := ending.keeps kept found k
  rw [before] at related
  generalize after.consumers k = later at related ⊢
  cases related with
  | some link => exact ⟨_, rfl, link holds⟩

/-- A run writes only finalizers and status. -/
theorem Ending.declared (found : cluster.consumers key = some cns) {ok : Bool}
    (ending : Ending streamFinalizerKey env key cns cluster ok after) (k : ObjectKey) :
    (after.consumers k).map Consumer.declared = (cluster.consumers k).map Consumer.declared := by
  cases before : cluster.consumers k with
  | none =>
    have rel := ending.keeps (keptByRuns_true _) found k
    rw [before] at rel
    generalize after.consumers k = stored at rel ⊢
    cases rel
    rfl
  | some c =>
    have kept : KeptByRuns streamFinalizerKey fun o => o.declared = c.declared :=
      ⟨fun _ => id, fun _ _ => id, fun _ _ => id, fun _ _ _ => id⟩
    obtain ⟨c', stored, same⟩ := ending.keeps_stored kept found before rfl
    simp [stored, same]

/-! ## The server -/

/-- Only the reconciled object's consumer can appear on the server during a run. -/
theorem Ending.mem_server {ok : Bool} (ending : Ending streamFinalizerKey env key cns cluster ok after)
    {name : ConsumerName} (member : name ∈ after.server) :
    name ∈ cluster.server ∨ name = cns.spec.consumerName := by
  have interruptedCase : ∀ {after}, Interrupted streamFinalizerKey env key cns cluster after →
      name ∈ after.server → name ∈ cluster.server ∨ name = cns.spec.consumerName := by
    intro after interrupted member
    cases interrupted <;> simp_all [or_comm]
  cases ending with
  | completed completed => cases completed <;> simp_all [or_comm]
  | stopped interrupted => exact interruptedCase interrupted member
  | erroredWritten _ interrupted => exact interruptedCase interrupted member

/-- Only the reconciled object's consumer can disappear from the server during a run. -/
theorem Ending.mem_server_of_ne {ok : Bool}
    (ending : Ending streamFinalizerKey env key cns cluster ok after) {name : ConsumerName}
    (member : name ∈ cluster.server) (different : name ≠ cns.spec.consumerName) :
    name ∈ after.server := by
  have interruptedCase : ∀ {after}, Interrupted streamFinalizerKey env key cns cluster after →
      name ∈ after.server := by
    intro after interrupted
    cases interrupted <;> simp [member, different]
  cases ending with
  | completed completed => cases completed <;> simp [member, different]
  | stopped interrupted => exact interruptedCase interrupted
  | erroredWritten _ interrupted => simpa using interruptedCase interrupted

end Effects

end Nack.Controllers.JetStream
