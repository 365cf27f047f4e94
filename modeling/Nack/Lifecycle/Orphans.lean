import Nack.Lifecycle.Invariants

/-!
Contract: consumers on the server that no object accounts for, and finalizers that keep
an object in the store.

Owns: `Orphaned`, a consumer on the server that no stored object names: an orphan stays
one along every run that gives no object its name, so the consumer of an object renamed
after its create stays orphaned (`renamed_consumer_stays_orphaned`), and so does the
consumer of an object deleted before it carried the finalizer; `NoOrphans`, every
consumer on the server named by an object that carries the finalizer, and `KeepsNames`,
the runs along which it holds: every edit keeps the object's name and every finalizer
write after a create goes through; `consumerFinalizerKey`, which no run removes, so an
object that carries it stays in the store; and an object whose only finalizer is the
controller's, which one failure-free run lets the store remove.

Does not own: the finalizer's promise for live objects (`Nack.Lifecycle.Invariants`).
-/

namespace Nack.Lifecycle

open Nack.Apis Nack.Controllers.JetStream

/-- A consumer on the server that no stored object names. -/
def Orphaned (name : ConsumerName) (s : Cluster) : Prop :=
  name ∈ s.server ∧ ∀ key c, s.consumers key = some c → c.spec.consumerName ≠ name

section Orphans

variable {streamFinalizerKey : String} {name : ConsumerName}

/-- The step lemma of an orphan: only a move that gives an object its name adopts it, and
a run deletes only the consumer its object names. -/
theorem Move.orphaned {s t : Cluster} {a : Action} (move : Move streamFinalizerKey s a t)
    (unnamed : a.givesName ≠ some name) (orphaned : Orphaned name s) : Orphaned name t := by
  obtain ⟨onServer, unclaimed⟩ := orphaned
  cases move with
  | apply _ =>
    refine ⟨onServer, fun k c stored => ?_⟩
    simp only [Cluster.setObject_consumers] at stored
    split at stored
    · cases stored; simpa [Action.givesName, Consumer.ofManifest] using unnamed
    · exact unclaimed k c stored
  | edit _ =>
    refine ⟨onServer, fun k c stored => ?_⟩
    simp only [Cluster.setObject_consumers] at stored
    split at stored
    · cases stored; simpa [Action.givesName] using unnamed
    · exact unclaimed k c stored
  | delete found =>
    refine ⟨onServer, fun k c stored => ?_⟩
    simp only [Cluster.setObject_consumers] at stored
    split at stored
    · cases stored; simpa using unclaimed _ _ found
    · exact unclaimed k c stored
  | remove _ _ _ =>
    refine ⟨onServer, fun k c stored => ?_⟩
    simp only [Cluster.removeObject_consumers] at stored
    split at stored
    · cases stored
    · exact unclaimed k c stored
  | reconcileAbsent _ => exact ⟨onServer, unclaimed⟩
  | reconcile found ending =>
    refine ⟨ending.mem_server_of_ne onServer (unclaimed _ _ found).symm, fun k c stored => ?_⟩
    obtain ⟨c₀, before, same⟩ := Ending.names found ending k c stored
    exact same ▸ unclaimed k c₀ before

end Orphans

/-- **A rename orphans the consumer.** Let an object's consumer be on the server, named
by no other object, and let a user give the object another name. The controller then
creates and deletes only consumers of the new name: along every later run that gives no
object the old name back, the old consumer stays on the server and no stored object
names it, so no finalizer guards it. -/
theorem renamed_consumer_stays_orphaned (streamFinalizerKey : String) (s : Cluster) (key : ObjectKey)
    {c : Consumer} (found : s.consumers key = some c) (onServer : c.spec.consumerName ∈ s.server)
    (alone : ∀ k o, k ≠ key → s.consumers k = some o → o.spec.consumerName ≠ c.spec.consumerName)
    (spec : ConsumerSpec) (renamed : spec.consumerName ≠ c.spec.consumerName) {edited t : Cluster}
    (edit : step streamFinalizerKey s (.edit key spec) = some edited)
    (later : Steps streamFinalizerKey (fun _ a => a.givesName ≠ some c.spec.consumerName) edited t) :
    Orphaned c.spec.consumerName t := by
  refine Steps.invariant streamFinalizerKey
    (fun unnamed move orphaned => move.orphaned unnamed orphaned) later ?_
  simp only [step, found, Option.map_some', Option.some.injEq] at edit
  subst edit
  refine ⟨onServer, fun k o stored => ?_⟩
  simp only [Cluster.setObject_consumers] at stored
  split at stored
  · cases stored; simpa using renamed
  · next other => exact alone k o other stored

theorem rename_orphans_created_consumer :
    Orphaned ⟨"orders", "my-consumer"⟩
      ((runMoves "streamfinalizer.jetstream.nats.io"
        (processConsumer "streamfinalizer.jetstream.nats.io" (.allOk "t1") ⟨"default", "my-consumer"⟩
          (Cluster.empty.setObject ⟨"default", "my-consumer"⟩
            (.ofManifest ⟨"orders", "my-consumer", [], none⟩ []))).cluster
        [.edit ⟨"default", "my-consumer"⟩ ⟨"orders", "my-consumer-v2", [], none⟩,
          .reconcile ⟨"default", "my-consumer"⟩ (.allOk "t2"),
          .delete ⟨"default", "my-consumer"⟩ 3,
          .reconcile ⟨"default", "my-consumer"⟩ (.allOk "t4"),
          .remove ⟨"default", "my-consumer"⟩]).getD .empty) :=
  renamed_consumer_stays_orphaned "streamfinalizer.jetstream.nats.io"
    (processConsumer "streamfinalizer.jetstream.nats.io" (.allOk "t1") ⟨"default", "my-consumer"⟩
      (Cluster.empty.setObject ⟨"default", "my-consumer"⟩
        (.ofManifest ⟨"orders", "my-consumer", [], none⟩ []))).cluster
    ⟨"default", "my-consumer"⟩ rfl (by decide)
    (fun k o other stored => by
      rw [processConsumer_consumers_of_ne _ _ _ other] at stored
      simp [other] at stored)
    ⟨"orders", "my-consumer-v2", [], none⟩ (by decide) rfl
    (Steps.of_runMoves _ _ _
      [.reconcile ⟨"default", "my-consumer"⟩ (.allOk "t2"),
        .delete ⟨"default", "my-consumer"⟩ 3,
        .reconcile ⟨"default", "my-consumer"⟩ (.allOk "t4"),
        .remove ⟨"default", "my-consumer"⟩] (by decide) rfl)

/-- Without the finalizer, deletion orphans the consumer. An object whose consumer is on
the server, named by no other object, but that carries no finalizer, does not hold its
consumer: a deletion request lets the store remove it at once, before any run. -/
theorem deletion_orphans_unfinalized (streamFinalizerKey : String) (s : Cluster)
    (key : ObjectKey) {c : Consumer} (found : s.consumers key = some c)
    (onServer : c.spec.consumerName ∈ s.server)
    (alone : ∀ k o, k ≠ key → s.consumers k = some o → o.spec.consumerName ≠ c.spec.consumerName)
    (unfinalized : c.finalizers = []) (now : Nat) :
    runMoves streamFinalizerKey s [.delete key now, .remove key] =
        some ((s.setObject key (c.requestDeletion now)).removeObject key) ∧
      Orphaned c.spec.consumerName ((s.setObject key (c.requestDeletion now)).removeObject key) := by
  refine ⟨by simp [runMoves, step, found, unfinalized], by simpa using onServer,
    fun k o stored => ?_⟩
  simp only [Cluster.removeObject_consumers, Cluster.setObject_consumers] at stored
  split at stored
  · cases stored
  · next other => exact alone k o other (by simpa [other] using stored)

/-- A run that makes the object's consumer, but whose `NewConsumer` reply is lost or
whose finalizer write does not take effect, leaves the object's finalizers as it read
them. -/
theorem Ending.finalizers_of_unwritten {streamFinalizerKey : String} {env : Env}
    {key : ObjectKey} {cns : Consumer} {s after : Cluster} (found : s.consumers key = some cns)
    {ok : Bool} (ending : Ending streamFinalizerKey env key cns s ok after)
    (fresh : cns.spec.consumerName ∉ s.server) (made : cns.spec.consumerName ∈ after.server)
    (unwritten : (∃ message, env.fault .newConsumer = .lost message) ∨
      (env.fault .setConsumerFinalizer).takesEffect = false) :
    ∃ c, after.consumers key = some c ∧ c.finalizers = cns.finalizers := by
  have excluded : env.fault .newConsumer = .ok → (env.fault .setConsumerFinalizer).takesEffect →
      False := fun created written => by
    rcases unwritten with ⟨_, lost⟩ | unwritten
    · exact Fault.noConfusion (created.symm.trans lost)
    · exact Bool.noConfusion (written.symm.trans unwritten)
  have interruptedCase : ∀ {mid}, Interrupted streamFinalizerKey env key cns s mid →
      cns.spec.consumerName ∈ mid.server →
      ∃ c, mid.consumers key = some c ∧ c.finalizers = cns.finalizers := by
    intro mid interrupted made
    cases interrupted with
    | beforeWrites => exact absurd made fresh
    | afterNewConsumer _ _ => exact ⟨cns, by simpa using found, rfl⟩
    | afterFinalizer _ created written => exact (excluded created written).elim
    | afterStatus _ created written _ => exact (excluded created (by rw [written]; rfl)).elim
    | afterDelete _ | afterClear _ => simp at made
  cases ending with
  | completed completed =>
    cases completed with
    | idle _ _ => exact absurd made fresh
    | created _ created written => exact (excluded created (by rw [written]; rfl)).elim
    | deleted _ => simp at made
  | stopped interrupted => exact interruptedCase interrupted made
  | erroredWritten err interrupted =>
    obtain ⟨c, stored, same⟩ := interruptedCase interrupted (by simpa using made)
    exact ⟨{ c with status := erroredStatus (env.clock .setConsumerErrored) err cns },
      by simp [stored], same⟩

/-- **A create that leaves no finalizer orphans its consumer on deletion.** Let a run on
an object that carries no finalizer, and whose name no other object has, make the
object's consumer, with the reply of `NewConsumer` lost or a finalizer write that does
not take effect. The object is left without the finalizer, so a deletion request lets
the store remove it before any run, and the consumer is orphaned. -/
theorem create_without_finalizer_orphaned_by_deletion (streamFinalizerKey : String)
    (s : Cluster) (key : ObjectKey) {c : Consumer} (found : s.consumers key = some c)
    (unfinalized : c.finalizers = [])
    (alone : ∀ k o, k ≠ key → s.consumers k = some o → o.spec.consumerName ≠ c.spec.consumerName)
    (fresh : c.spec.consumerName ∉ s.server) (env : Env)
    (made : c.spec.consumerName ∈ (processConsumer streamFinalizerKey env key s).cluster.server)
    (unwritten : (∃ message, env.fault .newConsumer = .lost message) ∨
      (env.fault .setConsumerFinalizer).takesEffect = false)
    (now : Nat) :
    ∃ t, runMoves streamFinalizerKey s [.reconcile key env, .delete key now, .remove key] =
      some t ∧ Orphaned c.spec.consumerName t := by
  have ending := (processConsumer_ending streamFinalizerKey env key found).1
  obtain ⟨c', stored, same⟩ := Ending.finalizers_of_unwritten found ending fresh made unwritten
  have declared := ending.declared found key
  simp only [stored, found, Option.map_some', Option.some.injEq, Consumer.declared,
    Prod.mk.injEq] at declared
  obtain ⟨moved, orphaned⟩ := deletion_orphans_unfinalized streamFinalizerKey _ key stored
    (declared.2.2 ▸ made)
    (fun k o other stored' => declared.2.2 ▸
      alone k o other (by rwa [ending.others other] at stored'))
    (same.trans unfinalized) now
  exact ⟨_, moved, declared.2.2 ▸ orphaned⟩

theorem failed_finalizer_write_orphans :
    ∃ t, runMoves "streamfinalizer.jetstream.nats.io"
        (Cluster.empty.setObject ⟨"default", "my-consumer"⟩
          (.ofManifest ⟨"orders", "my-consumer", [], none⟩ []))
        [.reconcile ⟨"default", "my-consumer"⟩
            (.faultAt .setConsumerFinalizer (.fail "conflict") "t1"),
          .delete ⟨"default", "my-consumer"⟩ 2, .remove ⟨"default", "my-consumer"⟩] = some t ∧
      Orphaned ⟨"orders", "my-consumer"⟩ t :=
  create_without_finalizer_orphaned_by_deletion "streamfinalizer.jetstream.nats.io"
    (Cluster.empty.setObject ⟨"default", "my-consumer"⟩
      (.ofManifest ⟨"orders", "my-consumer", [], none⟩ []))
    ⟨"default", "my-consumer"⟩ rfl rfl
    (fun k o other stored => by simp [other, Cluster.empty] at stored) (by decide)
    (.faultAt .setConsumerFinalizer (.fail "conflict") "t1") (by decide) (.inr rfl) 2

/-! ## No orphans where names are kept -/

/-- Every consumer on the server is named by a stored object that carries the
finalizer. -/
def NoOrphans (streamFinalizerKey : String) (s : Cluster) : Prop :=
  ∀ name ∈ s.server, ∃ key c, s.consumers key = some c ∧ streamFinalizerKey ∈ c.finalizers ∧
    c.spec.consumerName = name

/-- The runs along which no consumer is orphaned: every edit keeps the object's name, no
reply of `NewConsumer` is lost, and every finalizer write takes effect. -/
def KeepsNames (s : Cluster) : Action → Prop
  | .edit key spec => ∀ c, s.consumers key = some c → spec.consumerName = c.spec.consumerName
  | .reconcile _ env => (∀ message, env.fault .newConsumer ≠ .lost message) ∧
      (env.fault .setConsumerFinalizer).takesEffect = true
  | _ => True

section NoOrphans

variable {streamFinalizerKey : String} {env : Env} {key : ObjectKey} {cns : Consumer}
  {s after : Cluster}

/-- Status writes keep every finalizer where it was. -/
theorem NoOrphans.writeStatus (holds : NoOrphans streamFinalizerKey s) (status : Status) :
    NoOrphans streamFinalizerKey (s.writeStatus key status) := by
  intro name member
  obtain ⟨k, c, stored, finalized, named⟩ := holds name member
  by_cases same : k = key
  · subst same
    exact ⟨k, { c with status := status }, by simp [stored], finalized, named⟩
  · exact ⟨k, c, by simp [same, stored], finalized, named⟩

/-- The create arm adds the finalizer to the object whose consumer it made. -/
theorem NoOrphans.finalized (holds : NoOrphans streamFinalizerKey s)
    (found : s.consumers key = some cns) :
    NoOrphans streamFinalizerKey ((s.addConsumer cns.spec.consumerName).writeFinalizers key
      (addFinalizer cns.finalizers streamFinalizerKey)) := by
  have onKey : ((s.addConsumer cns.spec.consumerName).writeFinalizers key
      (addFinalizer cns.finalizers streamFinalizerKey)).consumers key =
      some { cns with finalizers := addFinalizer cns.finalizers streamFinalizerKey } := by
    simp [found]
  intro name member
  simp only [Cluster.writeFinalizers_server, Cluster.mem_addConsumer] at member
  rcases member with rfl | member
  · exact ⟨key, _, onKey, by simp, rfl⟩
  · obtain ⟨k, c, stored, finalized, named⟩ := holds name member
    by_cases same : k = key
    · subst same
      rw [found] at stored
      cases stored
      exact ⟨k, _, onKey, by simp, named⟩
    · exact ⟨k, c, by simp [same, stored], finalized, named⟩

/-- The delete arm removes the consumer of the object whose finalizer it may clear; the
other consumers keep the objects that name them. -/
theorem NoOrphans.of_removed (holds : NoOrphans streamFinalizerKey s)
    (found : s.consumers key = some cns)
    (server : after.server = (s.removeConsumer cns.spec.consumerName).server)
    (others : ∀ k, k ≠ key → after.consumers k = s.consumers k) :
    NoOrphans streamFinalizerKey after := by
  intro name member
  rw [server, Cluster.mem_removeConsumer] at member
  obtain ⟨k, c, stored, finalized, named⟩ := holds name member.1
  have different : k ≠ key := by
    rintro rfl
    rw [found] at stored
    cases stored
    exact member.2 named.symm
  exact ⟨k, c, (others k different).trans stored, finalized, named⟩

theorem Interrupted.noOrphans (found : s.consumers key = some cns)
    (written : (∀ message, env.fault .newConsumer ≠ .lost message) ∧
      (env.fault .setConsumerFinalizer).takesEffect = true)
    (holds : NoOrphans streamFinalizerKey s)
    (interrupted : Interrupted streamFinalizerKey env key cns s after) :
    NoOrphans streamFinalizerKey after := by
  cases interrupted with
  | beforeWrites => exact holds
  | afterNewConsumer _ faulted =>
    rcases faulted with ⟨message, lost⟩ | unwritten
    · exact absurd lost (written.1 message)
    · exact Bool.noConfusion (written.2.symm.trans unwritten)
  | afterFinalizer _ _ _ => exact holds.finalized found
  | afterStatus _ _ _ _ => exact (holds.finalized found).writeStatus _
  | afterDelete _ => exact holds.of_removed found rfl fun _ _ => rfl
  | afterClear _ => exact holds.of_removed found rfl fun _ different => by simp [different]

theorem Completed.noOrphans (found : s.consumers key = some cns)
    (holds : NoOrphans streamFinalizerKey s)
    (completed : Completed streamFinalizerKey env key cns s after) :
    NoOrphans streamFinalizerKey after := by
  cases completed with
  | idle _ _ => exact holds
  | created _ => exact (holds.finalized found).writeStatus _
  | deleted _ => exact holds.of_removed found rfl fun _ different => by simp [different]

/-- A run whose `NewConsumer` reply arrives and whose finalizer write takes effect
orphans no consumer. -/
theorem Ending.noOrphans (found : s.consumers key = some cns)
    (written : (∀ message, env.fault .newConsumer ≠ .lost message) ∧
      (env.fault .setConsumerFinalizer).takesEffect = true)
    (holds : NoOrphans streamFinalizerKey s)
    {ok : Bool} (ending : Ending streamFinalizerKey env key cns s ok after) :
    NoOrphans streamFinalizerKey after := by
  cases ending with
  | completed completed => exact Completed.noOrphans found holds completed
  | stopped interrupted => exact Interrupted.noOrphans found written holds interrupted
  | erroredWritten _ interrupted =>
    exact (Interrupted.noOrphans found written holds interrupted).writeStatus _

theorem Move.noOrphans {a : Action} (move : Move streamFinalizerKey s a after)
    (admitted : KeepsNames s a) (holds : NoOrphans streamFinalizerKey s) :
    NoOrphans streamFinalizerKey after := by
  cases move with
  | @apply key _ _ absent =>
    intro name member
    obtain ⟨k, c, stored, finalized, named⟩ := holds name member
    have different : k ≠ key := by rintro rfl; simp [absent] at stored
    exact ⟨k, c, by simp [different, stored], finalized, named⟩
  | @edit key spec c₀ found =>
    intro name member
    obtain ⟨k, c, stored, finalized, named⟩ := holds name member
    by_cases same : k = key
    · subst same
      rw [found] at stored
      cases stored
      exact ⟨k, c₀.editSpec spec, by simp, by simpa using finalized,
        by simpa [admitted c₀ found] using named⟩
    · exact ⟨k, c, by simp [same, stored], finalized, named⟩
  | @delete key now c₀ found =>
    intro name member
    obtain ⟨k, c, stored, finalized, named⟩ := holds name member
    by_cases same : k = key
    · subst same
      rw [found] at stored
      cases stored
      exact ⟨k, c₀.requestDeletion now, by simp, by simpa using finalized, by simpa using named⟩
    · exact ⟨k, c, by simp [same, stored], finalized, named⟩
  | @remove key c₀ found _ cleared =>
    intro name member
    obtain ⟨k, c, stored, finalized, named⟩ := holds name member
    have different : k ≠ key := by
      rintro rfl
      rw [found] at stored
      cases stored
      simp [cleared] at finalized
    exact ⟨k, c, by simp [different, stored], finalized, named⟩
  | reconcileAbsent _ => exact holds
  | reconcile found ending => exact Ending.noOrphans found admitted holds ending

/-- **No orphans where names are kept.** Along every run in which no edit renames an
object, no reply of `NewConsumer` is lost and every finalizer write takes effect, every
consumer on the server is named by a stored object that carries the finalizer. -/
theorem no_orphans_of_kept_names (reachable : Reachable streamFinalizerKey KeepsNames s) :
    NoOrphans streamFinalizerKey s :=
  Steps.invariant streamFinalizerKey (fun admitted move holds => move.noOrphans admitted holds)
    reachable fun _ member => by simp at member

theorem no_orphans_after_create :
    NoOrphans "streamfinalizer.jetstream.nats.io"
      (processConsumer "streamfinalizer.jetstream.nats.io" (.allOk "t1") ⟨"default", "my-consumer"⟩
        (Cluster.empty.setObject ⟨"default", "my-consumer"⟩
          (.ofManifest ⟨"orders", "my-consumer", [], none⟩ []))).cluster :=
  no_orphans_of_kept_names
    (((Steps.refl : Steps "streamfinalizer.jetstream.nats.io" KeepsNames .empty .empty).tail
      (.apply ⟨"default", "my-consumer"⟩ ⟨"orders", "my-consumer", [], none⟩ []) trivial rfl).tail
      (.reconcile ⟨"default", "my-consumer"⟩ (.allOk "t1")) ⟨fun _ => nofun, rfl⟩ rfl)

end NoOrphans

/-! ## Finalizers and removal -/

/-- **`consumerFinalizerKey` is never cleared.** The controller declares the token but
adds and clears `streamFinalizerKey`. Once an object carries `consumerFinalizerKey`, it
is in the store, carrying it, in every later state of every run: the store never
removes it. -/
theorem consumerFinalizerKey_never_cleared (streamFinalizerKey : String)
    (distinct : streamFinalizerKey ≠ consumerFinalizerKey)
    {allowed : Cluster → Action → Prop} {s t : Cluster}
    (steps : Steps streamFinalizerKey allowed s t) (key : ObjectKey) {c : Consumer}
    (found : s.consumers key = some c) (owned : consumerFinalizerKey ∈ c.finalizers) :
    ∃ c', t.consumers key = some c' ∧ consumerFinalizerKey ∈ c'.finalizers := by
  have kept : KeptByRuns streamFinalizerKey (consumerFinalizerKey ∈ ·.finalizers) :=
    ⟨fun _ held => by simp [held], fun _ _ held => by simp [held],
      fun _ _ held => by simp [held, Ne.symm distinct], fun _ _ _ held => held⟩
  refine @Steps.invariant streamFinalizerKey allowed
    (fun u => ∃ c', u.consumers key = some c' ∧ consumerFinalizerKey ∈ c'.finalizers)
    (fun _ move held => ?_) s t steps ⟨c, found, owned⟩
  obtain ⟨c, stored, owned⟩ := held
  cases move with
  | @apply k _ _ absent =>
    have different : key ≠ k := by rintro rfl; simp [stored] at absent
    exact ⟨c, by simp [different, stored], owned⟩
  | @edit k spec _ found' =>
    by_cases same : key = k
    · subst same
      rw [stored] at found'
      cases found'
      exact ⟨c.editSpec spec, by simp, by simpa using owned⟩
    · exact ⟨c, by simp [same, stored], owned⟩
  | @delete k now _ found' =>
    by_cases same : key = k
    · subst same
      rw [stored] at found'
      cases found'
      exact ⟨c.requestDeletion now, by simp, by simpa using owned⟩
    · exact ⟨c, by simp [same, stored], owned⟩
  | @remove k _ found' _ cleared =>
    have different : key ≠ k := by
      rintro rfl
      rw [stored] at found'
      cases found'
      simp [cleared] at owned
    exact ⟨c, by simp [different, stored], owned⟩
  | reconcileAbsent _ => exact ⟨c, stored, owned⟩
  | reconcile found' ending => exact ending.keeps_stored kept found' stored owned

theorem consumerFinalizerKey_kept_through_deletion :
    ∃ c', ((runMoves "streamfinalizer.jetstream.nats.io"
        (Cluster.empty.setObject ⟨"default", "my-consumer"⟩
          (.ofManifest ⟨"", "my-consumer", [], none⟩ [consumerFinalizerKey]))
        [.delete ⟨"default", "my-consumer"⟩ 1,
          .reconcile ⟨"default", "my-consumer"⟩ (.allOk "t2"),
          .reconcile ⟨"default", "my-consumer"⟩ (.allOk "t3")]).getD .empty).consumers
        ⟨"default", "my-consumer"⟩ = some c' ∧ consumerFinalizerKey ∈ c'.finalizers :=
  consumerFinalizerKey_never_cleared "streamfinalizer.jetstream.nats.io" (by decide)
    (Steps.of_runMoves _ (fun _ => True)
      (Cluster.empty.setObject ⟨"default", "my-consumer"⟩
        (.ofManifest ⟨"", "my-consumer", [], none⟩ [consumerFinalizerKey]))
      [.delete ⟨"default", "my-consumer"⟩ 1,
        .reconcile ⟨"default", "my-consumer"⟩ (.allOk "t2"),
        .reconcile ⟨"default", "my-consumer"⟩ (.allOk "t3")] (fun _ _ => trivial) rfl)
    ⟨"default", "my-consumer"⟩ rfl (by decide)

/-- **The controller's own finalizer never blocks deletion.** A deleting object whose
only finalizer is the controller's is removed by the store right after one failure-free
run: the run takes the delete arm, which deletes the consumer and clears the token, and
the store's removal then finds no finalizer. -/
theorem deletion_completes_after_reliable_run (streamFinalizerKey : String) (s : Cluster)
    (key : ObjectKey) {c : Consumer} (found : s.consumers key = some c)
    (deleting : c.deletionTimestamp.isSome)
    (onlyController : ∀ f ∈ c.finalizers, f = streamFinalizerKey) (env : Env)
    (reliable : env.Reliable) :
    ∃ t, runMoves streamFinalizerKey s [.reconcile key env, .remove key] = some t ∧
      t.consumers key = none ∧ c.spec.consumerName ∉ t.server := by
  have completed := processConsumer_ok streamFinalizerKey env key found
    (processConsumer_ok_of_reliable streamFinalizerKey env key s reliable)
  have reconciled : runMoves streamFinalizerKey s [.reconcile key env, .remove key] =
      runMoves streamFinalizerKey (processConsumer streamFinalizerKey env key s).cluster
        [.remove key] := rfl
  rw [reconciled]
  generalize (processConsumer streamFinalizerKey env key s).cluster = mid at completed
  cases completed with
  | idle _ live => simp [live] at deleting
  | created guard => simp [guard.1] at deleting
  | deleted _ =>
    have cleared : removeFinalizer c.finalizers streamFinalizerKey = [] := by
      simpa [removeFinalizer] using onlyController
    exact ⟨((s.removeConsumer c.spec.consumerName).writeFinalizers key []).removeObject key,
      by simp [runMoves, step, found, deleting, cleared], by simp, by simp⟩

theorem deletion_completes_for_test_object :
    ∃ t, runMoves "streamfinalizer.jetstream.nats.io"
        (Cluster.empty.setObject ⟨"default", "my-consumer"⟩
          { Consumer.ofManifest ⟨"", "my-consumer", [], none⟩ ["streamfinalizer.jetstream.nats.io"] with
            deletionTimestamp := some 1 })
        [.reconcile ⟨"default", "my-consumer"⟩ (.allOk "t2"), .remove ⟨"default", "my-consumer"⟩] =
        some t ∧ t.consumers ⟨"default", "my-consumer"⟩ = none ∧
      (⟨"", "my-consumer"⟩ : ConsumerName) ∉ t.server :=
  deletion_completes_after_reliable_run "streamfinalizer.jetstream.nats.io"
    (Cluster.empty.setObject ⟨"default", "my-consumer"⟩
      { Consumer.ofManifest ⟨"", "my-consumer", [], none⟩ ["streamfinalizer.jetstream.nats.io"] with
        deletionTimestamp := some 1 })
    ⟨"default", "my-consumer"⟩ rfl rfl (by decide) (.allOk "t2") (Env.allOk_reliable _)

end Nack.Lifecycle
