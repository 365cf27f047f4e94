import Nack.Lifecycle.Step

/-!
Contract: what holds of the stored objects in every reachable cluster, and what the
finalizer and `ObservedGeneration` promise about the server.

Owns: `Objects` and `KeptByMoves`, with the run lemma `Reachable.objects` for a
property of one object; `ConditionsDistinct`; `ObservedFinalized` (the observed
generation never passes the generation, and a live object whose generation is
observed carries the finalizer); `UniqueNames`, and `FreshNames`, the moves that keep
it; `ObservedHasConsumer`, the finalizer's promise, which holds where names are unique
and fails where two objects share a consumer; what a successful run on a live object
leaves on the server, and what it leaves in its `Ready` condition.

Does not own: orphaned consumers, and finalizers that block deletion
(`Nack.Lifecycle.Orphans`).
-/

namespace Nack.Lifecycle

open Nack.Apis Nack.Controllers.JetStream

/-- Every stored object satisfies `P`. -/
def Objects (P : Consumer → Prop) (s : Cluster) : Prop :=
  ∀ key c, s.consumers key = some c → P c

/-- What a property of one object must survive to hold of every object in every
reachable cluster: the writes of a run, a new manifest, an edit and a deletion
request. -/
structure KeptByMoves (streamFinalizerKey : String) (P : Consumer → Prop)
    extends KeptByRuns streamFinalizerKey P : Prop where
  manifest : ∀ spec finalizers, P (.ofManifest spec finalizers)
  edited : ∀ c spec, P c → P (c.editSpec spec)
  deletionRequested : ∀ c now, P c → P (c.requestDeletion now)

section Objects

variable {streamFinalizerKey : String} {P : Consumer → Prop}

/-- The step lemma for a property of one object. -/
theorem Move.objects (kept : KeptByMoves streamFinalizerKey P) {s t : Cluster} {a : Action}
    (move : Move streamFinalizerKey s a t) (holds : Objects P s) : Objects P t := by
  intro k c stored
  cases move with
  | apply _ =>
    simp only [Cluster.setObject_consumers] at stored
    split at stored
    · cases stored; exact kept.manifest _ _
    · exact holds k c stored
  | edit found =>
    simp only [Cluster.setObject_consumers] at stored
    split at stored
    · cases stored; exact kept.edited _ _ (holds _ _ found)
    · exact holds k c stored
  | delete found =>
    simp only [Cluster.setObject_consumers] at stored
    split at stored
    · cases stored; exact kept.deletionRequested _ _ (holds _ _ found)
    · exact holds k c stored
  | remove _ _ _ =>
    simp only [Cluster.removeObject_consumers] at stored
    split at stored
    · cases stored
    · exact holds k c stored
  | reconcileAbsent _ => exact holds k c stored
  | reconcile found ending =>
    have related := ending.keeps kept.toKeptByRuns found k
    rw [stored] at related
    generalize before : s.consumers k = earlier at related
    cases related with
    | some link => exact link (holds k _ before)

/-- **The run lemma for one object.** A property that a new manifest has and that
every move keeps holds of every object of every reachable cluster. -/
theorem Reachable.objects (kept : KeptByMoves streamFinalizerKey P)
    {allowed : Cluster → Action → Prop} {s : Cluster}
    (reachable : Reachable streamFinalizerKey allowed s) : Objects P s :=
  Steps.invariant streamFinalizerKey (fun _ move holds => move.objects kept holds) reachable
    fun _ _ absent => nomatch absent

end Objects

/-! ## Conditions -/

/-- At most one condition of each type. -/
def ConditionsDistinct (c : Consumer) : Prop :=
  (c.status.conditions.map (·.type)).Nodup

theorem conditionsDistinct_kept (streamFinalizerKey : String) :
    KeptByMoves streamFinalizerKey ConditionsDistinct where
  finalizerAdded _ distinct := distinct
  created _ _ distinct := nodup_types_upsertCondition _ distinct
  finalizerCleared _ _ distinct := distinct
  erroredWritten _ _ _ distinct := nodup_types_upsertCondition _ distinct
  manifest _ _ := List.nodup_nil
  edited _ _ distinct := by simpa [ConditionsDistinct] using distinct
  deletionRequested _ _ distinct := by simpa [ConditionsDistinct] using distinct

/-- In every reachable cluster, whatever the runs met, every object holds at most one
condition of each type: the Created and Errored writes both upsert the `Ready`
condition. -/
theorem conditions_nodup_of_reachable {streamFinalizerKey : String}
    {allowed : Cluster → Action → Prop} {s : Cluster}
    (reachable : Reachable streamFinalizerKey allowed s) {key : ObjectKey} {c : Consumer}
    (stored : s.consumers key = some c) : (c.status.conditions.map (·.type)).Nodup :=
  Reachable.objects (conditionsDistinct_kept streamFinalizerKey) reachable key c stored

theorem conditions_nodup_after_failed_run :
    ([erroredCondition "t2" "nats: no servers available for connection"].map (·.type)).Nodup :=
  @conditions_nodup_of_reachable "streamfinalizer.jetstream.nats.io" _ _
    (Steps.of_runMoves "streamfinalizer.jetstream.nats.io" (fun _ => True) .empty
      [.apply ⟨"default", "my-consumer"⟩ ⟨"orders", "my-consumer", [], none⟩ [],
        .reconcile ⟨"default", "my-consumer"⟩ (.allOk "t1"),
        .reconcile ⟨"default", "my-consumer"⟩
          (.faultAt .connect (.fail "nats: no servers available for connection") "t2")]
      (fun _ _ => trivial) rfl)
    ⟨"default", "my-consumer"⟩ ⟨1, none, ["streamfinalizer.jetstream.nats.io"],
      ⟨"orders", "my-consumer", [], none⟩,
      ⟨1, [erroredCondition "t2" "nats: no servers available for connection"]⟩⟩ rfl

/-! ## Observed generations -/

/-- The observed generation never passes the generation, and a live object whose
generation is observed carries the finalizer. -/
def ObservedFinalized (streamFinalizerKey : String) (c : Consumer) : Prop :=
  c.status.observedGeneration ≤ c.generation ∧
    (c.deletionTimestamp = none → c.status.observedGeneration = c.generation →
      streamFinalizerKey ∈ c.finalizers)

theorem observedFinalized_kept (streamFinalizerKey : String) :
    KeptByMoves streamFinalizerKey (ObservedFinalized streamFinalizerKey) where
  finalizerAdded _ held := ⟨held.1, fun _ _ => by simp⟩
  created _ _ _ := ⟨le_refl _, fun _ _ => by simp⟩
  finalizerCleared c deleting held :=
    ⟨held.1, fun live => absurd deleting (by simp [show c.deletionTimestamp = none from live])⟩
  erroredWritten _ _ _ held := held
  manifest _ _ := ⟨Nat.zero_le _, fun _ observed => absurd observed Nat.zero_ne_one⟩
  edited c spec held := by
    by_cases same : spec = c.spec
    · simpa [ObservedFinalized, same] using held
    · have behind := held.1
      exact ⟨by simp [same]; omega, fun _ observed => by simp [same] at observed; omega⟩
  deletionRequested _ _ held := ⟨by simpa using held.1, fun live => by simp at live⟩

/-- In every reachable cluster, an object's `ObservedGeneration` never passes its
`Generation`, and a live object whose generation is observed carries the finalizer. -/
theorem observed_finalized_of_reachable {streamFinalizerKey : String}
    {allowed : Cluster → Action → Prop} {s : Cluster}
    (reachable : Reachable streamFinalizerKey allowed s) {key : ObjectKey} {c : Consumer}
    (stored : s.consumers key = some c) :
    c.status.observedGeneration ≤ c.generation ∧
      (c.deletionTimestamp = none → c.status.observedGeneration = c.generation →
        streamFinalizerKey ∈ c.finalizers) :=
  Reachable.objects (observedFinalized_kept streamFinalizerKey) reachable key c stored

theorem observed_finalized_after_failed_run :
    let c : Consumer := ⟨1, none, ["streamfinalizer.jetstream.nats.io"],
      ⟨"orders", "my-consumer", [], none⟩,
      ⟨1, [erroredCondition "t2" "nats: no servers available for connection"]⟩⟩
    c.status.observedGeneration ≤ c.generation ∧
      (c.deletionTimestamp = none → c.status.observedGeneration = c.generation →
        "streamfinalizer.jetstream.nats.io" ∈ c.finalizers) :=
  @observed_finalized_of_reachable "streamfinalizer.jetstream.nats.io" _ _
    (Steps.of_runMoves "streamfinalizer.jetstream.nats.io" (fun _ => True) .empty
      [.apply ⟨"default", "my-consumer"⟩ ⟨"orders", "my-consumer", [], none⟩ [],
        .reconcile ⟨"default", "my-consumer"⟩ (.allOk "t1"),
        .reconcile ⟨"default", "my-consumer"⟩
          (.faultAt .connect (.fail "nats: no servers available for connection") "t2")]
      (fun _ _ => trivial) rfl)
    ⟨"default", "my-consumer"⟩ ⟨1, none, ["streamfinalizer.jetstream.nats.io"],
      ⟨"orders", "my-consumer", [], none⟩,
      ⟨1, [erroredCondition "t2" "nats: no servers available for connection"]⟩⟩ rfl

/-! ## Unique names -/

/-- No two stored objects name the same consumer. -/
def UniqueNames (s : Cluster) : Prop :=
  ∀ k k' c c', s.consumers k = some c → s.consumers k' = some c' →
    c.spec.consumerName = c'.spec.consumerName → k = k'

/-- The moves that give an object only a name no other stored object has. -/
def FreshNames (s : Cluster) : Action → Prop
  | .apply _ spec _ => ∀ k c, s.consumers k = some c → c.spec.consumerName ≠ spec.consumerName
  | .edit key spec => ∀ k c, k ≠ key → s.consumers k = some c →
      c.spec.consumerName ≠ spec.consumerName
  | _ => True

section Names

variable {s t : Cluster}

theorem UniqueNames.of_names (unique : UniqueNames s)
    (names : ∀ k c, t.consumers k = some c →
      ∃ c₀, s.consumers k = some c₀ ∧ c₀.spec.consumerName = c.spec.consumerName) :
    UniqueNames t := by
  intro k k' c c' stored stored' shared
  obtain ⟨c₀, before, same⟩ := names k c stored
  obtain ⟨c₀', before', same'⟩ := names k' c' stored'
  exact unique k k' c₀ c₀' before before' (by rw [same, same', shared])

theorem UniqueNames.setObject (unique : UniqueNames s) {key : ObjectKey} {c : Consumer}
    (fresh : ∀ k o, k ≠ key → s.consumers k = some o → o.spec.consumerName ≠ c.spec.consumerName) :
    UniqueNames (s.setObject key c) := by
  intro k k' o o' stored stored' shared
  simp only [Cluster.setObject_consumers] at stored stored'
  split at stored <;> split at stored'
  · simp_all
  · next same other => cases stored; exact absurd shared.symm (fresh k' o' other stored')
  · next other same => cases stored'; exact absurd shared (fresh k o other stored)
  · exact unique k k' o o' stored stored' shared

/-- A run keeps every object's name. -/
theorem Ending.names {streamFinalizerKey : String} {env : Env} {key : ObjectKey} {cns : Consumer}
    {ok : Bool} (found : s.consumers key = some cns)
    (ending : Ending streamFinalizerKey env key cns s ok t) (k : ObjectKey) (c : Consumer)
    (stored : t.consumers k = some c) :
    ∃ c₀, s.consumers k = some c₀ ∧ c₀.spec.consumerName = c.spec.consumerName := by
  have declared := ending.declared found k
  rw [stored] at declared
  cases before : s.consumers k with
  | none => simp [before] at declared
  | some c₀ =>
    simp only [before, Option.map_some', Option.some.injEq, Consumer.declared, Prod.mk.injEq]
      at declared
    exact ⟨c₀, rfl, by rw [declared.2.2]⟩

theorem Move.uniqueNames {streamFinalizerKey : String} {a : Action}
    (move : Move streamFinalizerKey s a t) (fresh : FreshNames s a) (unique : UniqueNames s) :
    UniqueNames t := by
  cases move with
  | apply _ => exact unique.setObject fun k o _ stored => fresh k o stored
  | edit _ => exact unique.setObject fun k o other stored => by simpa using fresh k o other stored
  | delete found =>
    refine unique.setObject fun k o other stored => ?_
    simpa using fun shared => other (unique k _ o _ stored found shared)
  | remove _ _ _ =>
    refine unique.of_names fun k c stored => ⟨c, ?_, rfl⟩
    simp only [Cluster.removeObject_consumers] at stored
    split at stored
    · cases stored
    · exact stored
  | reconcileAbsent _ => exact unique
  | reconcile found ending => exact unique.of_names (Ending.names found ending)

end Names

/-! ## What the finalizer promises -/

/-- **The finalizer's promise.** A live object that carries the finalizer and whose
generation is observed has its consumer on the server. -/
def ObservedHasConsumer (streamFinalizerKey : String) (s : Cluster) : Prop :=
  ∀ key c, s.consumers key = some c → c.deletionTimestamp = none →
    streamFinalizerKey ∈ c.finalizers → c.status.observedGeneration = c.generation →
    c.spec.consumerName ∈ s.server

section Promise

variable {streamFinalizerKey : String} {env : Env} {key : ObjectKey} {cns : Consumer}
  {s after : Cluster}

/-- A status write that observes the generation only where it was observed keeps the
promise. -/
theorem ObservedHasConsumer.writeStatus (holds : ObservedHasConsumer streamFinalizerKey s)
    {c : Consumer} (found : s.consumers key = some c) {status : Status}
    (keeps : status.observedGeneration = c.generation →
      c.status.observedGeneration = c.generation) :
    ObservedHasConsumer streamFinalizerKey (s.writeStatus key status) := by
  intro k o stored live finalized observed
  by_cases same : k = key
  · subst same
    simp only [Cluster.writeStatus_self, found, Option.map_some', Option.some.injEq] at stored
    subst stored
    exact holds k c found live finalized (keeps observed)
  · rw [Cluster.writeStatus_ne _ _ same] at stored
    exact holds k o stored live finalized observed

/-- Where names are unique, a run keeps the promise for every object but the one it
reconciles: it only removes that object's consumer. -/
theorem Ending.observedHasConsumer_others (found : s.consumers key = some cns)
    (unique : UniqueNames s) (holds : ObservedHasConsumer streamFinalizerKey s) {ok : Bool}
    (ending : Ending streamFinalizerKey env key cns s ok after) {k : ObjectKey} {c : Consumer}
    (different : k ≠ key) (stored : after.consumers k = some c) (live : c.deletionTimestamp = none)
    (finalized : streamFinalizerKey ∈ c.finalizers)
    (observed : c.status.observedGeneration = c.generation) :
    c.spec.consumerName ∈ after.server := by
  rw [ending.others different] at stored
  exact ending.mem_server_of_ne (holds k c stored live finalized observed)
    fun shared => different (unique k key c cns stored found shared)

/-- A completed run keeps the promise: the create arm puts the consumer on the server
before it observes the generation. -/
theorem Completed.observedHasConsumer (found : s.consumers key = some cns)
    (unique : UniqueNames s) (holds : ObservedHasConsumer streamFinalizerKey s)
    (completed : Completed streamFinalizerKey env key cns s after) :
    ObservedHasConsumer streamFinalizerKey after := by
  intro k c stored live finalized observed
  by_cases same : k = key
  · subst same
    cases completed with
    | idle _ _ => exact holds k c stored live finalized observed
    | created _ =>
      simp only [Cluster.writeStatus_self, Cluster.writeFinalizers_self,
        Cluster.addConsumer_consumers, found, Option.map_some', Option.some.injEq] at stored
      subst stored
      simp
    | deleted deleting =>
      simp only [Cluster.writeFinalizers_self, Cluster.removeConsumer_consumers, found,
        Option.map_some', Option.some.injEq] at stored
      subst stored
      exact absurd deleting (by simp [show cns.deletionTimestamp = none from live])
  · exact Ending.observedHasConsumer_others found unique holds (.completed completed) same stored
      live finalized observed

/-- An interrupted run keeps the promise: one that stops after the finalizer write has
not observed the generation, unless it made all the create arm's writes. -/
theorem Interrupted.observedHasConsumer (found : s.consumers key = some cns)
    (unique : UniqueNames s) (holds : ObservedHasConsumer streamFinalizerKey s)
    (interrupted : Interrupted streamFinalizerKey env key cns s after) :
    ObservedHasConsumer streamFinalizerKey after := by
  intro k c stored live finalized observed
  by_cases same : k = key
  · subst same
    cases interrupted with
    | beforeWrites => exact holds k c stored live finalized observed
    | afterNewConsumer _ _ => simp [holds k c stored live finalized observed]
    | afterFinalizer guard =>
      simp only [Cluster.writeFinalizers_self, Cluster.addConsumer_consumers, found,
        Option.map_some', Option.some.injEq] at stored
      subst stored
      exact absurd observed.symm guard.2.1
    | afterDelete deleting =>
      simp only [Cluster.removeConsumer_consumers, found, Option.some.injEq] at stored
      subst stored
      simp [live] at deleting
    | afterStatus guard created written _ =>
      exact Completed.observedHasConsumer found unique holds (.created guard created written) k c
        stored live finalized observed
    | afterClear deleting =>
      simp only [Cluster.writeFinalizers_self, Cluster.removeConsumer_consumers, found,
        Option.map_some', Option.some.injEq] at stored
      subst stored
      exact absurd deleting (by simp [show cns.deletionTimestamp = none from live])
  · exact Ending.observedHasConsumer_others found unique holds (.stopped interrupted) same stored
      live finalized observed

/-- **A run keeps the finalizer's promise** where names are unique. -/
theorem Ending.observedHasConsumer (found : s.consumers key = some cns)
    (unique : UniqueNames s) (holds : ObservedHasConsumer streamFinalizerKey s) {ok : Bool}
    (ending : Ending streamFinalizerKey env key cns s ok after) :
    ObservedHasConsumer streamFinalizerKey after := by
  cases ending with
  | completed completed => exact Completed.observedHasConsumer found unique holds completed
  | stopped interrupted => exact Interrupted.observedHasConsumer found unique holds interrupted
  | erroredWritten err interrupted =>
    obtain ⟨c, stored, -, status⟩ := interrupted.stored (keptByRuns_true _) found
    have generation : c.generation = cns.generation := by
      have declared := (Ending.stopped interrupted).declared found key
      simp only [stored, found, Option.map_some', Option.some.injEq, Consumer.declared,
        Prod.mk.injEq] at declared
      exact declared.1
    refine (Interrupted.observedHasConsumer found unique holds interrupted).writeStatus stored
      fun observed => ?_
    simp only [erroredStatus] at observed
    rcases status with same | ⟨guard, -, -⟩
    · rwa [same]
    · exact absurd (observed.trans generation) (Ne.symm guard.2.1)

end Promise

/-- What the promise rests on, along runs that keep names unique. -/
structure Promised (streamFinalizerKey : String) (s : Cluster) : Prop where
  unique : UniqueNames s
  observedFinalized : Objects (ObservedFinalized streamFinalizerKey) s
  promise : ObservedHasConsumer streamFinalizerKey s

section Promised

variable {streamFinalizerKey : String}

/-- The step lemma of the promise. An edit that keeps the spec changes nothing, and one
that changes it counts a generation the controller has not observed. -/
theorem Move.promised {s t : Cluster} {a : Action} (move : Move streamFinalizerKey s a t)
    (fresh : FreshNames s a) (holds : Promised streamFinalizerKey s) :
    Promised streamFinalizerKey t := by
  obtain ⟨unique, observedFinalized, promise⟩ := holds
  refine ⟨move.uniqueNames fresh unique,
    move.objects (observedFinalized_kept streamFinalizerKey) observedFinalized, ?_⟩
  intro k c stored live finalized observed
  cases move with
  | apply _ =>
    simp only [Cluster.setObject_consumers] at stored
    split at stored
    · cases stored; exact absurd observed Nat.zero_ne_one
    · exact promise k c stored live finalized observed
  | @edit key spec c₀ found =>
    simp only [Cluster.setObject_consumers] at stored
    split at stored
    · next same =>
      cases stored
      subst same
      have behind := (observedFinalized k c₀ found).1
      by_cases unchanged : spec = c₀.spec
      · simp only [Consumer.editSpec, unchanged, if_true] at live finalized observed ⊢
        exact promise k c₀ found live finalized observed
      · simp [unchanged] at observed; omega
    · exact promise k c stored live finalized observed
  | delete _ =>
    simp only [Cluster.setObject_consumers] at stored
    split at stored
    · cases stored; simp at live
    · exact promise k c stored live finalized observed
  | remove _ _ _ =>
    simp only [Cluster.removeObject_consumers] at stored
    split at stored
    · cases stored
    · exact promise k c stored live finalized observed
  | reconcileAbsent _ => exact promise k c stored live finalized observed
  | reconcile found ending =>
    exact Ending.observedHasConsumer found unique promise ending k c stored live finalized observed

/-- The run lemma of the promise. -/
theorem Reachable.promised {s : Cluster} (reachable : Reachable streamFinalizerKey FreshNames s) :
    Promised streamFinalizerKey s :=
  Steps.invariant streamFinalizerKey (fun fresh move holds => move.promised fresh holds) reachable
    ⟨fun _ _ _ _ absent => (nomatch absent), fun _ _ absent => (nomatch absent),
      fun _ _ absent => (nomatch absent)⟩

/-- **The finalizer's promise, where no two objects share a consumer.** Along every run
whose creations and edits keep names unique, whatever the runs of `processConsumer`
met, a live object that carries the finalizer and whose generation is observed has its
consumer on the server. -/
theorem finalizer_promise_of_unique_names {s : Cluster}
    (reachable : Reachable streamFinalizerKey FreshNames s) (key : ObjectKey) {c : Consumer}
    (stored : s.consumers key = some c) (live : c.deletionTimestamp = none)
    (finalized : streamFinalizerKey ∈ c.finalizers)
    (observed : c.status.observedGeneration = c.generation) :
    c.spec.consumerName ∈ s.server :=
  reachable.promised.promise key c stored live finalized observed

theorem finalizer_promise_after_create :
    (⟨"orders", "my-consumer"⟩ : ConsumerName) ∈
      (processConsumer "streamfinalizer.jetstream.nats.io" (.allOk "t1") ⟨"default", "my-consumer"⟩
        (Cluster.empty.setObject ⟨"default", "my-consumer"⟩
          (.ofManifest ⟨"orders", "my-consumer", ["nats://nats:4222"], none⟩ []))).cluster.server :=
  finalizer_promise_of_unique_names
    (((Steps.refl : Steps "streamfinalizer.jetstream.nats.io" FreshNames .empty .empty).tail
      (.apply ⟨"default", "my-consumer"⟩
        ⟨"orders", "my-consumer", ["nats://nats:4222"], none⟩ [])
      (fun _ _ absent => nomatch absent) rfl).tail
      (.reconcile ⟨"default", "my-consumer"⟩ (.allOk "t1")) trivial rfl)
    ⟨"default", "my-consumer"⟩ rfl rfl (by decide) rfl

/-- Where two objects name one consumer, deleting the one that never created it removes
the consumer the other relies on. -/
theorem shared_consumer_counterexample :
    ¬ ∀ s, Reachable "streamfinalizer.jetstream.nats.io" anyMove s →
      ObservedHasConsumer "streamfinalizer.jetstream.nats.io" s := by
  intro promise
  have trace := Steps.of_runMoves "streamfinalizer.jetstream.nats.io" (fun _ => True) .empty
    [.apply ⟨"default", "a"⟩ ⟨"orders", "shared", [], none⟩ [],
      .reconcile ⟨"default", "a"⟩ (.allOk "t1"),
      .apply ⟨"default", "b"⟩ ⟨"orders", "shared", [], none⟩ [],
      .reconcile ⟨"default", "b"⟩ (.allOk "t2"),
      .delete ⟨"default", "b"⟩ 3,
      .reconcile ⟨"default", "b"⟩ (.allOk "t4")] (fun _ _ => trivial) rfl
  exact absurd (promise _ trace ⟨"default", "a"⟩ _ rfl rfl (by decide) rfl) (by decide)

/-! ## What a successful run leaves -/

/-- The status of the object's `Ready` condition, if it has one. -/
def readyStatus (c : Consumer) : Option ConditionStatus :=
  (c.status.conditions.find? (·.type == readyCondType)).map (·.status)

/-- **A successful run leaves a live object's consumer on the server**, where names
are unique: the create arm makes it, and the arms that write nothing run only where it
is there already or the generation is observed, which the finalizer's promise covers. -/
theorem consumer_present_after_live_success {s : Cluster}
    (reachable : Reachable streamFinalizerKey FreshNames s) (key : ObjectKey) (env : Env)
    {cns : Consumer} (found : s.consumers key = some cns) (live : cns.deletionTimestamp = none)
    (ok : (processConsumer streamFinalizerKey env key s).outcome = .ok) :
    cns.spec.consumerName ∈ (processConsumer streamFinalizerKey env key s).cluster.server := by
  have promised := reachable.promised
  have completed := processConsumer_ok streamFinalizerKey env key found ok
  generalize (processConsumer streamFinalizerKey env key s).cluster = after at completed ⊢
  cases completed with
  | idle unguarded _ =>
    by_contra absent
    have observed : cns.status.observedGeneration = cns.generation :=
      Decidable.by_contra fun unobserved => unguarded ⟨live, Ne.symm unobserved, absent⟩
    exact absent (promised.promise key cns found live
      ((promised.observedFinalized key cns found).2 live observed) observed)
  | created _ => simp
  | deleted deleting => simp [live] at deleting

theorem consumer_present_after_recovery :
    (⟨"orders", "my-consumer"⟩ : ConsumerName) ∈
      (processConsumer "streamfinalizer.jetstream.nats.io" (.allOk "t3") ⟨"default", "my-consumer"⟩
        (processConsumer "streamfinalizer.jetstream.nats.io"
          (.faultAt .connect (.fail "nats: no servers available for connection") "t2")
          ⟨"default", "my-consumer"⟩
          (processConsumer "streamfinalizer.jetstream.nats.io" (.allOk "t1")
            ⟨"default", "my-consumer"⟩
            (Cluster.empty.setObject ⟨"default", "my-consumer"⟩
              (.ofManifest ⟨"orders", "my-consumer", [], none⟩ []))).cluster).cluster).cluster.server :=
  consumer_present_after_live_success
    ((((Steps.refl : Steps "streamfinalizer.jetstream.nats.io" FreshNames .empty .empty).tail
      (.apply ⟨"default", "my-consumer"⟩ ⟨"orders", "my-consumer", [], none⟩ [])
      (fun _ _ absent => nomatch absent) rfl).tail
      (.reconcile ⟨"default", "my-consumer"⟩ (.allOk "t1")) trivial rfl).tail
      (.reconcile ⟨"default", "my-consumer"⟩
        (.faultAt .connect (.fail "nats: no servers available for connection") "t2")) trivial rfl)
    ⟨"default", "my-consumer"⟩ (.allOk "t3") rfl rfl (by decide)

/-- A run that fails after a create writes the Errored condition; the next runs take
the no-op arm, which writes no status, so the `Ready` condition stays False while the
consumer is on the server. -/
theorem stale_errored_condition_counterexample :
    ¬ ∀ (s : Cluster) (key : ObjectKey) (env : Env) (cns : Consumer),
      Reachable "streamfinalizer.jetstream.nats.io" anyMove s → s.consumers key = some cns →
      cns.deletionTimestamp = none →
      (processConsumer "streamfinalizer.jetstream.nats.io" env key s).outcome = .ok →
      ∀ c, (processConsumer "streamfinalizer.jetstream.nats.io" env key s).cluster.consumers key =
          some c →
        (readyStatus c = some .conditionTrue ↔
          c.spec.consumerName ∈ (processConsumer "streamfinalizer.jetstream.nats.io" env key s).cluster.server) := by
  intro truthful
  have trace := Steps.of_runMoves "streamfinalizer.jetstream.nats.io" (fun _ => True) .empty
    [.apply ⟨"default", "my-consumer"⟩ ⟨"orders", "my-consumer", [], none⟩ [],
      .reconcile ⟨"default", "my-consumer"⟩ (.allOk "t1"),
      .reconcile ⟨"default", "my-consumer"⟩
        (.faultAt .connect (.fail "nats: no servers available for connection") "t2")]
    (fun _ _ => trivial) rfl
  have iff := truthful _ ⟨"default", "my-consumer"⟩ (.allOk "t3") _ trace rfl rfl (by decide) _ rfl
  exact absurd (iff.mpr (by decide)) (by decide)

end Promised

end Nack.Lifecycle
