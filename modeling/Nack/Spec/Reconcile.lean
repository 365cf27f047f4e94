import Nack.Controllers.JetStream.ConsumerRuns

/-!
Contract: the reconciliation engine as the spec states it (section 4.2, steps 5 and 6),
and the theorem that `processConsumer` refines it where no call fails.

Owns: `Decision`, the action the spec's algorithm chooses; `classify`, its fixed
precedence over the three booleans `exists`, `deleting` and `changed`; `Decision.effect`,
what each action leaves in the cluster; `processConsumer_refines_classify`.

Does not own: the calls and events of each arm, and runs in which a call fails
(`Nack.Controllers.JetStream`).
-/

namespace Nack.Spec

open Nack.Apis Nack.Controllers.JetStream

/-- The action the spec's algorithm chooses for an object. -/
inductive Decision where
  | create
  | update
  | delete
  | noop
deriving DecidableEq, Repr

/-- Section 4.2, step 5: create wins over update, which wins over delete, which wins over
the no-op; a deleting object is deleted whether or not its generation changed. -/
def classify (present deleting changed : Bool) : Decision :=
  if !present && !deleting && changed then .create
  else if present && !deleting && changed then .update
  else if deleting then .delete
  else .noop

/-- Section 4.2, step 6: what each action leaves in the cluster. A create adds the
consumer, then the finalizer token, then a status observing the generation with a
`Ready` condition `Created`; a delete removes the consumer and clears the token, with no
status write; the consumer kind refuses updates, so an update, like the no-op, writes
nothing. -/
def Decision.effect (streamFinalizerKey now : String) (key : ObjectKey) (cns : Consumer)
    (cluster : Cluster) : Decision → Cluster
  | .create =>
      ((cluster.addConsumer cns.spec.consumerName).writeFinalizers key
        (addFinalizer cns.finalizers streamFinalizerKey)).writeStatus key
          ⟨cns.generation, upsertCondition cns.status.conditions (createdCondition now)⟩
  | .delete =>
      (cluster.removeConsumer cns.spec.consumerName).writeFinalizers key
        (removeFinalizer cns.finalizers streamFinalizerKey)
  | .update | .noop => cluster

/-- **`processConsumer` refines the spec's engine.** Where no call fails, a run on a
stored object returns `nil` and leaves the cluster as the action the spec classifies
the object under prescribes. -/
theorem processConsumer_refines_classify (streamFinalizerKey : String) (env : Env)
    (key : ObjectKey) {cluster : Cluster} {cns : Consumer}
    (found : cluster.consumers key = some cns) (reliable : env.Reliable) :
    (processConsumer streamFinalizerKey env key cluster).outcome = .ok ∧
      (processConsumer streamFinalizerKey env key cluster).cluster =
        (classify (decide (cns.spec.consumerName ∈ cluster.server)) cns.deletionTimestamp.isSome
          (cns.generation != cns.status.observedGeneration)).effect streamFinalizerKey
            (env.clock .setConsumerOK) key cns cluster := by
  have ok := processConsumer_ok_of_reliable streamFinalizerKey env key cluster reliable
  refine ⟨ok, ?_⟩
  have completed := processConsumer_ok streamFinalizerKey env key found ok
  generalize (processConsumer streamFinalizerKey env key cluster).cluster = after at completed ⊢
  cases completed with
  | idle unguarded live =>
    by_cases same : cns.generation = cns.status.observedGeneration
    · simp [classify, Decision.effect, live, same]
    · have present : cns.spec.consumerName ∈ cluster.server :=
        Decidable.by_contra fun absent => unguarded ⟨live, same, absent⟩
      simp [classify, Decision.effect, live, same, present]
  | created guard =>
    obtain ⟨live, changed, absent⟩ := guard
    simp [classify, Decision.effect, live, changed, absent, okStatus]
  | deleted deleting => simp [classify, Decision.effect, deleting]

theorem create_run_refines_classify :
    let cluster : Cluster := ⟨fun k => if k = ⟨"default", "my-consumer"⟩ then
      some ⟨1, none, [], ⟨"", "my-consumer", [], none⟩, ⟨0, []⟩⟩ else none, []⟩
    (processConsumer "streamfinalizer.jetstream.nats.io" (.allOk "t1") ⟨"default", "my-consumer"⟩
        cluster).outcome = .ok ∧
      (processConsumer "streamfinalizer.jetstream.nats.io" (.allOk "t1") ⟨"default", "my-consumer"⟩
        cluster).cluster =
        Decision.create.effect "streamfinalizer.jetstream.nats.io" "t1" ⟨"default", "my-consumer"⟩
          ⟨1, none, [], ⟨"", "my-consumer", [], none⟩, ⟨0, []⟩⟩ cluster :=
  @processConsumer_refines_classify "streamfinalizer.jetstream.nats.io" (.allOk "t1")
    ⟨"default", "my-consumer"⟩ ⟨fun k => if k = ⟨"default", "my-consumer"⟩ then
      some ⟨1, none, [], ⟨"", "my-consumer", [], none⟩, ⟨0, []⟩⟩ else none, []⟩ _ rfl
    (Env.allOk_reliable _)

end Nack.Spec
