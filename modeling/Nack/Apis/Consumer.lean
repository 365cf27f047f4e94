import Mathlib.Data.List.Basic

/-!
Contract: the `jetstream/v1` Consumer object, as the consumer controller reads and
writes it.

Owns: `Condition`, `Status`, `ConsumerSpec` and `Consumer`, cut down to the fields
that `processConsumer` and its helpers read or write, and `ConsumerName`, the pair
`(StreamName, DurableName)` that names a consumer on the JetStream server.

Does not own: the other `ConsumerSpec` fields (delivery, ack and replay policies and
the rest), which the controller never reads; the object's namespace and name, which
are the key it is stored under; the resource version.
-/

namespace Nack.Apis

/-- `k8sapi.ConditionStatus`. -/
inductive ConditionStatus where
  | conditionTrue
  | conditionFalse
  | conditionUnknown
deriving DecidableEq, Repr

/-- `apis.Condition`. -/
structure Condition where
  type : String
  status : ConditionStatus
  lastTransitionTime : String
  reason : String
  message : String
deriving DecidableEq, Repr

/-- `apis.Status`: the part of the object only the controller writes. -/
structure Status where
  observedGeneration : Nat
  conditions : List Condition
deriving DecidableEq, Repr

/-- `apis.CredentialsSecret`: the secret holding the NATS credentials. -/
structure CredentialsSecret where
  name : String
  key : String
deriving DecidableEq, Repr

/-- The fields of `apis.ConsumerSpec` that the controller reads. -/
structure ConsumerSpec where
  streamName : String
  durableName : String
  servers : List String
  credentialsSecret : Option CredentialsSecret
deriving DecidableEq, Repr

/-- A consumer on the JetStream server, named by its stream and durable name. -/
structure ConsumerName where
  stream : String
  durable : String
deriving DecidableEq, Repr

/-- The server-side consumer a spec names: `(spec.StreamName, spec.DurableName)`. -/
def ConsumerSpec.consumerName (spec : ConsumerSpec) : ConsumerName :=
  ⟨spec.streamName, spec.durableName⟩

@[simp] theorem ConsumerSpec.mk_consumerName (spec : ConsumerSpec) :
    (⟨spec.streamName, spec.durableName⟩ : ConsumerName) = spec.consumerName := rfl

/-- `apis.Consumer`: the metadata the controller reads or writes, spec and status.
The generation is counted by the store; the deletion timestamp is in seconds. -/
structure Consumer where
  generation : Nat
  deletionTimestamp : Option Nat
  finalizers : List String
  spec : ConsumerSpec
  status : Status
deriving DecidableEq, Repr

end Nack.Apis
