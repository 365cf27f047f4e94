import Nack.Controllers.JetStream.Consumer

/-!
Contract: what each call of `processConsumer` does to a run's state, one equation per
helper, by the fault its call site meets.

Owns: `attempt_run`, the equations of `LoadConsumer`-based `consumerExists` and
`deleteConsumer`, of `createConsumer`, of the store writes `update` and `updateStatus`,
of the four object writers, and of the deferred Errored write. Later proofs rewrite
with these and never unfold a helper.
-/

namespace Nack.Controllers.JetStream

open Nack.Apis

variable (streamFinalizerKey : String) (env : Env) (key : ObjectKey)

theorem attempt_run (site : Site) (call : Call) (effect : RunState → RunState) (st : RunState) :
    attempt env site call effect st = match env.fault site with
      | .ok => .ok () (effect (st.record call))
      | .fail message => .error (.error message) (st.record call)
      | .lost message => .error (.error message) (effect (st.record call))
      | .halt => .error .halt st := by
  unfold attempt; cases env.fault site <;> rfl

theorem consumerExists_run (stream consumer : String) (st : RunState) :
    consumerExists env stream consumer st = match env.fault .consumerExists with
      | .ok => .ok (decide (⟨stream, consumer⟩ ∈ st.cluster.server))
          (st.record (.loadConsumer ⟨stream, consumer⟩))
      | .fail message | .lost message =>
          .error (.error ("failed to check if consumer exists: " ++ message))
          (st.record (.loadConsumer ⟨stream, consumer⟩))
      | .halt => .error .halt st := by
  by_cases found : (⟨stream, consumer⟩ : ConsumerName) ∈ st.cluster.server <;>
    cases h : env.fault .consumerExists <;>
    simp [consumerExists, wrapErrors, loadConsumer, attempt_run, h, found]

theorem createConsumer_run (spec : ConsumerSpec) (st : RunState) :
    createConsumer env spec st = match env.fault .newConsumer with
      | .ok => .ok () ((st.record (.newConsumer spec.consumerName)).mapCluster
          (·.addConsumer spec.consumerName))
      | .fail message => .error (.error ("failed to create consumer " ++ goQuote spec.durableName ++
          " on stream " ++ goQuote spec.streamName ++ ": " ++ message))
          (st.record (.newConsumer spec.consumerName))
      | .lost message => .error (.error ("failed to create consumer " ++ goQuote spec.durableName ++
          " on stream " ++ goQuote spec.streamName ++ ": " ++ message))
          ((st.record (.newConsumer spec.consumerName)).mapCluster
            (·.addConsumer spec.consumerName))
      | .halt => .error .halt st := by
  cases h : env.fault .newConsumer <;>
    simp [createConsumer, wrapErrors, newConsumer, attempt_run, h]

theorem deleteConsumer_run (stream consumer : String) (st : RunState) :
    deleteConsumer env stream consumer st =
      match env.fault .deleteConsumerLoad with
      | .ok =>
          if (⟨stream, consumer⟩ : ConsumerName) ∈ st.cluster.server then
            match env.fault .deleteConsumer with
            | .ok => .ok () (((st.record (.loadConsumer ⟨stream, consumer⟩)).record
                (.delete ⟨stream, consumer⟩)).mapCluster (·.removeConsumer ⟨stream, consumer⟩))
            | .fail message => .error (.error ("failed to delete consumer " ++ goQuote consumer ++
                " on stream " ++ goQuote stream ++ ": " ++ message))
                ((st.record (.loadConsumer ⟨stream, consumer⟩)).record (.delete ⟨stream, consumer⟩))
            | .lost message => .error (.error ("failed to delete consumer " ++ goQuote consumer ++
                " on stream " ++ goQuote stream ++ ": " ++ message))
                (((st.record (.loadConsumer ⟨stream, consumer⟩)).record
                  (.delete ⟨stream, consumer⟩)).mapCluster (·.removeConsumer ⟨stream, consumer⟩))
            | .halt => .error .halt (st.record (.loadConsumer ⟨stream, consumer⟩))
          else .ok () (st.record (.loadConsumer ⟨stream, consumer⟩))
      | .fail message | .lost message => .error (.error ("failed to delete consumer " ++
          goQuote consumer ++ " on stream " ++ goQuote stream ++ ": " ++ message))
          (st.record (.loadConsumer ⟨stream, consumer⟩))
      | .halt => .error .halt st := by
  by_cases found : (⟨stream, consumer⟩ : ConsumerName) ∈ st.cluster.server <;>
    cases h : env.fault .deleteConsumerLoad <;>
    simp [deleteConsumer, wrapErrors, loadConsumer, deleteLoaded, attempt_run, h, found]
  cases env.fault .deleteConsumer <;> rfl

theorem update_run (site : Site) (s : Consumer) (st : RunState) :
    update env site key s st = match env.fault site with
      | .ok => .ok (((st.cluster.writeFinalizers key s.finalizers).consumers key).getD s)
          ((st.record (.update s.finalizers)).write key (·.writeFinalizers key s.finalizers))
      | .fail message => .error (.error message) (st.record (.update s.finalizers))
      | .lost message => .error (.error message)
          ((st.record (.update s.finalizers)).write key (·.writeFinalizers key s.finalizers))
      | .halt => .error .halt st := by
  cases h : env.fault site <;> simp [update, attempt_run, h]

theorem updateStatus_run (site : Site) (s : Consumer) (st : RunState) :
    updateStatus env site key s st = match env.fault site with
      | .ok => .ok (((st.cluster.writeStatus key s.status).consumers key).getD s)
          ((st.record (.updateStatus s.status)).write key (·.writeStatus key s.status))
      | .fail message => .error (.error message) (st.record (.updateStatus s.status))
      | .lost message => .error (.error message)
          ((st.record (.updateStatus s.status)).write key (·.writeStatus key s.status))
      | .halt => .error .halt st := by
  cases h : env.fault site <;> simp [updateStatus, attempt_run, h]

theorem setConsumerFinalizer_run (st : RunState) :
    setConsumerFinalizer streamFinalizerKey env key st =
      let s := { st.cns with finalizers := addFinalizer st.cns.finalizers streamFinalizerKey }
      match env.fault .setConsumerFinalizer with
      | .ok => .ok (((st.cluster.writeFinalizers key s.finalizers).consumers key).getD s)
          (({ st with cns := s }.record (.update s.finalizers)).write key
            (·.writeFinalizers key s.finalizers))
      | .fail message => .error (.error ("failed to set finalizers for consumer " ++
          goQuote s.spec.durableName ++ ": " ++ message))
          ({ st with cns := s }.record (.update s.finalizers))
      | .lost message => .error (.error ("failed to set finalizers for consumer " ++
          goQuote s.spec.durableName ++ ": " ++ message))
          (({ st with cns := s }.record (.update s.finalizers)).write key
            (·.writeFinalizers key s.finalizers))
      | .halt => .error .halt { st with cns := s } := by
  cases h : env.fault .setConsumerFinalizer <;>
    simp [setConsumerFinalizer, wrapErrors, update_run, h]

theorem clearConsumerFinalizer_run (st : RunState) :
    clearConsumerFinalizer streamFinalizerKey env key st =
      let s := { st.cns with finalizers := removeFinalizer st.cns.finalizers streamFinalizerKey }
      match env.fault .clearConsumerFinalizer with
      | .ok => .ok (((st.cluster.writeFinalizers key s.finalizers).consumers key).getD s)
          (({ st with cns := s }.record (.update s.finalizers)).write key
            (·.writeFinalizers key s.finalizers))
      | .fail message => .error (.error ("failed to clear finalizers for consumer " ++
          goQuote s.spec.durableName ++ ": " ++ message))
          ({ st with cns := s }.record (.update s.finalizers))
      | .lost message => .error (.error ("failed to clear finalizers for consumer " ++
          goQuote s.spec.durableName ++ ": " ++ message))
          (({ st with cns := s }.record (.update s.finalizers)).write key
            (·.writeFinalizers key s.finalizers))
      | .halt => .error .halt { st with cns := s } := by
  cases h : env.fault .clearConsumerFinalizer <;>
    simp [clearConsumerFinalizer, wrapErrors, update_run, h]

theorem setConsumerOK_run (s : Consumer) (st : RunState) :
    setConsumerOK env key s st =
      let status := okStatus (env.clock .setConsumerOK) s
      match env.fault .setConsumerOK with
      | .ok => .ok
          (((st.cluster.writeStatus key status).consumers key).getD { s with status := status })
          ((st.record (.updateStatus status)).write key (·.writeStatus key status))
      | .fail message => .error (.error ("failed to set consumer " ++ goQuote s.spec.durableName ++
          " status" ++ ": " ++ message)) (st.record (.updateStatus status))
      | .lost message => .error (.error ("failed to set consumer " ++ goQuote s.spec.durableName ++
          " status" ++ ": " ++ message))
          ((st.record (.updateStatus status)).write key (·.writeStatus key status))
      | .halt => .error .halt st := by
  cases h : env.fault .setConsumerOK <;> simp [setConsumerOK, wrapErrors, updateStatus_run, h]

theorem setConsumerErrored_run (s : Consumer) (err : String) (st : RunState) :
    setConsumerErrored env key s err st =
      let status := erroredStatus (env.clock .setConsumerErrored) err s
      match env.fault .setConsumerErrored with
      | .ok => .ok
          (((st.cluster.writeStatus key status).consumers key).getD { s with status := status })
          ((st.record (.updateStatus status)).write key (·.writeStatus key status))
      | .fail message => .error (.error ("failed to set consumer errored status: " ++ message))
          (st.record (.updateStatus status))
      | .lost message => .error (.error ("failed to set consumer errored status: " ++ message))
          ((st.record (.updateStatus status)).write key (·.writeStatus key status))
      | .halt => .error .halt st := by
  cases h : env.fault .setConsumerErrored <;>
    simp [setConsumerErrored, wrapErrors, updateStatus_run, h]

/-- The deferred Errored write, on an error: the write's own failure is merged into the
error, whether or not the write took effect. -/
theorem erroredDefer_run (err : String) (st : RunState) :
    erroredDefer env key (.error err) st =
      let status := erroredStatus (env.clock .setConsumerErrored) err st.cns
      match env.fault .setConsumerErrored with
      | .ok => .error (.error err)
          ((st.record (.updateStatus status)).write key (·.writeStatus key status))
      | .fail serr => .error (.error (err ++ ": " ++ ("failed to set consumer errored status: " ++
          serr))) (st.record (.updateStatus status))
      | .lost serr => .error (.error (err ++ ": " ++ ("failed to set consumer errored status: " ++
          serr))) ((st.record (.updateStatus status)).write key (·.writeStatus key status))
      | .halt => .error .halt st := by
  cases h : env.fault .setConsumerErrored <;> simp [erroredDefer, setConsumerErrored_run, h]

end Nack.Controllers.JetStream
