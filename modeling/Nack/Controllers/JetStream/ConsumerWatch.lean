import Nack.Controllers.JetStream.ConsumerCalls

/-!
Contract: a run's writes are its watch events. Every object that a run of
`processConsumer` changes, however the run ends, has a watch event in the run's report, and
every event in the report is for the run's key.

Owns: `Watched`, what relates a run's state to a later one (the events only grow, by events
for the run's key, and an object that differs has an event); `Keeps`, that every end of a
computation is `Watched` from where it started, with one law per operation of the monad and
one lemma per helper of `consumer.go`; `processConsumer_watched` and
`processConsumer_watched_key`.

Does not own: how many events a run causes, which `ConsumerBranches` reads off arm by
arm, and what the controller does with them (`Nack.Lifecycle.Workers`).
-/

namespace Nack.Controllers.JetStream

open Nack.Apis

/-- From `before` to `after` of a run on `key`, the watch events only grow, by events for
`key`, and every object that changed has one. -/
def Watched (key : ObjectKey) (before after : RunState) : Prop :=
  (∃ events, after.watched = before.watched ++ events ∧ ∀ other ∈ events, other = key) ∧
    ∀ other, after.cluster.consumers other ≠ before.cluster.consumers other →
      other ∈ after.watched

namespace Watched

variable {key : ObjectKey}

theorem refl (st : RunState) : Watched key st st :=
  ⟨⟨[], (List.append_nil _).symm, nofun⟩, fun _ changed => absurd rfl changed⟩

theorem trans {first mid last : RunState} (head : Watched key first mid)
    (tail : Watched key mid last) : Watched key first last := by
  obtain ⟨⟨early, grown, onlyKey⟩, changes⟩ := head
  obtain ⟨⟨late, grown', onlyKey'⟩, changes'⟩ := tail
  refine ⟨⟨early ++ late, by rw [grown', grown, List.append_assoc], ?_⟩, fun other changed => ?_⟩
  · simp only [List.mem_append]
    exact fun other member => member.elim (onlyKey other) (onlyKey' other)
  · by_cases same : mid.cluster.consumers other = first.cluster.consumers other
    · exact changes' other (same ▸ changed)
    · exact grown' ▸ List.mem_append_left _ (changes other same)

/-- A step that changes no object and causes no event. -/
theorem of_consumers {before after : RunState}
    (same : after.cluster.consumers = before.cluster.consumers)
    (kept : after.watched = before.watched) : Watched key before after :=
  ⟨⟨[], by rw [kept, List.append_nil], nofun⟩, fun other changed => absurd (congrFun same other) changed⟩

theorem record (st : RunState) (call : Call) : Watched key st (st.record call) :=
  of_consumers rfl rfl

theorem emit (st : RunState) (event : Event) : Watched key st (st.emit event) :=
  of_consumers rfl rfl

/-- A change of the server alone changes no object. -/
theorem mapCluster (st : RunState) {f : Cluster → Cluster}
    (server : ∀ cluster, (f cluster).consumers = cluster.consumers) :
    Watched key st (st.mapCluster f) :=
  of_consumers (server st.cluster) rfl

/-- A store write of the object at `key`, which touches no other object. -/
theorem write (st : RunState) {f : Cluster → Cluster}
    (only : ∀ cluster other, other ≠ key → (f cluster).consumers other = cluster.consumers other) :
    Watched key st (st.write key f) := by
  refine ⟨⟨_, rfl, fun other member => ?_⟩, fun other changed => ?_⟩
  · unfold observe at member
    split_ifs at member <;> simp_all
  · by_cases same : other = key
    · subst same
      simp only [RunState.write_cluster] at changed
      simp [observe, changed]
    · exact absurd (only st.cluster other same) changed

/-- What `Watched` says of the whole run, from its first state, which has no event yet. -/
theorem of_start {st after : RunState} (fresh : st.watched = [])
    (watched : Watched key st after) :
    (∀ other ∈ after.watched, other = key) ∧
      ∀ other, after.cluster.consumers other ≠ st.cluster.consumers other →
        other ∈ after.watched := by
  obtain ⟨⟨events, grown, onlyKey⟩, changes⟩ := watched
  exact ⟨fun other member => onlyKey other (by simpa [grown, fresh] using member), changes⟩

end Watched

/-- Every end of `x`, run on `key`, returned or thrown, is `Watched` from where it started. -/
def Keeps {α : Type} (key : ObjectKey) (x : Run α) : Prop :=
  ∀ st, match x st with
    | .ok _ after | .error _ after => Watched key st after

namespace Keeps

variable {α β : Type} {key : ObjectKey}

theorem pure (a : α) : Keeps key (Pure.pure a : Run α) := Watched.refl

theorem get : Keeps key (MonadState.get : Run RunState) := Watched.refl

theorem throw (e : Stop) : Keeps key (MonadExcept.throw e : Run α) := Watched.refl

theorem modify {f : RunState → RunState} (watched : ∀ st, Watched key st (f st)) :
    Keeps key (MonadState.modifyGet fun st => ((), f st) : Run Unit) := watched

theorem bind {x : Run α} {f : α → Run β} (head : Keeps key x) (tail : ∀ a, Keeps key (f a)) :
    Keeps key (x >>= f) := by
  intro st
  have first := head st
  rw [run_bind]
  revert first
  cases x st with
  | ok a mid =>
    have rest := tail a mid
    dsimp only
    revert rest
    cases f a mid <;> exact fun rest first => first.trans rest
  | error _ _ => exact id

theorem tryCatch {x : Run α} {handler : Stop → Run α} (body : Keeps key x)
    (handled : ∀ e, Keeps key (handler e)) : Keeps key (MonadExcept.tryCatch x handler) := by
  intro st
  have first := body st
  rw [run_tryCatch]
  revert first
  cases x st with
  | ok _ _ => exact id
  | error e mid =>
    have rest := handled e mid
    dsimp only
    revert rest
    cases handler e mid <;> exact fun rest first => first.trans rest

theorem attempt (env : Env) (site : Site) (call : Call) {effect : RunState → RunState}
    (watched : ∀ st, Watched key st (effect st)) :
    Keeps key (JetStream.attempt env site call effect) := by
  intro st
  rw [attempt_run]
  cases env.fault site with
  | ok | lost _ => exact (Watched.record st call).trans (watched _)
  | fail _ => exact Watched.record st call
  | halt => exact Watched.refl st

theorem wrapErrors (context : String) {body : Run α} (keeps : Keeps key body) :
    Keeps key (JetStream.wrapErrors context body) :=
  keeps.tryCatch fun e => by cases e <;> exact throw _

end Keeps

/-! ## The calls -/

section Calls

variable (streamFinalizerKey : String) (env : Env) {key : ObjectKey}

theorem loadConsumer_keeps (site : Site) (name : ConsumerName) :
    Keeps key (loadConsumer env site name) :=
  (Keeps.attempt env site _ Watched.refl).bind fun _ => Keeps.get.bind fun _ => Keeps.pure _

theorem update_keeps (site : Site) (s : Consumer) : Keeps key (update env site key s) :=
  (Keeps.attempt env site _ fun st => Watched.write st fun _ _ different => by
    simp [different]).bind fun _ => Keeps.get.bind fun _ => Keeps.pure _

theorem updateStatus_keeps (site : Site) (s : Consumer) : Keeps key (updateStatus env site key s) :=
  (Keeps.attempt env site _ fun st => Watched.write st fun _ _ different => by
    simp [different]).bind fun _ => Keeps.get.bind fun _ => Keeps.pure _

theorem normalEvent_keeps (reason message : String) : Keeps key (normalEvent reason message) :=
  Keeps.modify fun st => Watched.emit st _

theorem warningEvent_keeps (reason message : String) : Keeps key (warningEvent reason message) :=
  Keeps.modify fun st => Watched.emit st _

/-- Setting the run's variable `cns` changes no object. -/
theorem setCns_keeps (f : RunState → Consumer) :
    Keeps key (modify fun st => { st with cns := f st } : Run Unit) :=
  Keeps.modify fun _ => Watched.of_consumers rfl rfl

theorem consumerExists_keeps (stream consumer : String) :
    Keeps key (consumerExists env stream consumer) :=
  Keeps.wrapErrors _ <| (loadConsumer_keeps env _ _).bind fun result => by
    cases result <;> exact Keeps.pure _

theorem createConsumer_keeps (spec : ConsumerSpec) : Keeps key (createConsumer env spec) :=
  Keeps.wrapErrors _ <| Keeps.attempt env _ _ fun st => Watched.mapCluster st fun _ => rfl

theorem deleteConsumer_keeps (stream consumer : String) :
    Keeps key (deleteConsumer env stream consumer) :=
  Keeps.wrapErrors _ <| (loadConsumer_keeps env _ _).bind fun result => by
    cases result
    · exact Keeps.attempt env _ _ fun st => Watched.mapCluster st fun _ => rfl
    · exact Keeps.pure _

theorem setConsumerOK_keeps (s : Consumer) : Keeps key (setConsumerOK env key s) :=
  Keeps.wrapErrors _ (updateStatus_keeps env _ _)

theorem setConsumerErrored_keeps (s : Consumer) (err : String) :
    Keeps key (setConsumerErrored env key s err) :=
  Keeps.wrapErrors _ (updateStatus_keeps env _ _)

theorem setConsumerFinalizer_keeps : Keeps key (setConsumerFinalizer streamFinalizerKey env key) :=
  (setCns_keeps _).bind fun _ => Keeps.get.bind fun _ =>
    Keeps.wrapErrors _ (update_keeps env _ _)

theorem clearConsumerFinalizer_keeps : Keeps key (clearConsumerFinalizer streamFinalizerKey env key) :=
  (setCns_keeps _).bind fun _ => Keeps.get.bind fun _ =>
    Keeps.wrapErrors _ (update_keeps env _ _)

end Calls

/-! ## The run -/

section Run

variable (streamFinalizerKey : String) (env : Env) (key : ObjectKey) (spec : ConsumerSpec)

theorem createArm_keeps : Keeps key (createArm streamFinalizerKey env key spec) :=
  (normalEvent_keeps _ _).bind fun _ => (createConsumer_keeps env spec).bind fun _ =>
    (setConsumerFinalizer_keeps streamFinalizerKey env).bind fun _ =>
      (setCns_keeps _).bind fun _ => (setConsumerOK_keeps env _).bind fun _ =>
        normalEvent_keeps _ _

theorem deleteArm_keeps : Keeps key (deleteArm streamFinalizerKey env key spec) :=
  (normalEvent_keeps _ _).bind fun _ => (deleteConsumer_keeps env _ _).bind fun _ =>
    (clearConsumerFinalizer_keeps streamFinalizerKey env).bind fun _ => Keeps.pure _

theorem reconcileSwitch_keeps : Keeps key (reconcileSwitch streamFinalizerKey env key spec) :=
  Keeps.get.bind fun _ => (consumerExists_keeps env _ _).bind fun _ => by
    dsimp only
    split_ifs
    · exact createArm_keeps streamFinalizerKey env key spec
    · exact warningEvent_keeps _ _
    · exact deleteArm_keeps streamFinalizerKey env key spec
    · exact warningEvent_keeps _ _

theorem erroredDefer_keeps (stop : Stop) : Keeps key (erroredDefer env key stop) := by
  cases stop with
  | error err =>
    refine Keeps.bind (Keeps.tryCatch (Keeps.get.bind fun _ =>
      (setConsumerErrored_keeps env _ _).bind fun _ => Keeps.pure _) fun e => ?_)
      fun _ => Keeps.throw _
    cases e
    · exact Keeps.pure _
    · exact Keeps.throw _
  | halt => exact Keeps.throw _

theorem reconcileConsumer_keeps : Keeps key (reconcileConsumer streamFinalizerKey env key spec) := by
  refine Keeps.tryCatch ?_ (erroredDefer_keeps env key)
  refine Keeps.bind ?_ fun _ => (normalEvent_keeps _ _).bind fun _ =>
    (Keeps.attempt env _ _ Watched.refl).bind fun _ => Keeps.tryCatch ((normalEvent_keeps _ _).bind
      fun _ => (reconcileSwitch_keeps streamFinalizerKey env key spec).bind fun _ =>
        Keeps.modify fun st => Watched.record st _) fun stop => ?_
  · cases spec.credentialsSecret
    · exact Keeps.pure _
    · exact Keeps.attempt env _ _ Watched.refl
  · cases stop
    · exact (Keeps.modify fun st => Watched.record st _).bind fun _ => Keeps.throw _
    · exact Keeps.throw _

/-- Whatever a run of `processConsumer` meets, every event in its report is for its key,
and every object it changes has one. -/
theorem processConsumer_keeps (cluster : Cluster) :
    (∀ other ∈ (processConsumer streamFinalizerKey env key cluster).watched, other = key) ∧
      ∀ other, (processConsumer streamFinalizerKey env key cluster).cluster.consumers other ≠
        cluster.consumers other → other ∈ (processConsumer streamFinalizerKey env key cluster).watched := by
  cases found : cluster.consumers key with
  | none => simp [processConsumer, found]
  | some cns =>
    have keeps := Keeps.wrapErrors "failed to process consumer"
      (reconcileConsumer_keeps streamFinalizerKey env key cns.spec) ⟨cluster, cns, [], [], []⟩
    simp only [processConsumer, found, run_apply]
    revert keeps
    cases wrapErrors "failed to process consumer"
        (reconcileConsumer streamFinalizerKey env key cns.spec) ⟨cluster, cns, [], [], []⟩ with
    | ok _ after => exact fun keeps => keeps.of_start rfl
    | error stop after => cases stop <;> exact fun keeps => keeps.of_start rfl

/-- **A run's changes are watch events.** Whatever a run of `processConsumer` meets,
every object it changes has a watch event in its report. -/
theorem processConsumer_watched (cluster : Cluster) {other : ObjectKey}
    (changed : (processConsumer streamFinalizerKey env key cluster).cluster.consumers other ≠
      cluster.consumers other) :
    other ∈ (processConsumer streamFinalizerKey env key cluster).watched :=
  (processConsumer_keeps streamFinalizerKey env key cluster).2 other changed

/-- **A run's events are for its key.** -/
theorem processConsumer_watched_key (cluster : Cluster) {other : ObjectKey}
    (member : other ∈ (processConsumer streamFinalizerKey env key cluster).watched) :
    other = key :=
  (processConsumer_keeps streamFinalizerKey env key cluster).1 other member

end Run

end Nack.Controllers.JetStream
