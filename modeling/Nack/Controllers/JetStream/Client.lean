import Nack.Controllers.JetStream.Helpers

/-!
Contract: the world one reconciliation runs against, and the calls it can make.

Owns: `Cluster`, the Consumer objects in the store together with the consumers on the
JetStream server; `Env`, what the world answers during one run (each call site's fault
and the clock); `Run`, the error-and-state monad a run is written in, whose state
holds the cluster, the run's variable `cns`, and the calls and events so far; and the
primitive calls: the secret lookup, `Connect`, `Close`, `LoadConsumer`, `NewConsumer`,
the loaded consumer's `Delete`, the store's `Update` and `UpdateStatus`, and the
event recorder.

A call at a site whose fault is `fail` is recorded, has no effect and returns the
error; at a site whose fault is `lost` it is recorded and takes effect, but its reply is
lost and the caller gets an error all the same; at a site whose fault is `halt` the
process stops before the call, and no deferred code runs. The store keeps the status
subresource apart: `Update` writes the object's finalizers (its spec is the stored one),
`UpdateStatus` writes its status. Each store write that changes the object is one watch
event for its key (`observe`), which the run hands back with its report.

Does not own: the informer cache, which is taken to be in step with the store when a
run reads it; resource versions and write conflicts, which are failures like any
other; the content of credentials and NATS options, which only reach `Connect`.
-/

namespace Nack.Controllers.JetStream

open Nack.Apis

/-- A Consumer object's key in the store. -/
structure ObjectKey where
  ns : String
  name : String
deriving DecidableEq, Repr

/-- What the controller reconciles: the Consumer objects in the store, and the
consumers on the JetStream server. -/
@[ext] structure Cluster where
  consumers : ObjectKey → Option Consumer
  server : List ConsumerName

namespace Cluster

/-- Rewrite the object stored under `key`, if there is one. -/
def modifyConsumer (cluster : Cluster) (key : ObjectKey) (f : Consumer → Consumer) :
    Cluster :=
  { cluster with
    consumers := fun other =>
      if other = key then (cluster.consumers key).map f else cluster.consumers other }

/-- The store's `Update`, as the controller uses it: the object's finalizers. -/
def writeFinalizers (cluster : Cluster) (key : ObjectKey) (fs : List String) : Cluster :=
  cluster.modifyConsumer key fun o => { o with finalizers := fs }

/-- The store's `UpdateStatus`: the object's status. -/
def writeStatus (cluster : Cluster) (key : ObjectKey) (status : Status) : Cluster :=
  cluster.modifyConsumer key fun o => { o with status := status }

/-- `NewConsumer` on the server. -/
def addConsumer (cluster : Cluster) (name : ConsumerName) : Cluster :=
  { cluster with server := cluster.server.insert name }

/-- `Delete` of a consumer on the server. -/
def removeConsumer (cluster : Cluster) (name : ConsumerName) : Cluster :=
  { cluster with server := cluster.server.filter (· != name) }

@[simp] theorem modifyConsumer_server (cluster : Cluster) (key : ObjectKey)
    (f : Consumer → Consumer) : (cluster.modifyConsumer key f).server = cluster.server := rfl

@[simp] theorem modifyConsumer_self (cluster : Cluster) (key : ObjectKey)
    (f : Consumer → Consumer) :
    (cluster.modifyConsumer key f).consumers key = (cluster.consumers key).map f := by
  simp [modifyConsumer]

@[simp] theorem modifyConsumer_ne (cluster : Cluster) {key other : ObjectKey}
    (f : Consumer → Consumer) (different : other ≠ key) :
    (cluster.modifyConsumer key f).consumers other = cluster.consumers other := by
  simp [modifyConsumer, different]

@[simp] theorem writeFinalizers_server (cluster : Cluster) (key : ObjectKey) (fs : List String) :
    (cluster.writeFinalizers key fs).server = cluster.server := rfl

@[simp] theorem writeStatus_server (cluster : Cluster) (key : ObjectKey) (status : Status) :
    (cluster.writeStatus key status).server = cluster.server := rfl

@[simp] theorem writeFinalizers_self (cluster : Cluster) (key : ObjectKey) (fs : List String) :
    (cluster.writeFinalizers key fs).consumers key =
      (cluster.consumers key).map fun o => { o with finalizers := fs } :=
  modifyConsumer_self ..

@[simp] theorem writeStatus_self (cluster : Cluster) (key : ObjectKey) (status : Status) :
    (cluster.writeStatus key status).consumers key =
      (cluster.consumers key).map fun o => { o with status := status } :=
  modifyConsumer_self ..

@[simp] theorem writeFinalizers_ne (cluster : Cluster) {key other : ObjectKey} (fs : List String)
    (different : other ≠ key) :
    (cluster.writeFinalizers key fs).consumers other = cluster.consumers other :=
  modifyConsumer_ne _ _ different

@[simp] theorem writeStatus_ne (cluster : Cluster) {key other : ObjectKey} (status : Status)
    (different : other ≠ key) :
    (cluster.writeStatus key status).consumers other = cluster.consumers other :=
  modifyConsumer_ne _ _ different

@[simp] theorem addConsumer_consumers (cluster : Cluster) (name : ConsumerName) :
    (cluster.addConsumer name).consumers = cluster.consumers := rfl

@[simp] theorem removeConsumer_consumers (cluster : Cluster) (name : ConsumerName) :
    (cluster.removeConsumer name).consumers = cluster.consumers := rfl

@[simp] theorem mem_addConsumer {cluster : Cluster} {name other : ConsumerName} :
    other ∈ (cluster.addConsumer name).server ↔ other = name ∨ other ∈ cluster.server := by
  simp [addConsumer]

@[simp] theorem mem_removeConsumer {cluster : Cluster} {name other : ConsumerName} :
    other ∈ (cluster.removeConsumer name).server ↔ other ∈ cluster.server ∧ other ≠ name := by
  simp [removeConsumer]

/-- Writing back the finalizers an object has changes nothing. -/
theorem writeFinalizers_of_eq {cluster : Cluster} {key : ObjectKey} {c : Consumer}
    (found : cluster.consumers key = some c) :
    cluster.writeFinalizers key c.finalizers = cluster := by
  apply Cluster.ext
  · funext other
    by_cases same : other = key
    · subst same
      simp [found]
    · simp [same]
  · rfl

theorem removeConsumer_of_not_mem {cluster : Cluster} {name : ConsumerName}
    (absent : name ∉ cluster.server) : cluster.removeConsumer name = cluster := by
  unfold removeConsumer
  congr
  exact List.filter_eq_self.mpr fun other member => by
    simpa using fun same : other = name => absent (same ▸ member)

end Cluster

/-- The watch events a write from `before` to `after` of the object at `key` causes: one,
if the write changed the object; a write that changes nothing is no event. -/
def observe (before after : Cluster) (key : ObjectKey) : List ObjectKey :=
  if after.consumers key = before.consumers key then [] else [key]

theorem observe_writeFinalizers {cluster : Cluster} {key : ObjectKey} {c : Consumer}
    (found : cluster.consumers key = some c) (fs : List String) :
    observe cluster (cluster.writeFinalizers key fs) key =
      if fs = c.finalizers then [] else [key] := by
  cases c
  simp [observe, found]

theorem observe_writeStatus {cluster : Cluster} {key : ObjectKey} {c : Consumer}
    (found : cluster.consumers key = some c) (status : Status) :
    observe cluster (cluster.writeStatus key status) key =
      if status = c.status then [] else [key] := by
  cases c
  simp [observe, found]

/-- How one call of a run ends: it goes through; it fails with no effect; it takes effect
but its reply is lost, so the caller sees an error; or the process halts before it. -/
inductive Fault where
  | ok
  | fail (message : String)
  | lost (message : String)
  | halt
deriving DecidableEq, Repr

/-- The call takes effect: it goes through, whether or not its reply arrives. -/
@[simp] def Fault.takesEffect : Fault → Bool
  | .ok | .lost _ => true
  | .fail _ | .halt => false

/-- The call sites of `processConsumer` and its helpers, in program order. -/
inductive Site where
  | getSecret
  | connect
  | consumerExists
  | newConsumer
  | setConsumerFinalizer
  | setConsumerOK
  | deleteConsumerLoad
  | deleteConsumer
  | clearConsumerFinalizer
  | setConsumerErrored
deriving DecidableEq, Repr

/-- What the world answers during one run: each call site's fault, and what
`time.Now()` reads before each status write. -/
structure Env where
  fault : Site → Fault
  clock : Site → String

/-- No call of the run fails or halts. -/
def Env.Reliable (env : Env) : Prop := ∀ site, env.fault site = .ok

theorem Env.not_reliable {env : Env} (site : Site) (faulted : env.fault site ≠ .ok) :
    ¬ env.Reliable :=
  fun reliable => faulted (reliable site)

/-- The world in which every call goes through and the clock reads `clock`. -/
def Env.allOk (clock : String) : Env := ⟨fun _ => .ok, fun _ => clock⟩

/-- The world in which only the call at `site` goes wrong, with `fault`. -/
def Env.faultAt (site : Site) (fault : Fault) (clock : String) : Env :=
  ⟨fun other => if other = site then fault else .ok, fun _ => clock⟩

theorem Env.allOk_reliable (clock : String) : (Env.allOk clock).Reliable := fun _ => rfl

/-- A call of the run to the secret store, the JetStream server or the Consumer store. -/
inductive Call where
  | getSecret (secret : CredentialsSecret)
  | connect (servers : String)
  | loadConsumer (name : ConsumerName)
  | newConsumer (name : ConsumerName)
  | delete (name : ConsumerName)
  | update (finalizers : List String)
  | updateStatus (status : Status)
  | close
deriving DecidableEq, Repr

/-- `k8sapi.EventTypeNormal` and `k8sapi.EventTypeWarning`. -/
inductive EventType where
  | normal
  | warning
deriving DecidableEq, Repr

/-- An event the recorder receives for the reconciled object. -/
structure Event where
  eventType : EventType
  reason : String
  message : String
deriving DecidableEq, Repr

/-- The state of one run: the cluster, the run's variable `cns` (the deferred error
handler reads it), the calls made and events recorded so far, and the watch events the
run's writes caused. -/
structure RunState where
  cluster : Cluster
  cns : Consumer
  calls : List Call
  events : List Event
  watched : List ObjectKey

namespace RunState

/-- Record a call. -/
def record (st : RunState) (call : Call) : RunState := { st with calls := st.calls ++ [call] }

/-- Record an event. -/
def emit (st : RunState) (event : Event) : RunState := { st with events := st.events ++ [event] }

/-- Change the server. -/
def mapCluster (st : RunState) (f : Cluster → Cluster) : RunState :=
  { st with cluster := f st.cluster }

/-- The store's write `f` of the object at `key`, with the watch event it causes. -/
def write (st : RunState) (key : ObjectKey) (f : Cluster → Cluster) : RunState :=
  { st with
    cluster := f st.cluster
    watched := st.watched ++ observe st.cluster (f st.cluster) key }

@[simp] theorem record_cluster (st : RunState) (call : Call) :
    (st.record call).cluster = st.cluster := rfl
@[simp] theorem record_cns (st : RunState) (call : Call) : (st.record call).cns = st.cns := rfl
@[simp] theorem record_calls (st : RunState) (call : Call) :
    (st.record call).calls = st.calls ++ [call] := rfl
@[simp] theorem emit_cluster (st : RunState) (event : Event) :
    (st.emit event).cluster = st.cluster := rfl
@[simp] theorem emit_cns (st : RunState) (event : Event) : (st.emit event).cns = st.cns := rfl
@[simp] theorem emit_calls (st : RunState) (event : Event) : (st.emit event).calls = st.calls := rfl
@[simp] theorem mapCluster_cluster (st : RunState) (f : Cluster → Cluster) :
    (st.mapCluster f).cluster = f st.cluster := rfl
@[simp] theorem mapCluster_cns (st : RunState) (f : Cluster → Cluster) :
    (st.mapCluster f).cns = st.cns := rfl
@[simp] theorem mapCluster_calls (st : RunState) (f : Cluster → Cluster) :
    (st.mapCluster f).calls = st.calls := rfl
@[simp] theorem record_events (st : RunState) (call : Call) : (st.record call).events = st.events :=
  rfl
@[simp] theorem mapCluster_events (st : RunState) (f : Cluster → Cluster) :
    (st.mapCluster f).events = st.events := rfl
@[simp] theorem record_watched (st : RunState) (call : Call) :
    (st.record call).watched = st.watched := rfl
@[simp] theorem emit_watched (st : RunState) (event : Event) :
    (st.emit event).watched = st.watched := rfl
@[simp] theorem mapCluster_watched (st : RunState) (f : Cluster → Cluster) :
    (st.mapCluster f).watched = st.watched := rfl
@[simp] theorem write_cluster (st : RunState) (key : ObjectKey) (f : Cluster → Cluster) :
    (st.write key f).cluster = f st.cluster := rfl
@[simp] theorem write_cns (st : RunState) (key : ObjectKey) (f : Cluster → Cluster) :
    (st.write key f).cns = st.cns := rfl
@[simp] theorem write_calls (st : RunState) (key : ObjectKey) (f : Cluster → Cluster) :
    (st.write key f).calls = st.calls := rfl
@[simp] theorem write_events (st : RunState) (key : ObjectKey) (f : Cluster → Cluster) :
    (st.write key f).events = st.events := rfl
@[simp] theorem write_watched (st : RunState) (key : ObjectKey) (f : Cluster → Cluster) :
    (st.write key f).watched = st.watched ++ observe st.cluster (f st.cluster) key := rfl

end RunState

/-- Why a run stops early: a Go `error`, or the process halting. -/
inductive Stop where
  | error (message : String)
  | halt
deriving DecidableEq, Repr

/-- One reconciliation's computations. -/
abbrev Run := EStateM Stop RunState

section RunLaws

variable {α β : Type}

@[simp] theorem run_apply (x : Run α) (st : RunState) : x.run st = x st := rfl

@[simp] theorem run_pure (a : α) (st : RunState) : (pure a : Run α) st = .ok a st := rfl

@[simp] theorem run_bind (x : Run α) (f : α → Run β) (st : RunState) :
    (x >>= f) st = match x st with
      | .ok a s => f a s
      | .error e s => .error e s := by
  show EStateM.bind x f st = _
  unfold EStateM.bind
  cases x st <;> rfl

@[simp] theorem run_map (f : α → β) (x : Run α) (st : RunState) :
    (f <$> x) st = match x st with
      | .ok a s => .ok (f a) s
      | .error e s => .error e s := by
  show EStateM.map f x st = _
  unfold EStateM.map
  cases x st <;> rfl

@[simp] theorem run_modify (f : RunState → RunState) (st : RunState) :
    (modify f : Run Unit) st = .ok () (f st) := rfl

@[simp] theorem run_get (st : RunState) : (get : Run RunState) st = .ok st st := rfl

@[simp] theorem run_throw (e : Stop) (st : RunState) : (throw e : Run α) st = .error e st := rfl

@[simp] theorem run_tryCatch (x : Run α) (handler : Stop → Run α) (st : RunState) :
    (tryCatch x handler) st = match x st with
      | .error e s => handler e s
      | .ok a s => .ok a s := by
  show EStateM.tryCatch x handler st = _
  unfold EStateM.tryCatch
  cases x st <;> rfl

end RunLaws

/-! ## Primitive calls -/

/-- Make the call at `site`, whose effect on the run's state is `effect`: recorded unless
the process halts first, taking effect unless it fails, and returning an error where it
fails or its reply is lost. -/
def attempt (env : Env) (site : Site) (call : Call) (effect : RunState → RunState) : Run Unit :=
  match env.fault site with
  | .ok => modify fun st => effect (st.record call)
  | .fail message => do
      modify (·.record call)
      throw (.error message)
  | .lost message => do
      modify fun st => effect (st.record call)
      throw (.error message)
  | .halt => throw .halt

/-- Go's `defer func() { if err != nil { err = fmt.Errorf(context + ": %w", err) } }()`. -/
def wrapErrors {α : Type} (context : String) (body : Run α) : Run α :=
  tryCatch body fun
    | .error message => throw (.error (context ++ ": " ++ message))
    | .halt => throw .halt

/-- What `LoadConsumer` answers when the call itself goes through: the consumer, or
the server's not-found API error. -/
inductive LoadResult where
  | loaded
  | notFound
deriving DecidableEq, Repr

/-- `jsmClient.LoadConsumer`. -/
def loadConsumer (env : Env) (site : Site) (name : ConsumerName) : Run LoadResult := do
  attempt env site (.loadConsumer name) id
  return if name ∈ (← get).cluster.server then .loaded else .notFound

/-- `jsmClient.NewConsumer` with a config holding only the durable name. -/
def newConsumer (env : Env) (stream durable : String) : Run Unit :=
  attempt env .newConsumer (.newConsumer ⟨stream, durable⟩)
    (·.mapCluster (·.addConsumer ⟨stream, durable⟩))

/-- `Delete` on a loaded consumer. -/
def deleteLoaded (env : Env) (name : ConsumerName) : Run Unit :=
  attempt env .deleteConsumer (.delete name) (·.mapCluster (·.removeConsumer name))

/-- `ConsumerInterface.Update`: returns the object as now stored. -/
def update (env : Env) (site : Site) (key : ObjectKey) (s : Consumer) : Run Consumer := do
  attempt env site (.update s.finalizers) (·.write key (·.writeFinalizers key s.finalizers))
  return ((← get).cluster.consumers key).getD s

/-- `ConsumerInterface.UpdateStatus`: returns the object as now stored. -/
def updateStatus (env : Env) (site : Site) (key : ObjectKey) (s : Consumer) :
    Run Consumer := do
  attempt env site (.updateStatus s.status) (·.write key (·.writeStatus key s.status))
  return ((← get).cluster.consumers key).getD s

/-- `jsmClient.Connect` to the comma-joined server list. -/
def connect (env : Env) (servers : String) : Run Unit :=
  attempt env .connect (.connect servers) id

/-- `jsmClient.Close`, which cannot fail. -/
def close : Run Unit :=
  modify (·.record .close)

/-- Modelled from the spec: `normalEvent` is not under src/. Section 6: an event is
`{object, EventType(Normal|Warning), Reason, Message}`; this one is of type Normal. -/
def normalEvent (reason message : String) : Run Unit :=
  modify (·.emit ⟨.normal, reason, message⟩)

/-- Modelled from the spec: `warningEvent` is not under src/; as `normalEvent`, of type
Warning. -/
def warningEvent (reason message : String) : Run Unit :=
  modify (·.emit ⟨.warning, reason, message⟩)

/-- Modelled from the spec: `getCreds` is not under src/. Section 4.2, step 2: the
credentials come from the secret the spec references, if any; "absence of a reference
yields no credentials (anonymous connect), not an error". -/
def getCreds (env : Env) : Option CredentialsSecret → Run Unit
  | none => pure ()
  | some secret => attempt env .getSecret (.getSecret secret) id

end Nack.Controllers.JetStream
