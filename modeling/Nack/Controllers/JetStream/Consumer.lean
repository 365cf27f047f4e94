import Nack.Controllers.JetStream.Client
import Nack.Strconv.IsPrint

/-!
Contract: `controllers/jetstream/consumer.go`, function by function.

Owns: `processConsumer` with its three deferred calls (the error wrap, the Errored
status write, `Close`), and its helpers `consumerExists`, `createConsumer`,
`deleteConsumer`, `setConsumerOK`, `setConsumerErrored`, `setConsumerFinalizer` and
`clearConsumerFinalizer`, with the texts of their events and errors; Go's `%q`.

`streamFinalizerKey` is the token the finalizer helpers add and remove. Its value is
not under src/, so it is a parameter of every definition that uses it.

Does not own: `runConsumerQueue` and `processQueueNext`, the queue loop around
`processConsumer` (the latter is not under src/).
-/

namespace Nack.Controllers.JetStream

open Nack.Apis

/-! ## Go's `%q` -/

/-- `n` in `width` lowercase hex digits, as `strconv` writes the digits of an escape. -/
def hexDigits : Nat → Nat → List Char
  | 0, _ => []
  | width + 1, n => hexDigits width (n / 16) ++ [Nat.digitChar (n % 16)]

/-- One rune under `strconv.Quote` (its `appendEscapedRune`): the quote and the backslash
are escaped, a rune `IsPrint` accepts is kept, and any other rune is escaped by name
(`\a`, `\b`, `\f`, `\n`, `\r`, `\t`, `\v`), as `\x` and two hex digits below the space
and for DEL, as `\u` and four hex digits below U+10000, and as `\U` and eight above. -/
def quoteChar (c : Char) : String :=
  if c = '"' then "\\\""
  else if c = '\\' then "\\\\"
  else if Nack.Strconv.isPrint c then c.toString
  else if c = '\x07' then "\\a"
  else if c = '\x08' then "\\b"
  else if c = '\x0c' then "\\f"
  else if c = '\n' then "\\n"
  else if c = '\r' then "\\r"
  else if c = '\t' then "\\t"
  else if c = '\x0b' then "\\v"
  else if c.toNat < 0x20 ∨ c.toNat = 0x7F then "\\x" ++ String.mk (hexDigits 2 c.toNat)
  else if c.toNat < 0x10000 then "\\u" ++ String.mk (hexDigits 4 c.toNat)
  else "\\U" ++ String.mk (hexDigits 8 c.toNat)

/-- Go's `%q` verb on a string. -/
def goQuote (s : String) : String :=
  "\"" ++ String.join (s.toList.map quoteChar) ++ "\""

/-! ## The helpers -/

/-- `consumerExists`: the server's not-found error means `false`. -/
def consumerExists (env : Env) (stream consumer : String) : Run Bool :=
  wrapErrors "failed to check if consumer exists" do
    match ← loadConsumer env .consumerExists ⟨stream, consumer⟩ with
    | .notFound => return false
    | .loaded => return true

/-- `createConsumer`. -/
def createConsumer (env : Env) (spec : ConsumerSpec) : Run Unit :=
  wrapErrors ("failed to create consumer " ++ goQuote spec.durableName ++ " on stream " ++
      goQuote spec.streamName) do
    newConsumer env spec.streamName spec.durableName

/-- `deleteConsumer`: a consumer that is already gone counts as deleted. -/
def deleteConsumer (env : Env) (stream consumer : String) : Run Unit :=
  wrapErrors ("failed to delete consumer " ++ goQuote consumer ++ " on stream " ++
      goQuote stream) do
    match ← loadConsumer env .deleteConsumerLoad ⟨stream, consumer⟩ with
    | .notFound => return
    | .loaded => deleteLoaded env ⟨stream, consumer⟩

/-- The `Ready` condition `setConsumerOK` upserts. -/
def createdCondition (now : String) : Condition where
  type := readyCondType
  status := .conditionTrue
  lastTransitionTime := now
  reason := "Created"
  message := "Consumer successfully created"

/-- The `Ready` condition `setConsumerErrored` upserts. -/
def erroredCondition (now err : String) : Condition where
  type := readyCondType
  status := .conditionFalse
  lastTransitionTime := now
  reason := "Errored"
  message := err

/-- The status `setConsumerOK` sends for `s`. -/
def okStatus (now : String) (s : Consumer) : Status where
  observedGeneration := s.generation
  conditions := upsertCondition s.status.conditions (createdCondition now)

/-- The status `setConsumerErrored` sends for `s`. -/
def erroredStatus (now err : String) (s : Consumer) : Status :=
  { s.status with conditions := upsertCondition s.status.conditions (erroredCondition now err) }

/-- `setConsumerOK`. -/
def setConsumerOK (env : Env) (key : ObjectKey) (s : Consumer) : Run Consumer :=
  wrapErrors ("failed to set consumer " ++ goQuote s.spec.durableName ++ " status") do
    updateStatus env .setConsumerOK key
      { s with status := okStatus (env.clock .setConsumerOK) s }

/-- `setConsumerErrored`, which `processConsumer` only calls with an error. -/
def setConsumerErrored (env : Env) (key : ObjectKey) (s : Consumer) (err : String) :
    Run Consumer :=
  wrapErrors "failed to set consumer errored status" do
    updateStatus env .setConsumerErrored key
      { s with status := erroredStatus (env.clock .setConsumerErrored) err s }

section Finalizers

variable (streamFinalizerKey : String)

/-- `setConsumerFinalizer`. Its argument is the run's `cns`, which the Go pointer lets
it change in place before the write. -/
def setConsumerFinalizer (env : Env) (key : ObjectKey) : Run Consumer := do
  modify fun st =>
    { st with
      cns := { st.cns with finalizers := addFinalizer st.cns.finalizers streamFinalizerKey } }
  let s := (← get).cns
  wrapErrors ("failed to set finalizers for consumer " ++ goQuote s.spec.durableName) do
    update env .setConsumerFinalizer key s

/-- `clearConsumerFinalizer`, changing the run's `cns` in place as above. -/
def clearConsumerFinalizer (env : Env) (key : ObjectKey) : Run Consumer := do
  modify fun st =>
    { st with
      cns := { st.cns with finalizers := removeFinalizer st.cns.finalizers streamFinalizerKey } }
  let s := (← get).cns
  wrapErrors ("failed to clear finalizers for consumer " ++ goQuote s.spec.durableName) do
    update env .clearConsumerFinalizer key s

/-! ## `processConsumer` -/

/-- The `createOK` case of `processConsumer`'s switch. After the finalizer write,
`cns` is the object the store returned. -/
def createArm (env : Env) (key : ObjectKey) (spec : ConsumerSpec) : Run Unit := do
  normalEvent "Creating" ("Creating consumer " ++ goQuote spec.durableName ++
    " on stream " ++ goQuote spec.streamName)
  createConsumer env spec
  let res ← setConsumerFinalizer streamFinalizerKey env key
  modify fun st => { st with cns := res }
  let _ ← setConsumerOK env key res
  normalEvent "Created" ("Created consumer " ++ goQuote spec.durableName ++
    " on stream " ++ goQuote spec.streamName)

/-- The `deleteOK` case of `processConsumer`'s switch. -/
def deleteArm (env : Env) (key : ObjectKey) (spec : ConsumerSpec) : Run Unit := do
  normalEvent "Deleting" ("Deleting consumer " ++ goQuote spec.durableName ++
    " on stream " ++ goQuote spec.streamName)
  deleteConsumer env spec.streamName spec.durableName
  let _ ← clearConsumerFinalizer streamFinalizerKey env key

/-- The `switch` of `processConsumer`, from the line computing `deleteOK` on. -/
def reconcileSwitch (env : Env) (key : ObjectKey) (spec : ConsumerSpec) : Run Unit := do
  let cns := (← get).cns
  let deleteOK := cns.deletionTimestamp.isSome
  let newGeneration := cns.generation != cns.status.observedGeneration
  let consumerOK ← consumerExists env spec.streamName spec.durableName
  let updateOK := consumerOK && !deleteOK && newGeneration
  let createOK := !consumerOK && !deleteOK && newGeneration
  if createOK then
    createArm streamFinalizerKey env key spec
  else if updateOK then
    warningEvent "Updating" ("Consumer updates (" ++ goQuote spec.durableName ++ " on " ++
      goQuote spec.streamName ++ ") are not allowed, recreate to update")
  else if deleteOK then
    deleteArm streamFinalizerKey env key spec
  else
    warningEvent "Noop" ("Nothing done for consumer " ++ goQuote spec.durableName)

/-- `defer jsmc.Close()`, on an error return; a halted process runs nothing. -/
def closeDefer : Stop → Run Unit
  | .error err => do close; throw (.error err)
  | .halt => throw .halt

/-- The deferred `setConsumerErrored` of `processConsumer`. It reads `cns` when it runs,
so after a finalizer write it sees the object the store returned; its own failure is
merged into the error. -/
def erroredDefer (env : Env) (key : ObjectKey) : Stop → Run Unit
  | .error err => do
      let merged ← tryCatch
        (do let _ ← setConsumerErrored env key (← get).cns err; pure err)
        fun
          | .error serr => pure (err ++ ": " ++ serr)
          | .halt => throw .halt
      throw (.error merged)
  | .halt => throw .halt

/-- `processConsumer` once `Connect` went through: the switch, with `defer jsmc.Close()`. -/
def connectedSwitch (env : Env) (key : ObjectKey) (spec : ConsumerSpec) : Run Unit :=
  tryCatch
    (do
      normalEvent "Connected" "Connected to NATS Server"
      reconcileSwitch streamFinalizerKey env key spec
      close)
    closeDefer

/-- `processConsumer` once the object is read: credentials, `Connect`, and the switch. -/
def connectAndReconcile (env : Env) (key : ObjectKey) (spec : ConsumerSpec) : Run Unit := do
  getCreds env spec.credentialsSecret
  normalEvent "Connecting" "Connecting to NATS Server"
  connect env (",".intercalate spec.servers)
  connectedSwitch streamFinalizerKey env key spec

/-- `connectAndReconcile` with the deferred Errored write around it. -/
def reconcileConsumer (env : Env) (key : ObjectKey) (spec : ConsumerSpec) : Run Unit :=
  tryCatch (connectAndReconcile streamFinalizerKey env key spec) (erroredDefer env key)

/-- How a run of `processConsumer` ends: the returned error, or a halted process. -/
inductive Outcome where
  | ok
  | error (message : String)
  | halted
deriving DecidableEq, Repr

/-- What one run of `processConsumer` leaves: how it ended, the cluster, the calls made
and events recorded, in order, and the watch events of its writes. -/
structure Report where
  outcome : Outcome
  cluster : Cluster
  calls : List Call
  events : List Event
  watched : List ObjectKey

/-- `processConsumer`. The lister read finds the object in the store or not; an object
that is gone is not an error. -/
def processConsumer (env : Env) (key : ObjectKey) (cluster : Cluster) : Report :=
  match cluster.consumers key with
  | none => ⟨.ok, cluster, [], [], []⟩
  | some cns =>
      match (wrapErrors "failed to process consumer"
          (reconcileConsumer streamFinalizerKey env key cns.spec)).run
          ⟨cluster, cns, [], [], []⟩ with
      | .ok _ st => ⟨.ok, st.cluster, st.calls, st.events, st.watched⟩
      | .error (.error err) st => ⟨.error err, st.cluster, st.calls, st.events, st.watched⟩
      | .error .halt st => ⟨.halted, st.cluster, st.calls, st.events, st.watched⟩

end Finalizers

end Nack.Controllers.JetStream
