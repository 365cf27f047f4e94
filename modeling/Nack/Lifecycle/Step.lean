import Nack.Controllers.JetStream.ConsumerEffects

/-!
Contract: the world around the consumer controller, as a state machine on `Cluster`.

Users create Consumer objects, replace their spec and ask for their deletion. The store
counts a generation for every change of the spec, sets the deletion timestamp once,
and removes a deleting object once its finalizers are all cleared. A worker runs
`processConsumer` on a key in a world that may fail any call. A run is one move: the
queue never runs one key twice at once, and the informer cache is taken to be in step
with the store when a run starts.

Owns: the store's side of an object's life (`Consumer.ofManifest`, `Consumer.editSpec`,
`Consumer.requestDeletion`, `Cluster.setObject`, `Cluster.removeObject`), modelled from
the spec's data model, since the store is not under src/; `Action` and `step`; `Move`,
everything one move can do, said once (`move_of_step`); `Steps`, the runs of the system
whose moves an `allowed` predicate admits, and the run lemma `Steps.invariant`.

Does not own: what holds along the runs (`Nack.Lifecycle.Invariants`,
`Nack.Lifecycle.Orphans`).
-/

namespace Nack.Apis.Consumer

/-- An object as the store first holds it: generation 1, nothing observed, no
conditions, and the finalizers of the user's manifest. -/
def ofManifest (spec : ConsumerSpec) (finalizers : List String) : Consumer where
  generation := 1
  deletionTimestamp := none
  finalizers := finalizers
  spec := spec
  status := ⟨0, []⟩

/-- A user's replacement of the spec: the store counts a generation when it changes. -/
def editSpec (c : Consumer) (spec : ConsumerSpec) : Consumer :=
  if spec = c.spec then c else { c with spec := spec, generation := c.generation + 1 }

/-- A deletion request: the store sets the timestamp once and keeps the first. -/
def requestDeletion (c : Consumer) (now : Nat) : Consumer :=
  if c.deletionTimestamp.isSome then c else { c with deletionTimestamp := some now }

section Store

variable (c : Consumer) (spec : ConsumerSpec) (now : Nat)

@[simp] theorem editSpec_spec : (c.editSpec spec).spec = spec := by
  unfold editSpec; split <;> simp_all

@[simp] theorem editSpec_generation :
    (c.editSpec spec).generation = if spec = c.spec then c.generation else c.generation + 1 := by
  unfold editSpec; split <;> rfl

@[simp] theorem editSpec_deletionTimestamp :
    (c.editSpec spec).deletionTimestamp = c.deletionTimestamp := by
  unfold editSpec; split <;> rfl

@[simp] theorem editSpec_finalizers : (c.editSpec spec).finalizers = c.finalizers := by
  unfold editSpec; split <;> rfl

@[simp] theorem editSpec_status : (c.editSpec spec).status = c.status := by
  unfold editSpec; split <;> rfl

@[simp] theorem requestDeletion_deletionTimestamp :
    (c.requestDeletion now).deletionTimestamp = some (c.deletionTimestamp.getD now) := by
  unfold requestDeletion; cases timestamp : c.deletionTimestamp <;> simp [timestamp]

@[simp] theorem requestDeletion_spec : (c.requestDeletion now).spec = c.spec := by
  unfold requestDeletion; split <;> rfl

@[simp] theorem requestDeletion_generation : (c.requestDeletion now).generation = c.generation := by
  unfold requestDeletion; split <;> rfl

@[simp] theorem requestDeletion_finalizers : (c.requestDeletion now).finalizers = c.finalizers := by
  unfold requestDeletion; split <;> rfl

@[simp] theorem requestDeletion_status : (c.requestDeletion now).status = c.status := by
  unfold requestDeletion; split <;> rfl

end Store

end Nack.Apis.Consumer

namespace Nack.Controllers.JetStream.Cluster

open Nack.Apis

/-- The cluster before anything happens: no objects, no consumers on the server. -/
def empty : Cluster := ⟨fun _ => none, []⟩

/-- The store's write of a whole object under `key`. -/
def setObject (cluster : Cluster) (key : ObjectKey) (c : Consumer) : Cluster :=
  { cluster with consumers := fun other => if other = key then some c else cluster.consumers other }

/-- The store's removal of the object under `key`. -/
def removeObject (cluster : Cluster) (key : ObjectKey) : Cluster :=
  { cluster with consumers := fun other => if other = key then none else cluster.consumers other }

@[simp] theorem empty_consumers (key : ObjectKey) : empty.consumers key = none := rfl

@[simp] theorem empty_server : empty.server = [] := rfl

@[simp] theorem setObject_consumers (cluster : Cluster) (key other : ObjectKey) (c : Consumer) :
    (cluster.setObject key c).consumers other =
      if other = key then some c else cluster.consumers other := rfl

@[simp] theorem setObject_server (cluster : Cluster) (key : ObjectKey) (c : Consumer) :
    (cluster.setObject key c).server = cluster.server := rfl

@[simp] theorem removeObject_consumers (cluster : Cluster) (key other : ObjectKey) :
    (cluster.removeObject key).consumers other =
      if other = key then none else cluster.consumers other := rfl

@[simp] theorem removeObject_server (cluster : Cluster) (key : ObjectKey) :
    (cluster.removeObject key).server = cluster.server := rfl

end Nack.Controllers.JetStream.Cluster

namespace Nack.Lifecycle

open Nack.Apis Nack.Controllers.JetStream

/-- One move of the world around the controller. -/
inductive Action where
  /-- A user creates an object under a free key from a manifest: a spec and finalizers. -/
  | apply (key : ObjectKey) (spec : ConsumerSpec) (finalizers : List String)
  /-- A user replaces an object's spec. -/
  | edit (key : ObjectKey) (spec : ConsumerSpec)
  /-- A user asks for an object's deletion at time `now`. -/
  | delete (key : ObjectKey) (now : Nat)
  /-- The store removes a deleting object whose finalizers are all cleared. -/
  | remove (key : ObjectKey)
  /-- A worker runs `processConsumer` on `key`, in a world that answers `env`. -/
  | reconcile (key : ObjectKey) (env : Env)

/-- The consumer name a move gives an object, if it gives one. -/
def Action.givesName : Action → Option ConsumerName
  | .apply _ spec _ => some spec.consumerName
  | .edit _ spec => some spec.consumerName
  | _ => none

section Moves

variable (streamFinalizerKey : String)

/-- One move, from the cluster it is made in; `none` where it cannot be made. -/
def step (s : Cluster) : Action → Option Cluster
  | .apply key spec finalizers =>
      match s.consumers key with
      | none => some (s.setObject key (.ofManifest spec finalizers))
      | some _ => none
  | .edit key spec => (s.consumers key).map fun c => s.setObject key (c.editSpec spec)
  | .delete key now => (s.consumers key).map fun c => s.setObject key (c.requestDeletion now)
  | .remove key =>
      match s.consumers key with
      | some c =>
          if c.deletionTimestamp.isSome ∧ c.finalizers = [] then some (s.removeObject key) else none
      | none => none
  | .reconcile key env => some (processConsumer streamFinalizerKey env key s).cluster

/-- **Everything one move can do**, with what it needs of the cluster it is made in. -/
inductive Move (s : Cluster) : Action → Cluster → Prop where
  | apply {key : ObjectKey} {spec : ConsumerSpec} {finalizers : List String} :
      s.consumers key = none →
      Move s (.apply key spec finalizers) (s.setObject key (.ofManifest spec finalizers))
  | edit {key : ObjectKey} {spec : ConsumerSpec} {c : Consumer} : s.consumers key = some c →
      Move s (.edit key spec) (s.setObject key (c.editSpec spec))
  | delete {key : ObjectKey} {now : Nat} {c : Consumer} : s.consumers key = some c →
      Move s (.delete key now) (s.setObject key (c.requestDeletion now))
  | remove {key : ObjectKey} {c : Consumer} : s.consumers key = some c →
      c.deletionTimestamp.isSome → c.finalizers = [] → Move s (.remove key) (s.removeObject key)
  | reconcileAbsent {key : ObjectKey} {env : Env} : s.consumers key = none →
      Move s (.reconcile key env) s
  | reconcile {key : ObjectKey} {env : Env} {c : Consumer} {after : Cluster} {ok : Bool} :
      s.consumers key = some c → Ending streamFinalizerKey env key c s ok after →
      Move s (.reconcile key env) after

theorem move_of_step {s t : Cluster} {a : Action} (stepped : step streamFinalizerKey s a = some t) :
    Move streamFinalizerKey s a t := by
  cases a with
  | apply key spec finalizers =>
    cases found : s.consumers key with
    | none =>
      simp only [step, found, Option.some.injEq] at stepped
      exact stepped ▸ .apply found
    | some _ => simp [step, found] at stepped
  | edit key spec =>
    cases found : s.consumers key with
    | none => simp [step, found] at stepped
    | some c =>
      simp only [step, found, Option.map_some', Option.some.injEq] at stepped
      exact stepped ▸ .edit found
  | delete key now =>
    cases found : s.consumers key with
    | none => simp [step, found] at stepped
    | some c =>
      simp only [step, found, Option.map_some', Option.some.injEq] at stepped
      exact stepped ▸ .delete found
  | remove key =>
    cases found : s.consumers key with
    | none => simp [step, found] at stepped
    | some c =>
      simp only [step, found] at stepped
      split at stepped
      · next removable => exact Option.some.inj stepped ▸ .remove found removable.1 removable.2
      · cases stepped
  | reconcile key env =>
    cases Option.some.inj stepped
    cases found : s.consumers key with
    | none => exact processConsumer_absent streamFinalizerKey env key found ▸ .reconcileAbsent found
    | some c => exact .reconcile found (processConsumer_ending streamFinalizerKey env key found).1

/-- The runs of the system from `s` whose every move `allowed` admits in the cluster it
is made in. -/
inductive Steps (allowed : Cluster → Action → Prop) (s : Cluster) : Cluster → Prop where
  | refl : Steps allowed s s
  | tail {t u : Cluster} (a : Action) : Steps allowed s t → allowed t a →
      step streamFinalizerKey t a = some u → Steps allowed s u

/-- A move made before a run. -/
theorem Steps.head {allowed : Cluster → Action → Prop} {s t u : Cluster} (a : Action)
    (admitted : allowed s a) (stepped : step streamFinalizerKey s a = some t)
    (rest : Steps streamFinalizerKey allowed t u) : Steps streamFinalizerKey allowed s u := by
  induction rest with
  | refl => exact Steps.refl.tail a admitted stepped
  | tail b _ admitted' stepped' run => exact run.tail b admitted' stepped'

/-- The moves `moves`, made one after another from `s`; `none` where one cannot be made. -/
def runMoves (s : Cluster) : List Action → Option Cluster
  | [] => some s
  | a :: moves => (step streamFinalizerKey s a).bind fun t => runMoves t moves

/-- The clusters that runs admitted by `allowed` reach from the empty one. -/
def Reachable (allowed : Cluster → Action → Prop) (s : Cluster) : Prop :=
  Steps streamFinalizerKey allowed .empty s

/-- Every move is admitted. -/
def anyMove (_ : Cluster) (_ : Action) : Prop := True

/-- Moves that can all be made one after another, each of which `admits`, are a run. -/
theorem Steps.of_runMoves (admits : Action → Prop) {t : Cluster} (s : Cluster)
    (moves : List Action) (admitted : ∀ a ∈ moves, admits a)
    (moved : runMoves streamFinalizerKey s moves = some t) :
    Steps streamFinalizerKey (fun _ a => admits a) s t := by
  induction moves generalizing s with
  | nil => exact Option.some.inj moved ▸ .refl
  | cons a moves run =>
    cases stepped : step streamFinalizerKey s a with
    | none => simp [runMoves, stepped] at moved
    | some next =>
      simp only [runMoves, stepped, Option.some_bind] at moved
      exact Steps.head streamFinalizerKey a (admitted a (.head _)) stepped
        (run next (fun b member => admitted b (.tail _ member)) moved)

/-- **The run lemma.** A property that every admitted move keeps holds all along a run. -/
theorem Steps.invariant {allowed : Cluster → Action → Prop} {Inv : Cluster → Prop}
    (preserved : ∀ {t a u}, allowed t a → Move streamFinalizerKey t a u → Inv t → Inv u)
    {s t : Cluster} (steps : Steps streamFinalizerKey allowed s t) (initial : Inv s) : Inv t := by
  induction steps with
  | refl => exact initial
  | tail _ _ admitted stepped holds =>
    exact preserved admitted (move_of_step streamFinalizerKey stepped) holds

end Moves

end Nack.Lifecycle
