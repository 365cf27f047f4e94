import Nack.Apis.Consumer
import Mathlib.Data.List.Nodup

/-!
Contract: the finalizer and condition helpers the consumer controller calls, the
constants it names, and Go's `%q` formatting of names in its messages.

Owns: `consumerFinalizerKey`; `addFinalizer`, `removeFinalizer`, `upsertCondition`
and `readyCondType`, which live outside src/ and are modelled from the spec
(section 4.3); the set laws of the finalizer helpers; the replace-or-append laws of
`upsertCondition`: it never yields two conditions of one type, and a second upsert of
one condition changes nothing.

Does not own: `streamFinalizerKey`, whose value is not under src/: the controller
takes it as a parameter.
-/

namespace Nack.Controllers.JetStream

open Nack.Apis

/-- `consumerFinalizerKey`, declared by the consumer controller. -/
def consumerFinalizerKey : String := "consumerfinalizer.jetstream.nats.io"

/-- Modelled from the spec: `readyCondType` is not under src/; the spec names the
condition `setConsumerOK` and `setConsumerErrored` write the `Ready` condition. -/
def readyCondType : String := "Ready"

/-- Modelled from the spec: `addFinalizer` is not under src/. Section 4.3: "add is a
no-op if already present"; otherwise the token is appended. -/
def addFinalizer (fs : List String) (key : String) : List String :=
  if key ∈ fs then fs else fs ++ [key]

/-- Modelled from the spec: `removeFinalizer` is not under src/. Section 4.3: "remove
drops all occurrences of the token, order-preserving for the remainder". -/
def removeFinalizer (fs : List String) (key : String) : List String :=
  fs.filter (· != key)

/-- Modelled from the spec: `upsertCondition` is not under src/. Section 4.3: "replace
the entry whose `Type` matches, else append". -/
def upsertCondition : List Condition → Condition → List Condition
  | [], next => [next]
  | c :: cs, next => if c.type = next.type then next :: cs else c :: upsertCondition cs next

/-! ## Finalizers -/

@[simp] theorem mem_addFinalizer {fs : List String} {key token : String} :
    token ∈ addFinalizer fs key ↔ token ∈ fs ∨ token = key := by
  unfold addFinalizer
  split
  · exact ⟨.inl, fun | .inl member => member | .inr rfl => ‹_›⟩
  · simp

theorem addFinalizer_of_mem {fs : List String} {key : String} (present : key ∈ fs) :
    addFinalizer fs key = fs := if_pos present

/-- Adding the token changes the list exactly where the token is missing. -/
theorem addFinalizer_eq_self {fs : List String} {key : String} :
    addFinalizer fs key = fs ↔ key ∈ fs := by
  unfold addFinalizer
  split
  · exact iff_of_true rfl ‹_›
  · exact iff_of_false (fun same => by simpa using congrArg List.length same) ‹_›

@[simp] theorem mem_removeFinalizer {fs : List String} {key token : String} :
    token ∈ removeFinalizer fs key ↔ token ∈ fs ∧ token ≠ key := by
  simp [removeFinalizer]

theorem removeFinalizer_of_not_mem {fs : List String} {key : String} (absent : key ∉ fs) :
    removeFinalizer fs key = fs :=
  List.filter_eq_self.mpr fun token member => by
    simpa using fun same : token = key => absent (same ▸ member)

/-- Removing the token changes the list exactly where the token is there. -/
theorem removeFinalizer_eq_self {fs : List String} {key : String} :
    removeFinalizer fs key = fs ↔ key ∉ fs :=
  ⟨fun same member => by
    have kept : key ∈ removeFinalizer fs key := by rw [same]; exact member
    simp at kept, removeFinalizer_of_not_mem⟩

@[simp] theorem removeFinalizer_removeFinalizer (fs : List String) (key : String) :
    removeFinalizer (removeFinalizer fs key) key = removeFinalizer fs key :=
  removeFinalizer_of_not_mem (by simp)

/-! ## Conditions -/

/-- **Replace or append.** The condition types after an upsert are the old ones, with
the new type appended only when it was absent. -/
theorem types_upsertCondition (cs : List Condition) (next : Condition) :
    (upsertCondition cs next).map (·.type) =
      if next.type ∈ cs.map (·.type) then cs.map (·.type)
      else cs.map (·.type) ++ [next.type] := by
  induction cs with
  | nil => simp [upsertCondition]
  | cons c cs inductionHypothesis =>
      by_cases replaces : c.type = next.type
      · simp [upsertCondition, replaces]
      · simp only [upsertCondition, replaces, if_false, List.map_cons, inductionHypothesis,
          List.mem_cons, Ne.symm replaces, false_or]
        split <;> rfl

/-- An upsert never produces two conditions of one type. -/
theorem nodup_types_upsertCondition {cs : List Condition} (next : Condition)
    (distinct : (cs.map (·.type)).Nodup) :
    ((upsertCondition cs next).map (·.type)).Nodup := by
  rw [types_upsertCondition]
  split
  · exact distinct
  · rename_i absent
    exact distinct.append (List.nodup_singleton _) (List.disjoint_singleton.mpr absent)

/-- The upserted condition is the one a lookup by its type finds. -/
theorem find?_upsertCondition (cs : List Condition) (next : Condition) :
    (upsertCondition cs next).find? (·.type == next.type) = some next := by
  induction cs with
  | nil => simp [upsertCondition]
  | cons c cs inductionHypothesis =>
      by_cases replaces : c.type = next.type <;>
        simp [upsertCondition, replaces, inductionHypothesis]

/-- **Upserting is idempotent**: a second upsert of the same condition changes nothing. -/
theorem upsertCondition_upsertCondition (cs : List Condition) (next : Condition) :
    upsertCondition (upsertCondition cs next) next = upsertCondition cs next := by
  induction cs with
  | nil => simp [upsertCondition]
  | cons c cs inductionHypothesis =>
      by_cases replaces : c.type = next.type <;>
        simp [upsertCondition, replaces, inductionHypothesis]

end Nack.Controllers.JetStream
