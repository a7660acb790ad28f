import CsiOperator.Proofs.Starter.Overlap

/-! Calls that overlap ask the readers one call after another. -/

namespace CsiOperator.Starter

open Event
open scoped List

/-- A last element is matched by the last one of the longer list, or by an earlier one. -/
theorem sublist_concat_iff {α : Type} {xs ys : List α} {x y : α} :
    xs ++ [x] <+ ys ++ [y] ↔ xs ++ [x] <+ ys ∨ x = y ∧ xs <+ ys := by
  -- Read from the end, both lists begin with these elements.
  have longer : xs ++ [x] <+ ys ↔ (xs ++ [x]).reverse <+ ys.reverse := List.reverse_sublist.symm
  have shorter : xs <+ ys ↔ xs.reverse <+ ys.reverse := List.reverse_sublist.symm
  rw [← List.reverse_sublist, longer, shorter]
  simp only [List.reverse_append, List.reverse_singleton, List.singleton_append]
  exact List.cons_sublist_cons'

/-- No call has anything to do with readers in the midst of another one. -/
structure Apart (w : Crowd) : Prop where
  /-- Only calls that have got hold of the operator have anything to do with readers. -/
  inside : ∀ i ∈ readings w.log, i ∈ acquisitions w.log
  /-- No other call comes after the one that has got hold of the operator. -/
  latest : ∀ i j, w.holder = some i → i ≠ j → ¬ [i, j] <+ readings w.log
  /-- No other call comes in between. -/
  apart : ∀ i j, i ≠ j → ¬ [i, j, i] <+ readings w.log

namespace Apart

variable {w : Crowd}

/-- Nothing has happened before any call has begun. -/
theorem start (visits : Nat → Visit) (s : Starter) : Apart (Crowd.start visits s) :=
  ⟨by simp [Crowd.start, readings], by simp [Crowd.start], by simp [Crowd.start, readings]⟩

/-- What no reader takes part in changes nothing. -/
theorem note (kept : Apart w) {i : Nat} {event : Event} (unread : readings [(i, event)] = []) :
    Apart (w.note i event) := by
  -- The readings are the same as before.
  have log : readings (w.log ++ [(i, event)]) = readings w.log := by simp [unread]
  refine ⟨fun j member => ?_, ?_, ?_⟩
  · simp only [Crowd.note, log] at member
    simp [Crowd.note, kept.inside j member]
  · simpa only [Crowd.note, log] using kept.latest
  · simpa only [Crowd.note, log] using kept.apart

/-- The call that has got hold of the operator may ask a reader and get an answer. -/
theorem note_reading (kept : Apart w) {i : Nat} (holds : w.holder = some i)
    (acquired : i ∈ acquisitions w.log) {event : Event} (read : readings [(i, event)] = [i]) :
    Apart (w.note i event) := by
  -- The new reading stands at the end of the log, behind all others of the same call.
  have log : readings (w.log ++ [(i, event)]) = readings w.log ++ [i] := by simp [read]
  refine ⟨fun j member => ?_, fun j k held other => ?_, fun j k other => ?_⟩
  · simp only [Crowd.note, log, List.mem_append, List.mem_singleton] at member
    rcases member with before | rfl
    · simp [Crowd.note, kept.inside j before]
    · simp [Crowd.note, acquired]
  · -- The reading call is the one that holds the operator, so no other one comes after it.
    have same : j = i := by simpa [Crowd.note, holds] using held.symm
    subst same
    simp only [Crowd.note, log]
    rw [show [j, k] = [j] ++ [k] from rfl, sublist_concat_iff]
    rintro (before | ⟨rfl, -⟩)
    · exact kept.latest j k holds other before
    · exact other rfl
  · -- If it read before, nobody else has read since.
    simp only [Crowd.note, log]
    rw [show [j, k, j] = [j, k] ++ [j] from rfl, sublist_concat_iff]
    rintro (before | ⟨rfl, before⟩)
    · exact kept.apart j k other before
    · exact kept.latest j k holds other before

/-- A call that has not got hold of the operator before may get hold of it. -/
theorem take (kept : Apart w) {i : Nat} (never : i ∉ acquisitions w.log) :
    Apart { w with holder := some i } := by
  -- It has not read anything yet, so nobody can have read after it.
  refine ⟨kept.inside, fun j k held _ before => ?_, kept.apart⟩
  have same : i = j := by simpa using held
  subst same
  exact never (kept.inside i (before.subset (by simp)))

/-- The operator may become free, whatever has become of it. -/
theorem free (kept : Apart w) (starter : Starter) : Apart { w with starter, holder := none } :=
  ⟨kept.inside, by simp, kept.apart⟩

/-- What is left of the calls does not matter. -/
theorem suspend (kept : Apart w) (i : Nat) (rest : Routine Reply) : Apart (w.suspend i rest) :=
  ⟨kept.inside, kept.latest, kept.apart⟩

end Apart

end CsiOperator.Starter
