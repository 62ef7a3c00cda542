/-
A FIFO of work items that are each in the queue at most once.  An item leaves
the queue when its handler runs, so an item that is submitted while it runs is
queued again, and one that is submitted while it waits is not.
-/
import Mathlib.Data.List.Basic
import Mathlib.Logic.Function.Iterate

universe u

/-- The items that wait, and those whose handlers have run, oldest first. -/
structure WorkQueue (α : Type u) where
  queue : List α
  executed : List α
deriving DecidableEq, Repr

namespace WorkQueue

variable {α : Type u}

def empty : WorkQueue α := ⟨[], []⟩

def submit [DecidableEq α] (item : α) (q : WorkQueue α) : WorkQueue α :=
  if q.queue.contains item then q
  else { q with queue := q.queue ++ [item] }

def execute (q : WorkQueue α) : WorkQueue α :=
  match q.queue with
  | [] => q
  | item :: rest => ⟨rest, q.executed ++ [item]⟩

/-- What has run and what will run if nothing more is submitted. -/
def trace (q : WorkQueue α) : List α :=
  q.executed ++ q.queue

/-- The queue once everything in it has run. -/
def drain (q : WorkQueue α) : WorkQueue α :=
  ⟨[], q.trace⟩

theorem drain_executed (q : WorkQueue α) : q.drain.executed = q.trace := rfl

theorem execute_trace (q : WorkQueue α) : q.execute.trace = q.trace := by
  rcases q with ⟨queue, executed⟩
  cases queue with
  | nil => rfl
  | cons item rest => simp [execute, trace]

theorem submit_trace_of_idle [DecidableEq α] {item : α} {q : WorkQueue α}
    (h : item ∉ q.queue) : (q.submit item).trace = q.trace ++ [item] := by
  have hidle : ¬ q.queue.contains item = true := by simpa using h
  simp only [submit, if_neg hidle, trace, List.append_assoc]

theorem submit_of_queued [DecidableEq α] {item : α} {q : WorkQueue α}
    (h : item ∈ q.queue) : q.submit item = q := by
  have hqueued : q.queue.contains item = true := by simpa using h
  simp only [submit, if_pos hqueued]

/-- The handlers run one after the other until the queue is empty. -/
theorem iterate_execute (q : WorkQueue α) :
    execute^[q.queue.length] q = q.drain := by
  rcases q with ⟨queue, executed⟩
  induction queue generalizing executed with
  | nil => simp [drain, trace]
  | cons item rest ih =>
      rw [List.length_cons, Function.iterate_succ_apply, execute, ih]
      simp [drain, trace]

end WorkQueue
