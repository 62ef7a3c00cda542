/-
A queue of bounded capacity: what its operations have to do, said by the list of
what it holds, and the queue that is this list.
-/
import Mathlib.Data.List.Basic

namespace BoundedQueue

universe u v

/-- The operations of a queue.  `put` returns how many items it has taken, `get`
those it has removed, at most as many as asked for. -/
structure Ops (Q : Type u) (A : Type v) where
  empty : Q
  space : Q → Nat
  put : Q → List A → Q × Nat
  get : Q → Nat → Q × List A

variable {Q : Type u} {A : Type v}

/-- The operations do to `content`, what a queue holds with the oldest first,
what a FIFO of this capacity does: `put` takes from the front of its argument
what there is space for. -/
structure IsFifo (ops : Ops Q A) (capacity : Nat) (content : Q → List A) :
    Prop where
  content_empty : content ops.empty = []
  length_add_space : ∀ q, (content q).length + ops.space q = capacity
  put_taken : ∀ q items, (ops.put q items).2 = min items.length (ops.space q)
  content_put : ∀ q items, content (ops.put q items).1 =
    content q ++ items.take (ops.put q items).2
  get_removed : ∀ q n, (ops.get q n).2 = (content q).take n
  content_get : ∀ q n, content (ops.get q n).1 = (content q).drop n

section Rules

variable {ops : Ops Q A} {capacity : Nat} {content : Q → List A}

/-- What there is space for is taken whole. -/
theorem IsFifo.put_of_le (h : IsFifo ops capacity content) {q : Q}
    {items : List A} (hle : items.length ≤ ops.space q) :
    (ops.put q items).2 = items.length ∧
      content (ops.put q items).1 = content q ++ items := by
  have htaken : (ops.put q items).2 = items.length := by
    rw [h.put_taken, Nat.min_eq_left hle]
  refine ⟨htaken, ?_⟩
  rw [h.content_put, htaken, List.take_length]

/-- What is removed is what is missing afterwards. -/
theorem IsFifo.get_append (h : IsFifo ops capacity content) (q : Q) (n : Nat) :
    (ops.get q n).2 ++ content (ops.get q n).1 = content q := by
  rw [h.get_removed, h.content_get, List.take_append_drop]

/-- Nothing is removed only from an empty queue. -/
theorem IsFifo.content_eq_nil (h : IsFifo ops capacity content) {q : Q} {n : Nat}
    (hn : 0 < n) (hnone : (ops.get q n).2.length = 0) : content q = [] := by
  rw [h.get_removed, List.length_take] at hnone
  apply List.eq_nil_of_length_eq_zero
  omega

end Rules

/-- The queue that is the list of what it holds. -/
structure Queue (A : Type v) (capacity : Nat) where
  items : List A
  length_le : items.length ≤ capacity

namespace Queue

variable {capacity : Nat}

def space (q : Queue A capacity) : Nat :=
  capacity - q.items.length

def put (q : Queue A capacity) (items : List A) : Queue A capacity × Nat :=
  (⟨q.items ++ items.take q.space, by
    have hle := q.length_le
    rw [List.length_append, List.length_take, space]
    omega⟩, min items.length q.space)

def get (q : Queue A capacity) (n : Nat) : Queue A capacity × List A :=
  (⟨q.items.drop n, by
    have hle := q.length_le
    rw [List.length_drop]
    omega⟩, q.items.take n)

def ops (A : Type v) (capacity : Nat) : Ops (Queue A capacity) A where
  empty := ⟨[], Nat.zero_le capacity⟩
  space := space
  put := put
  get := get

theorem ops_isFifo (A : Type v) (capacity : Nat) :
    IsFifo (ops A capacity) capacity items := by
  constructor
  · rfl
  · intro q
    exact Nat.add_sub_of_le q.length_le
  · intro q items
    rfl
  · intro q items
    change q.items ++ items.take q.space =
      q.items ++ items.take (min items.length q.space)
    rw [Nat.min_comm, ← List.take_take, List.take_length]
  · intro q n
    rfl
  · intro q n
    rfl

end Queue

end BoundedQueue
