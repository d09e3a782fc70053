import Mathlib.Data.List.Basic

/-!
# Bounded queues

A queue of at most `depth` items, sent to at the back and received from at the front.  The bound
is part of the value, so no operation can exceed it; sending to a full queue changes nothing.
-/

structure BoundedQueue (α : Type*) (depth : ℕ) where
  items : List α
  fits : items.length ≤ depth

namespace BoundedQueue

variable {α : Type*} {depth : ℕ}

def empty : BoundedQueue α depth := ⟨[], Nat.zero_le _⟩

def isFull (q : BoundedQueue α depth) : Bool := q.items.length = depth

def send (q : BoundedQueue α depth) (x : α) : BoundedQueue α depth :=
  if h : q.items.length < depth then
    ⟨q.items ++ [x], by rw [List.length_append, List.length_singleton]; omega⟩
  else q

/-- The queue without its front item; an empty queue stays as it is. -/
def dropFront (q : BoundedQueue α depth) : BoundedQueue α depth :=
  ⟨q.items.tail, by rw [List.length_tail]; have := q.fits; omega⟩

def front (q : BoundedQueue α depth) : Option α := q.items.head?

@[simp] theorem dropFront_items (q : BoundedQueue α depth) :
    q.dropFront.items = q.items.tail := rfl

theorem isFull_iff (q : BoundedQueue α depth) : q.isFull = true ↔ q.items.length = depth := by
  simp [isFull]

theorem send_items {q : BoundedQueue α depth} {x : α} (h : q.items.length < depth) :
    (q.send x).items = q.items ++ [x] := by simp [send, h]

theorem items_of_front {q : BoundedQueue α depth} {x : α} (h : q.front = some x) :
    q.items = x :: q.items.tail := by
  cases hi : q.items with
  | nil => simp [front, hi] at h
  | cons y ys =>
    simp only [front, hi, List.head?_cons, Option.some.injEq] at h
    rw [h, List.tail_cons]

end BoundedQueue
