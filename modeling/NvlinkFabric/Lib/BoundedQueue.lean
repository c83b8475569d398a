import Mathlib.Data.List.DropRight

/-!
# Bounded queues

A bounded log appends at the back and drops one element at the front whenever
the append exceeded its bound.  The bound is re-established only if it held
before the append, which is what makes it an invariant rather than a check.
-/

universe u

namespace BoundedQueue

variable {α : Type u}

/-- Append `value` and drop the oldest element if the queue became too long. -/
def push (bound : Nat) (queue : List α) (value : α) : List α :=
  let extended := queue ++ [value]
  if extended.length > bound then extended.tail else extended

theorem length_push_le {bound : Nat} {queue : List α} (bounded : queue.length ≤ bound)
    (value : α) : (push bound queue value).length ≤ bound := by
  simp only [push]
  split
  next long => simpa using bounded
  next short => omega

theorem mem_of_mem_push {bound : Nat} {queue : List α} {value element : α}
    (member : element ∈ push bound queue value) : element ∈ queue ∨ element = value := by
  have extended : element ∈ queue ++ [value] := by
    simp only [push] at member
    split at member
    · exact List.mem_of_mem_tail member
    · exact member
  simpa using extended

/-- A bound that admits an element keeps the pushed one at the back. -/
theorem getLast?_push {bound : Nat} (positive : 1 ≤ bound) (queue : List α) (value : α) :
    (push bound queue value).getLast? = some value := by
  simp only [push]
  split
  next long =>
    cases queue with
    | nil =>
        simp only [List.nil_append, List.length_singleton] at long
        omega
    | cons first rest => simp
  next short => simp

/-- Unless the bound is zero the last element is the pushed one, and then there is
none. -/
theorem eq_of_getLast?_push {bound : Nat} {queue : List α} {value last : α}
    (found : (push bound queue value).getLast? = some last) : last = value := by
  simp only [push] at found
  split at found
  · cases queue with
    | nil => simp at found
    | cons first rest => simpa [eq_comm] using found
  · simpa [eq_comm] using found

/-- A queue that holds the end of a log holds the end of the extended log after a push. -/
theorem push_rtake (bound : Nat) (log : List α) (value : α) :
    push bound (log.rtake bound) value = (log ++ [value]).rtake bound := by
  cases bound with
  | zero => simp [push]
  | succ bound =>
      rw [List.rtake_concat_succ]
      simp only [push, List.rtake, List.length_append, List.length_drop,
        List.length_singleton]
      by_cases full : bound < log.length
      · rw [if_pos (by omega), List.tail_append_of_ne_nil (by simp; omega),
          List.tail_drop]
        congr 2
        omega
      · rw [if_neg (by omega)]
        congr 2
        omega

/-- A list that stays the same when it is shifted repeats the new element. -/
theorem append_eq_cons_iff (first : α) (rest : List α) (value : α) :
    rest ++ [value] = first :: rest ↔ first = value ∧
      ∀ element ∈ rest, element = value := by
  induction rest generalizing first with
  | nil => simp [eq_comm]
  | cons second rest ih =>
      simp only [List.cons_append, List.cons.injEq, ih second, List.forall_mem_cons]
      constructor
      · intro ⟨same, new, others⟩
        exact ⟨same ▸ new, new, others⟩
      · intro ⟨same, new, others⟩
        exact ⟨new.trans same.symm, new, others⟩

/-- A push that leaves the queue as it was displaces an element equal to the new one,
in a queue of nothing else. -/
theorem push_eq_self_iff {bound : Nat} {queue : List α} {value : α} :
    push bound queue value = queue ↔
      bound ≤ queue.length ∧ ∀ element ∈ queue, element = value := by
  simp only [push, List.length_append, List.length_singleton]
  by_cases full : bound ≤ queue.length
  · rw [if_pos (by omega)]
    cases queue with
    | nil => simpa using full
    | cons first rest =>
        rw [List.cons_append, List.tail_cons, append_eq_cons_iff, List.forall_mem_cons]
        simp only [full, true_and]
  · rw [if_neg (by omega)]
    simp [full]

end BoundedQueue
