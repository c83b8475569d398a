import Mathlib.Data.List.Basic

/-!
# Messages on a stream that is cut short

A sender writes encodings one after the other, and only a part of the stream
arrives.  `complete` are the messages whose encodings arrive whole.
-/

universe u v

namespace Framing

variable {μ : Type u} {β : Type v} (encode : μ → List β)

/-- The encodings of the messages, one after the other. -/
def stream (messages : List μ) : List β := (messages.map encode).flatten

/-- The messages whose encodings lie in the first `size` elements of the stream. -/
def complete : Nat → List μ → List μ
  | _, [] => []
  | size, message :: messages =>
      if (encode message).length ≤ size then
        message :: complete (size - (encode message).length) messages
      else []

@[simp] theorem stream_nil : stream encode [] = [] := rfl

@[simp] theorem stream_cons (message : μ) (messages : List μ) :
    stream encode (message :: messages) = encode message ++ stream encode messages := rfl

theorem stream_append (first second : List μ) :
    stream encode (first ++ second) = stream encode first ++ stream encode second := by
  simp [stream]

variable {encode}

/-- Messages that arrived whole are complete, and what follows them is what the rest
of the stream makes complete. -/
theorem complete_append (delivered remaining : List μ) (size : Nat) :
    complete encode ((stream encode delivered).length + size) (delivered ++ remaining) =
      delivered ++ complete encode size remaining := by
  induction delivered with
  | nil => simp
  | cons message delivered ih =>
      have fits : (encode message).length ≤
          (stream encode (message :: delivered)).length + size := by
        simp only [stream_cons, List.length_append]
        omega
      have left : (stream encode (message :: delivered)).length + size -
          (encode message).length = (stream encode delivered).length + size := by
        simp only [stream_cons, List.length_append]
        omega
      rw [List.cons_append, complete, if_pos fits, left, ih, List.cons_append]

theorem complete_cut {message : μ} {size : Nat} (cut : size < (encode message).length)
    (messages : List μ) : complete encode size (message :: messages) = [] := by
  rw [complete, if_neg (by omega)]

end Framing
