import Mathlib.Data.List.Basic

/-!
# Batching with a threshold

Chunks are collected until at least `threshold` cells are pending; then all of
them leave as one batch. The batches and what is still pending are always the
input, in order. How much is pending is a function of the chunk lengths alone.
-/

namespace GrCompress.ThresholdBatching

set_option autoImplicit false

variable {Cell : Type}

/-- What one chunk does: the batch it completes, if any, and what is pending then. -/
def push (threshold : Nat) (pending chunk : List Cell) : List (List Cell) × List Cell :=
  if threshold ≤ (pending ++ chunk).length then ([pending ++ chunk], [])
  else ([], pending ++ chunk)

def batch (threshold : Nat) : List Cell → List (List Cell) → List (List Cell) × List Cell
  | pending, [] => ([], pending)
  | pending, chunk :: chunks =>
      let (emitted, next) := push threshold pending chunk
      let (later, final) := batch threshold next chunks
      (emitted ++ later, final)

theorem push_reaches {threshold : Nat} {pending chunk : List Cell}
    (reaches : threshold ≤ pending.length + chunk.length) :
    push threshold pending chunk = ([pending ++ chunk], []) := by
  rw [push, if_pos (by simpa using reaches)]

theorem push_below {threshold : Nat} {pending chunk : List Cell}
    (below : pending.length + chunk.length < threshold) :
    push threshold pending chunk = ([], pending ++ chunk) := by
  rw [push, if_neg (by simpa using below)]

theorem push_conserves (threshold : Nat) (pending chunk : List Cell) :
    (push threshold pending chunk).1.flatten ++ (push threshold pending chunk).2 =
      pending ++ chunk := by
  unfold push
  split <;> simp

theorem batch_conserves (threshold : Nat) (pending : List Cell) (chunks : List (List Cell)) :
    (batch threshold pending chunks).1.flatten ++ (batch threshold pending chunks).2 =
      pending ++ chunks.flatten := by
  induction chunks generalizing pending with
  | nil => simp [batch]
  | cons chunk chunks induction =>
      have stepped := push_conserves threshold pending chunk
      simp only [batch, List.flatten_append, List.append_assoc, induction, List.flatten_cons]
      rw [← List.append_assoc, stepped, List.append_assoc]

theorem batch_append (threshold : Nat) (pending : List Cell) (first second : List (List Cell)) :
    batch threshold pending (first ++ second) =
      ((batch threshold pending first).1 ++
          (batch threshold (batch threshold pending first).2 second).1,
        (batch threshold (batch threshold pending first).2 second).2) := by
  induction first generalizing pending with
  | nil => simp [batch]
  | cons chunk first induction => simp [batch, induction]

theorem batch_snoc (threshold : Nat) (pending : List Cell) (chunks : List (List Cell))
    (chunk : List Cell) :
    batch threshold pending (chunks ++ [chunk]) =
      ((batch threshold pending chunks).1 ++
          (push threshold (batch threshold pending chunks).2 chunk).1,
        (push threshold (batch threshold pending chunks).2 chunk).2) := by
  simp [batch_append, batch]

/-! ## Lengths -/

def pushLength (threshold pending chunk : Nat) : Nat :=
  if threshold ≤ pending + chunk then 0 else pending + chunk

def pendingLength (threshold : Nat) (pending : Nat) (chunks : List Nat) : Nat :=
  chunks.foldl (pushLength threshold) pending

theorem push_length (threshold : Nat) (pending chunk : List Cell) :
    (push threshold pending chunk).2.length =
      pushLength threshold pending.length chunk.length := by
  simp only [push, pushLength, List.length_append]
  split <;> simp

theorem batch_pending_length (threshold : Nat) (pending : List Cell)
    (chunks : List (List Cell)) :
    (batch threshold pending chunks).2.length =
      pendingLength threshold pending.length (chunks.map List.length) := by
  induction chunks generalizing pending with
  | nil => rfl
  | cons chunk chunks induction =>
      simp only [batch, induction, push_length, pendingLength, List.map_cons, List.foldl_cons]

theorem push_divides {unit threshold : Nat} {pending chunk : List Cell}
    (pendingUnits : unit ∣ pending.length) (chunkUnits : unit ∣ chunk.length) :
    unit ∣ (push threshold pending chunk).2.length := by
  rw [push_length, pushLength]
  split
  · exact Nat.dvd_zero unit
  · exact Nat.dvd_add pendingUnits chunkUnits

/-- Chunks of whole units leave whole units pending. -/
theorem batch_divides {unit threshold : Nat} {pending : List Cell} {chunks : List (List Cell)}
    (pendingUnits : unit ∣ pending.length) (units : ∀ chunk ∈ chunks, unit ∣ chunk.length) :
    unit ∣ (batch threshold pending chunks).2.length := by
  induction chunks generalizing pending with
  | nil => exact pendingUnits
  | cons chunk chunks induction =>
      exact induction (push_divides pendingUnits (units chunk (by simp)))
        (fun other member => units other (by simp [member]))

end GrCompress.ThresholdBatching
