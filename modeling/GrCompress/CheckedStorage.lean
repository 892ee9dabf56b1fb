import Mathlib.Algebra.Order.Ring.Nat
import Mathlib.Data.List.Basic

/-!
# Heap arrays and queues with checked accesses

Storage of a program in a language that does not check its accesses. Here each
access is checked: what the language leaves undefined (a null pointer, an index
past the allocation, `front` of an empty queue, an overflowing signed product)
is a fault. A program that is shown not to fault is shown to stay within its
storage.
-/

namespace GrCompress.CheckedStorage

set_option autoImplicit false

inductive Fault where
  | nullPointer
  | outOfBounds
  | emptyQueue
  | signedOverflow
  | outOfFuel
  | exception (what : String)
  deriving DecidableEq, Repr

variable {State Cell : Type}

/-! ## Arrays -/

/-- A pointer that is null or holds the array it was allocated. -/
abbrev Buffer (Cell : Type) := Option (List Cell)

/-- `new` leaves the cells indeterminate. What an array starts with does not
matter to a program that reads only what it has written. -/
def allocate [Inhabited Cell] (size : Nat) : Buffer Cell := some (List.replicate size default)

def overwrite (array : List Cell) (offset : Nat) (cells : List Cell) : List Cell :=
  array.take offset ++ cells ++ array.drop (offset + cells.length)

def store (buffer : Buffer Cell) (offset : Nat) (cells : List Cell) :
    EStateM Fault State (Buffer Cell) :=
  match buffer with
  | none => throw .nullPointer
  | some array =>
      if offset + cells.length ≤ array.length then pure (some (overwrite array offset cells))
      else throw .outOfBounds

def load (buffer : Buffer Cell) (offset count : Nat) : EStateM Fault State (List Cell) :=
  match buffer with
  | none => throw .nullPointer
  | some array =>
      if offset + count ≤ array.length then pure ((array.drop offset).take count)
      else throw .outOfBounds

/-- Read one cell of an array. -/
def fetch (array : List Cell) (index : Nat) : EStateM Fault State Cell :=
  match array[index]? with
  | some cell => pure cell
  | none => throw .outOfBounds

/-- The window a callee is told it may write must lie within the allocation,
whatever the callee then writes. -/
def reserve (buffer : Buffer Cell) (offset capacity : Nat) : EStateM Fault State Unit :=
  match buffer with
  | none => throw .nullPointer
  | some array => if offset + capacity ≤ array.length then pure () else throw .outOfBounds

/-- An access of no cells that does not use its pointer, which may be null: a loop
that copies cell by cell, or a callee that is documented to accept this. `memcpy` and
`fread` are neither, since a null pointer is undefined there for no cells as well; their
accesses are `load` and `store` by themselves. -/
def unlessEmpty {Out : Type} (count : Nat) (skipped : Out) (access : EStateM Fault State Out) :
    EStateM Fault State Out :=
  if count = 0 then pure skipped else access

theorem length_overwrite {array cells : List Cell} {offset : Nat}
    (fits : offset + cells.length ≤ array.length) :
    (overwrite array offset cells).length = array.length := by
  simp only [overwrite, List.length_append, List.length_take, List.length_drop]
  omega

theorem take_overwrite {array cells : List Cell} {offset : Nat}
    (fits : offset + cells.length ≤ array.length) :
    (overwrite array offset cells).take (offset + cells.length) = array.take offset ++ cells := by
  rw [overwrite, List.take_left']
  simp only [List.length_append, List.length_take]
  omega

theorem take_overwrite_zero (array cells : List Cell) :
    (overwrite array 0 cells).take cells.length = cells := by
  simp [overwrite]

@[simp] theorem overwrite_nil (array : List Cell) : overwrite array 0 [] = array := by
  simp [overwrite]

/-- Writing what is there already changes nothing. -/
theorem overwrite_same {array : List Cell} {offset count : Nat}
    (fits : offset + count ≤ array.length) :
    overwrite array offset ((array.drop offset).take count) = array := by
  have length : ((array.drop offset).take count).length = count := by
    rw [List.length_take, List.length_drop]
    omega
  rw [overwrite, length, List.append_assoc, ← List.drop_drop, List.take_append_drop,
    List.take_append_drop]

@[simp] theorem store_some {array cells : List Cell} {offset : Nat}
    (fits : offset + cells.length ≤ array.length) (state : State) :
    (store (some array) offset cells).run state =
      .ok (some (overwrite array offset cells)) state := by
  simp [store, fits]

@[simp] theorem load_some {array : List Cell} {offset count : Nat}
    (fits : offset + count ≤ array.length) (state : State) :
    (load (some array) offset count).run state = .ok ((array.drop offset).take count) state := by
  simp [load, fits]

theorem load_outside {array : List Cell} {offset count : Nat}
    (outside : ¬offset + count ≤ array.length) (state : State) :
    (load (some array) offset count).run state = .error .outOfBounds state := by
  simp only [load, if_neg outside]
  rfl

@[simp] theorem fetch_run {array : List Cell} {index : Nat} (inside : index < array.length)
    (state : State) : (fetch array index).run state = .ok array[index] state := by
  simp [fetch, inside]

@[simp] theorem reserve_some {array : List Cell} {offset capacity : Nat}
    (fits : offset + capacity ≤ array.length) (state : State) :
    (reserve (some array) offset capacity).run state = .ok () state := by
  simp [reserve, fits]

theorem reserve_outside {array : List Cell} {offset capacity : Nat}
    (outside : ¬offset + capacity ≤ array.length) (state : State) :
    (reserve (some array) offset capacity).run state = .error .outOfBounds state := by
  simp only [reserve, if_neg outside]
  rfl

theorem unless_empty_run {Out : Type} {count : Nat} {skipped out : Out}
    {access : EStateM Fault State Out} {state : State} (ran : access.run state = .ok out state)
    (same : count = 0 → out = skipped) :
    (unlessEmpty count skipped access).run state = .ok out state := by
  unfold unlessEmpty
  split
  · rw [same ‹_›, EStateM.run_pure]
  · exact ran

/-! ## Arrays with a recorded size -/

/-- A pointer and the size the program remembers for it. -/
structure SizedBuffer (Cell : Type) where
  pointer : Buffer Cell
  size : Nat

def SizedBuffer.new [Inhabited Cell] (size : Nat) : SizedBuffer Cell where
  pointer := allocate size
  size := size

/-- Replace an array that is too small; its cells are not kept. -/
def SizedBuffer.grow [Inhabited Cell] (buffer : SizedBuffer Cell) (needed : Nat) :
    SizedBuffer Cell :=
  if buffer.size < needed then SizedBuffer.new needed else buffer

/-- Free the array, if there is one. -/
def SizedBuffer.release (buffer : SizedBuffer Cell) : SizedBuffer Cell :=
  if buffer.pointer.isSome then { pointer := none, size := 0 } else buffer

/-- The array is allocated and as large as recorded. -/
def SizedBuffer.Backed (buffer : SizedBuffer Cell) : Prop :=
  ∃ array, buffer.pointer = some array ∧ array.length = buffer.size

/-- The recorded size is that of the array, or 0 where there is none. -/
def SizedBuffer.Recorded (buffer : SizedBuffer Cell) : Prop :=
  (buffer.pointer.getD []).length = buffer.size

theorem recorded_of_backed {buffer : SizedBuffer Cell} (backed : buffer.Backed) :
    buffer.Recorded := by
  rcases backed with ⟨array, allocated, length⟩
  rw [SizedBuffer.Recorded, allocated, Option.getD_some, length]

theorem recorded_cases {buffer : SizedBuffer Cell} (recorded : buffer.Recorded) :
    buffer.Backed ∨ buffer = { pointer := none, size := 0 } := by
  rcases buffer with ⟨pointer, size⟩
  cases pointer with
  | none =>
      have freed : 0 = size := recorded
      exact .inr (by rw [freed])
  | some array => exact .inl ⟨array, rfl, recorded⟩

/-- A window beyond the recorded size is refused, whether there is an array or not. -/
theorem reserve_beyond {buffer : SizedBuffer Cell} (recorded : buffer.Recorded) {needed : Nat}
    (beyond : buffer.size < needed) (state : State) :
    ∃ fault, (reserve buffer.pointer 0 needed).run state = .error fault state := by
  rcases recorded_cases recorded with ⟨array, allocated, length⟩ | freed
  · rw [allocated]
    exact ⟨.outOfBounds, reserve_outside (by omega) state⟩
  · rw [freed]
    exact ⟨.nullPointer, rfl⟩

theorem release_recorded {buffer : SizedBuffer Cell} (recorded : buffer.Recorded) :
    buffer.release.Recorded := by
  unfold SizedBuffer.release
  split
  · rfl
  · exact recorded

theorem release_size_le (buffer : SizedBuffer Cell) : buffer.release.size ≤ buffer.size := by
  unfold SizedBuffer.release
  split
  · exact Nat.zero_le _
  · exact Nat.le_refl _

theorem new_backed [Inhabited Cell] (size : Nat) :
    (SizedBuffer.new size : SizedBuffer Cell).Backed := ⟨_, rfl, List.length_replicate⟩

theorem grow_backed [Inhabited Cell] {buffer : SizedBuffer Cell} (backed : buffer.Backed)
    (needed : Nat) : (buffer.grow needed).Backed := by
  unfold SizedBuffer.grow
  split
  · exact new_backed needed
  · exact backed

theorem grow_recorded [Inhabited Cell] {buffer : SizedBuffer Cell} (recorded : buffer.Recorded)
    (needed : Nat) : (buffer.grow needed).Recorded := by
  unfold SizedBuffer.grow
  split
  · exact recorded_of_backed (new_backed needed)
  · exact recorded

theorem grow_size [Inhabited Cell] (buffer : SizedBuffer Cell) (needed : Nat) :
    (buffer.grow needed).size = max buffer.size needed := by
  unfold SizedBuffer.grow
  split
  · simp only [SizedBuffer.new]
    omega
  · omega

/-- A buffer after a call that may have replaced or filled its array: as large as
recorded, and allocated if it was before. -/
structure SizedBuffer.Kept (before after : SizedBuffer Cell) : Prop where
  recorded : after.Recorded
  backed : before.Backed → after.Backed

theorem kept_refl {buffer : SizedBuffer Cell} (recorded : buffer.Recorded) :
    buffer.Kept buffer :=
  ⟨recorded, id⟩

theorem kept_trans {first second third : SizedBuffer Cell} (one : first.Kept second)
    (other : second.Kept third) : first.Kept third :=
  ⟨other.recorded, fun backed => other.backed (one.backed backed)⟩

theorem grow_kept [Inhabited Cell] {buffer : SizedBuffer Cell} (recorded : buffer.Recorded)
    (needed : Nat) : buffer.Kept (buffer.grow needed) :=
  ⟨grow_recorded recorded needed, fun backed => grow_backed backed needed⟩

variable (State) in
/-- Cells that are stored at the start of a buffer are loaded from there, and no cells
need no array. -/
theorem store_load_run {buffer : SizedBuffer Cell} (recorded : buffer.Recorded)
    {cells : List Cell} (fits : cells.length ≤ buffer.size) :
    ∃ pointer, buffer.Kept { pointer := pointer, size := buffer.size } ∧
      (∀ state : State, (unlessEmpty cells.length buffer.pointer
        (store buffer.pointer 0 cells)).run state = .ok pointer state) ∧
      ∀ state : State, (unlessEmpty cells.length []
        (load pointer 0 cells.length)).run state = .ok cells state := by
  rcases recorded_cases recorded with ⟨array, allocated, length⟩ | freed
  · have stored : 0 + cells.length ≤ array.length := by omega
    have written := length_overwrite stored
    have loaded : 0 + cells.length ≤ (overwrite array 0 cells).length := by omega
    have backed : SizedBuffer.Backed
        { pointer := some (overwrite array 0 cells), size := buffer.size } :=
      ⟨_, rfl, written.trans length⟩
    refine ⟨some (overwrite array 0 cells), ⟨recorded_of_backed backed, fun _ => backed⟩, ?_, ?_⟩
    · intro state
      apply unless_empty_run
      · rw [allocated]
        exact store_some stored state
      · intro empty
        rw [List.length_eq_zero_iff.1 empty, overwrite_nil, allocated]
    · intro state
      apply unless_empty_run
      · rw [load_some loaded, List.drop_zero, take_overwrite_zero]
      · exact List.length_eq_zero_iff.1
  · rw [freed] at fits ⊢
    have empty : cells = [] := List.length_eq_zero_iff.1 (Nat.le_zero.1 fits)
    subst empty
    refine ⟨none, ⟨rfl, ?_⟩, fun _ => rfl, fun _ => rfl⟩
    rintro ⟨array, allocated, _⟩
    cases allocated

/-! ## Queues -/

/-- `count` times `front` followed by `pop`. -/
def popFront : Nat → List Cell → EStateM Fault State (List Cell × List Cell)
  | 0, queue => pure ([], queue)
  | _ + 1, [] => throw .emptyQueue
  | count + 1, front :: queue => do
      let (popped, rest) ← popFront count queue
      return (front :: popped, rest)

@[simp] theorem pop_front_run {count : Nat} {queue : List Cell} (enough : count ≤ queue.length)
    (state : State) :
    (popFront count queue).run state = .ok (queue.take count, queue.drop count) state := by
  induction count generalizing queue with
  | zero => rfl
  | succ count induction =>
      cases queue with
      | nil => simp at enough
      | cons front queue =>
          have shorter : count ≤ queue.length := by simpa using enough
          simp only [popFront, EStateM.run_bind, induction shorter, EStateM.run_pure,
            List.take_succ_cons, List.drop_succ_cons]

/-! ## Signed arithmetic -/

/-- The product of two non-negative `int` values, in `int`. -/
def intProduct (left right : Nat) : EStateM Fault State Nat :=
  if left * right < 2 ^ 31 then pure (left * right) else throw .signedOverflow

@[simp] theorem int_product_fits {left right : Nat} (fits : left * right < 2 ^ 31)
    (state : State) : (intProduct left right).run state = .ok (left * right) state := by
  rw [intProduct, if_pos fits]
  rfl

theorem int_product_overflows {left right : Nat} (overflows : ¬left * right < 2 ^ 31)
    (state : State) : (intProduct left right).run state = .error .signedOverflow state := by
  rw [intProduct, if_neg overflows]
  rfl

end GrCompress.CheckedStorage
