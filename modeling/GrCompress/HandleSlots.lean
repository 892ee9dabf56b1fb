import GrCompress.CallRuns
import GrCompress.OpenFiles

/-!
# Two slots of handles

An owner of files that keeps two handles: one in use and one opened ahead of it,
which a later step installs. Whatever the order of its operations, each handle
it has obtained is in use, is staged, or has been closed once.
-/

namespace GrCompress.HandleSlots

open GrCompress.CallRuns
open GrCompress.OpenFiles

set_option autoImplicit false

structure Slots where
  current : Option Nat
  staged : Option Nat
  handles : Handles
  deriving DecidableEq, Repr

def Slots.empty : Slots where
  current := none
  staged := none
  handles := .none

/-- Close the handle of a slot, if it holds one. -/
def closeSlot (slot : Option Nat) (handles : Handles) : Handles :=
  match slot with
  | none => handles
  | some descriptor => handles.close descriptor

/-! ## Operations -/

/-- Obtain a handle and stage it in place of the one staged before. -/
def Slots.stage (slots : Slots) : Slots :=
  { slots with
    staged := some slots.handles.next
    handles := closeSlot slots.staged slots.handles.obtain }

/-- Obtain a handle and give it up again; the one staged before is closed, too. -/
def Slots.stageFails (slots : Slots) : Slots :=
  { slots with
    staged := none
    handles := (closeSlot slots.staged slots.handles.obtain).close slots.handles.next }

def Slots.unstage (slots : Slots) : Slots :=
  { slots with staged := none, handles := closeSlot slots.staged slots.handles }

/-- Use the staged handle, or none, from now on. -/
def Slots.install (slots : Slots) : Slots where
  current := slots.staged
  staged := none
  handles := closeSlot slots.current slots.handles

/-- Close both. -/
def Slots.release (slots : Slots) : Slots where
  current := none
  staged := none
  handles := closeSlot slots.staged (closeSlot slots.current slots.handles)

/-! ## Linearity -/

/-- How often a handle has been closed or is held. -/
def Slots.tally (slots : Slots) (descriptor : Nat) : Nat :=
  slots.handles.closed.count descriptor + slots.current.toList.count descriptor +
    slots.staged.toList.count descriptor

/-- Every handle obtained, and no other, is closed or held, and this once. -/
def Slots.Linear (slots : Slots) : Prop :=
  ∀ descriptor, slots.tally descriptor = if descriptor < slots.handles.next then 1 else 0

@[simp] theorem close_slot_next (slot : Option Nat) (handles : Handles) :
    (closeSlot slot handles).next = handles.next := by
  cases slot <;> rfl

@[simp] theorem close_slot_count (slot : Option Nat) (handles : Handles) (descriptor : Nat) :
    (closeSlot slot handles).closed.count descriptor =
      handles.closed.count descriptor + slot.toList.count descriptor := by
  cases slot with
  | none => simp [closeSlot]
  | some held => simp [closeSlot, Handles.close]

@[simp] theorem close_next (handles : Handles) (descriptor : Nat) :
    (handles.close descriptor).next = handles.next := rfl

@[simp] theorem close_count (handles : Handles) (closed descriptor : Nat) :
    (handles.close closed).closed.count descriptor =
      handles.closed.count descriptor + [closed].count descriptor := by
  simp [Handles.close]

@[simp] theorem obtain_next (handles : Handles) : handles.obtain.next = handles.next + 1 := rfl

@[simp] theorem obtain_closed (handles : Handles) : handles.obtain.closed = handles.closed := rfl

/-- The handle obtained last is new; the others keep their place. -/
theorem obtained_count (next descriptor : Nat) :
    (if descriptor < next then 1 else 0) + [next].count descriptor =
      if descriptor < next + 1 then 1 else 0 := by
  by_cases new : next = descriptor
  · subst new
    simp
  · have same : descriptor < next + 1 ↔ descriptor < next := by omega
    simp [new, same]

theorem empty_linear : Slots.empty.Linear := by
  intro descriptor
  simp [Slots.tally, Slots.empty, Handles.none]

section Steps

variable {slots : Slots}

theorem stage_linear (linear : slots.Linear) : slots.stage.Linear := by
  intro descriptor
  have before := linear descriptor
  have obtained := obtained_count slots.handles.next descriptor
  simp only [Slots.tally, Slots.stage, close_slot_count, close_slot_next, obtain_next,
    obtain_closed, Option.toList_some] at before ⊢
  omega

theorem stage_fails_linear (linear : slots.Linear) : slots.stageFails.Linear := by
  intro descriptor
  have before := linear descriptor
  have obtained := obtained_count slots.handles.next descriptor
  simp only [Slots.tally, Slots.stageFails, close_slot_count, close_slot_next, close_count,
    close_next, obtain_next, obtain_closed, Option.toList_none, List.count_nil] at before ⊢
  omega

theorem unstage_linear (linear : slots.Linear) : slots.unstage.Linear := by
  intro descriptor
  have before := linear descriptor
  simp only [Slots.tally, Slots.unstage, close_slot_count, close_slot_next, Option.toList_none,
    List.count_nil] at before ⊢
  omega

theorem install_linear (linear : slots.Linear) : slots.install.Linear := by
  intro descriptor
  have before := linear descriptor
  simp only [Slots.tally, Slots.install, close_slot_count, close_slot_next, Option.toList_none,
    List.count_nil] at before ⊢
  omega

theorem release_linear (linear : slots.Linear) : slots.release.Linear := by
  intro descriptor
  have before := linear descriptor
  simp only [Slots.tally, Slots.release, close_slot_count, close_slot_next, Option.toList_none,
    List.count_nil] at before ⊢
  omega

/-- What an operation of the owner can do to the slots. -/
inductive Slots.Step (slots : Slots) : Slots → Prop where
  | keep : Step slots slots
  | stage : Step slots slots.stage
  | stageFails : Step slots slots.stageFails
  | unstage : Step slots slots.unstage
  | install : Step slots slots.install
  | release : Step slots slots.release

theorem step_linear {after : Slots} (step : slots.Step after) (linear : slots.Linear) :
    after.Linear := by
  cases step with
  | keep => exact linear
  | stage => exact stage_linear linear
  | stageFails => exact stage_fails_linear linear
  | unstage => exact unstage_linear linear
  | install => exact install_linear linear
  | release => exact release_linear linear

end Steps

/-! ## What linearity says -/

/-- The handle has been obtained and not been closed. -/
def StillOpen (handles : Handles) (descriptor : Nat) : Prop :=
  descriptor < handles.next ∧ descriptor ∉ handles.closed

/-- Each slot is empty or holds an open handle of its own; the handles in
neither have each been closed once. -/
structure Slots.Owns (slots : Slots) : Prop where
  current : ∀ descriptor, slots.current = some descriptor → StillOpen slots.handles descriptor
  staged : ∀ descriptor, slots.staged = some descriptor → StillOpen slots.handles descriptor
  distinct : ∀ descriptor, slots.current = some descriptor → slots.staged ≠ some descriptor
  others : ∀ descriptor < slots.handles.next, slots.current ≠ some descriptor →
    slots.staged ≠ some descriptor → slots.handles.closed.count descriptor = 1

/-- Each handle obtained, and no other, has been closed, and this once. -/
def ClosedOnce (handles : Handles) : Prop :=
  ∀ descriptor, handles.closed.count descriptor = if descriptor < handles.next then 1 else 0

theorem count_slot_held {slot : Option Nat} {descriptor : Nat} (held : slot = some descriptor) :
    slot.toList.count descriptor = 1 := by
  rw [held]
  simp

theorem count_slot_other {slot : Option Nat} {descriptor : Nat} (other : slot ≠ some descriptor) :
    slot.toList.count descriptor = 0 := by
  apply List.count_eq_zero_of_not_mem
  simpa using other

/-- A handle held once has been obtained and not been closed. -/
theorem still_open_of_held {slots : Slots} (linear : slots.Linear) {descriptor : Nat}
    (held : 1 ≤ slots.current.toList.count descriptor + slots.staged.toList.count descriptor) :
    StillOpen slots.handles descriptor := by
  have tally := linear descriptor
  unfold Slots.tally at tally
  constructor
  · by_contra beyond
    rw [if_neg beyond] at tally
    omega
  · rw [← List.count_eq_zero]
    split at tally <;> omega

theorem owns_of_linear {slots : Slots} (linear : slots.Linear) : slots.Owns := by
  constructor
  · intro descriptor held
    apply still_open_of_held linear
    rw [count_slot_held held]
    omega
  · intro descriptor held
    apply still_open_of_held linear
    rw [count_slot_held held]
    omega
  · intro descriptor held alsoHeld
    have tally := linear descriptor
    rw [Slots.tally, count_slot_held held, count_slot_held alsoHeld] at tally
    split at tally <;> omega
  · intro descriptor obtained notCurrent notStaged
    have tally := linear descriptor
    rw [Slots.tally, count_slot_other notCurrent, count_slot_other notStaged, if_pos obtained]
      at tally
    exact tally

/-- An owner of nothing has closed everything. -/
theorem closed_once_of_linear {slots : Slots} (linear : slots.Linear)
    (noCurrent : slots.current = none) (noStaged : slots.staged = none) :
    ClosedOnce slots.handles := by
  intro descriptor
  have tally := linear descriptor
  rw [Slots.tally, noCurrent, noStaged] at tally
  simpa using tally

/-! ## Lifetimes -/

section Lifetimes

variable {Failure State Op : Type}

/-- An owner that is not constructed has closed its handles. One that is owns
its slots after any calls, and its destructor closes what is left. -/
def UsedLinearly (slots : State → Slots) (start : State) (construct : EStateM Failure State Unit)
    (call : Op → EStateM Failure State Unit) (destroy : EStateM Failure State Unit) : Prop :=
  match construct.run start with
  | .error _ stopped => ClosedOnce (slots stopped).handles
  | .ok _ made => ∀ ops, (slots (leaveAll call made ops)).Owns ∧
      ∃ after, destroy.run (leaveAll call made ops) = .ok () after ∧
        ClosedOnce (slots after).handles

theorem leave_all_linear {slots : State → Slots} {call : Op → EStateM Failure State Unit}
    (steps : ∀ state op, (slots state).Step (slots (leave call state op))) {start : State}
    (linear : (slots start).Linear) (ops : List Op) :
    (slots (leaveAll call start ops)).Linear := by
  apply leave_all_invariant call (fun _ => True) (fun state => (slots state).Linear)
  · intro before op _ held
    exact step_linear (steps before op) held
  · intro op _
    trivial
  · exact linear

/-- Construction leaves linear slots, or fails with everything closed. -/
def ConstructsLinear (slots : State → Slots) (start : State)
    (construct : EStateM Failure State Unit) : Prop :=
  (∃ made, construct.run start = .ok () made ∧ (slots made).Linear) ∨
    ∃ failure stopped, construct.run start = .error failure stopped ∧
      ClosedOnce (slots stopped).handles

theorem used_linearly {slots : State → Slots} {start : State}
    {construct : EStateM Failure State Unit} {call : Op → EStateM Failure State Unit}
    {destroy : EStateM Failure State Unit} (constructs : ConstructsLinear slots start construct)
    (steps : ∀ state op, (slots state).Step (slots (leave call state op)))
    (destroyed : ∀ state, (slots state).Linear →
      ∃ after, destroy.run state = .ok () after ∧ ClosedOnce (slots after).handles) :
    UsedLinearly slots start construct call destroy := by
  unfold UsedLinearly
  rcases constructs with ⟨made, constructed, linear⟩ | ⟨failure, stopped, failed, closed⟩
  · rw [constructed]
    intro ops
    have reached := leave_all_linear steps linear ops
    exact ⟨owns_of_linear reached, destroyed _ reached⟩
  · rw [failed]
    exact closed

end Lifetimes

end GrCompress.HandleSlots
