import Mathlib.Data.List.Basic

/-!
# Length-prefixed framing

A stream is cut into frames: a header of fixed width, which determines the
length of the body that follows it. The alphabet, the header width and the
length function are arbitrary. A frame carries the two length facts, so an
incomplete frame cannot be built.

The law everything rests on is `drain_append`: cutting a stream into frames may
be interrupted anywhere and resumed from the unfinished tail. It makes every
incremental reader independent of how its input arrives.
-/

namespace GrCompress.LengthFraming

set_option autoImplicit false

structure Framing (Cell : Type) where
  headerWidth : Nat
  headerWidth_pos : 0 < headerWidth
  bodyLength : List Cell → Nat

variable {Cell : Type}

structure Frame (framing : Framing Cell) where
  header : List Cell
  body : List Cell
  header_length : header.length = framing.headerWidth
  body_length : body.length = framing.bodyLength header

variable {framing : Framing Cell}

def Frame.cells (frame : Frame framing) : List Cell := frame.header ++ frame.body

def encodeFrames (frames : List (Frame framing)) : List Cell := (frames.map Frame.cells).flatten

@[simp] theorem encode_frames_nil : encodeFrames ([] : List (Frame framing)) = [] := rfl

@[simp] theorem encode_frames_cons (frame : Frame framing) (frames : List (Frame framing)) :
    encodeFrames (frame :: frames) = frame.cells ++ encodeFrames frames := rfl

@[simp] theorem encode_frames_append (first second : List (Frame framing)) :
    encodeFrames (first ++ second) = encodeFrames first ++ encodeFrames second := by
  simp [encodeFrames]

/-- The first frame of a stream, if all of it has arrived. -/
def splitFrame (framing : Framing Cell) (stream : List Cell) :
    Option (Frame framing × List Cell) :=
  if headerArrived : framing.headerWidth ≤ stream.length then
    let header := stream.take framing.headerWidth
    let afterHeader := stream.drop framing.headerWidth
    if bodyArrived : framing.bodyLength header ≤ afterHeader.length then
      some (⟨header, afterHeader.take (framing.bodyLength header),
        List.length_take_of_le headerArrived, List.length_take_of_le bodyArrived⟩,
        afterHeader.drop (framing.bodyLength header))
    else none
  else none

theorem split_frame_eq_some {stream rest : List Cell} {frame : Frame framing}
    (split : splitFrame framing stream = some (frame, rest)) : stream = frame.cells ++ rest := by
  simp only [splitFrame] at split
  split_ifs at split with headerArrived bodyArrived
  rw [Option.some.injEq, Prod.mk.injEq] at split
  rcases split with ⟨rfl, rfl⟩
  simp only [Frame.cells, List.append_assoc, List.take_append_drop]

theorem split_frame_cells (frame : Frame framing) (rest : List Cell) :
    splitFrame framing (frame.cells ++ rest) = some (frame, rest) := by
  rcases frame with ⟨header, body, headerLength, bodyLength⟩
  have takeHeader : (header ++ (body ++ rest)).take framing.headerWidth = header :=
    List.take_left' headerLength
  have dropHeader : (header ++ (body ++ rest)).drop framing.headerWidth = body ++ rest :=
    List.drop_left' headerLength
  simp only [splitFrame, Frame.cells, List.append_assoc, takeHeader, dropHeader]
  rw [dif_pos (by simp only [List.length_append]; omega),
    dif_pos (by simp only [List.length_append]; omega)]
  simp only [List.take_left' bodyLength, List.drop_left' bodyLength]

theorem split_frame_append {stream rest : List Cell} {frame : Frame framing}
    (split : splitFrame framing stream = some (frame, rest)) (more : List Cell) :
    splitFrame framing (stream ++ more) = some (frame, rest ++ more) := by
  rw [split_frame_eq_some split, List.append_assoc, split_frame_cells]

theorem split_frame_shorter {stream rest : List Cell} {frame : Frame framing}
    (split : splitFrame framing stream = some (frame, rest)) : rest.length < stream.length := by
  have width := framing.headerWidth_pos
  rw [split_frame_eq_some split, Frame.cells, List.length_append, List.length_append,
    frame.header_length]
  omega

theorem split_frame_none_of_short {stream : List Cell}
    (short : stream.length < framing.headerWidth) : splitFrame framing stream = none := by
  rw [splitFrame, dif_neg (by omega)]

/-- A complete header whose body has not arrived is no frame yet. -/
theorem split_frame_none_of_body {header arrived : List Cell}
    (width : header.length = framing.headerWidth)
    (short : arrived.length < framing.bodyLength header) :
    splitFrame framing (header ++ arrived) = none := by
  have takeHeader : (header ++ arrived).take framing.headerWidth = header :=
    List.take_left' width
  have dropHeader : (header ++ arrived).drop framing.headerWidth = arrived :=
    List.drop_left' width
  simp only [splitFrame, takeHeader, dropHeader]
  split_ifs <;> first | rfl | omega

/-- A stream with a header and no frame has too short a body. -/
theorem body_short_of_split_frame_none {stream : List Cell}
    (headerArrived : framing.headerWidth ≤ stream.length)
    (split : splitFrame framing stream = none) :
    (stream.drop framing.headerWidth).length <
      framing.bodyLength (stream.take framing.headerWidth) := by
  simp only [splitFrame, dif_pos headerArrived] at split
  split_ifs at split with bodyArrived
  omega

/-! ## Draining a stream -/

def drainWithin (framing : Framing Cell) :
    Nat → List Cell → List (Frame framing) × List Cell
  | 0, stream => ([], stream)
  | fuel + 1, stream =>
      match splitFrame framing stream with
      | none => ([], stream)
      | some (frame, rest) =>
          let (frames, tail) := drainWithin framing fuel rest
          (frame :: frames, tail)

/-- A frame has at least one cell, so the length of the stream is enough fuel. -/
def drain (framing : Framing Cell) (stream : List Cell) : List (Frame framing) × List Cell :=
  drainWithin framing stream.length stream

def frames (framing : Framing Cell) (stream : List Cell) : List (Frame framing) :=
  (drain framing stream).1

def tail (framing : Framing Cell) (stream : List Cell) : List Cell := (drain framing stream).2

theorem drain_within_enough (fuel : Nat) (stream : List Cell) (enough : stream.length ≤ fuel) :
    drainWithin framing fuel stream = drain framing stream := by
  suffices agree : ∀ (first second : Nat) (stream : List Cell), stream.length ≤ first →
      stream.length ≤ second → drainWithin framing first stream = drainWithin framing second stream
    from agree fuel stream.length stream enough (Nat.le_refl _)
  intro first
  induction first with
  | zero =>
      intro second stream first_le _
      have empty : splitFrame framing stream = none :=
        split_frame_none_of_short (by have := framing.headerWidth_pos; omega)
      cases second <;> simp [drainWithin, empty]
  | succ first induction =>
      intro second stream first_le second_le
      cases second with
      | zero =>
          have empty : splitFrame framing stream = none :=
            split_frame_none_of_short (by have := framing.headerWidth_pos; omega)
          simp [drainWithin, empty]
      | succ second =>
          simp only [drainWithin]
          cases split : splitFrame framing stream with
          | none => rfl
          | some pair =>
              have shorter := split_frame_shorter split
              simp only [induction second pair.2 (by omega) (by omega)]

theorem drain_of_none {stream : List Cell} (split : splitFrame framing stream = none) :
    drain framing stream = ([], stream) := by
  rw [drain]
  cases stream.length <;> simp [drainWithin, split]

theorem drain_of_some {stream rest : List Cell} {frame : Frame framing}
    (split : splitFrame framing stream = some (frame, rest)) :
    drain framing stream = (frame :: frames framing rest, tail framing rest) := by
  have shorter := split_frame_shorter split
  obtain ⟨fuel, length⟩ : ∃ fuel, stream.length = fuel + 1 := ⟨stream.length - 1, by omega⟩
  rw [drain, length, drainWithin, split]
  simp only [drain_within_enough fuel rest (by omega), frames, tail]

/-- Induction along the frames of a stream. -/
theorem stream_induction (framing : Framing Cell) {motive : List Cell → Prop}
    (unfinished : ∀ stream, splitFrame framing stream = none → motive stream)
    (frame : ∀ stream frame rest, splitFrame framing stream = some (frame, rest) → motive rest →
      motive stream) (stream : List Cell) : motive stream := by
  induction measure : stream.length using Nat.strongRecOn generalizing stream with
  | ind length induction =>
      cases split : splitFrame framing stream with
      | none => exact unfinished stream split
      | some pair =>
          have shorter := split_frame_shorter split
          exact frame stream pair.1 pair.2 split (induction pair.2.length (by omega) pair.2 rfl)

/-- Nothing is lost: the frames and the unfinished tail are the stream. -/
theorem encode_frames_tail (stream : List Cell) :
    encodeFrames (frames framing stream) ++ tail framing stream = stream := by
  induction stream using stream_induction framing with
  | unfinished stream split => simp [frames, tail, drain_of_none split]
  | frame stream frame rest split induction =>
      have drained := drain_of_some split
      rw [frames, tail, drained, encode_frames_cons, List.append_assoc, induction]
      exact (split_frame_eq_some split).symm

/-- Draining may stop anywhere and resume from the tail. -/
theorem drain_append (first second : List Cell) :
    drain framing (first ++ second) =
      (frames framing first ++ frames framing (tail framing first ++ second),
        tail framing (tail framing first ++ second)) := by
  induction first using stream_induction framing with
  | unfinished stream split => simp [frames, tail, drain_of_none split]
  | frame stream frame rest split induction =>
      have framesFirst : frames framing stream = frame :: frames framing rest := by
        rw [frames, drain_of_some split]
      have tailFirst : tail framing stream = tail framing rest := by
        rw [tail, drain_of_some split]
      rw [drain_of_some (split_frame_append split second), framesFirst, tailFirst, frames, tail,
        induction]
      rfl

theorem frames_append (first second : List Cell) :
    frames framing (first ++ second) =
      frames framing first ++ frames framing (tail framing first ++ second) := by
  rw [frames, drain_append]

theorem tail_append (first second : List Cell) :
    tail framing (first ++ second) = tail framing (tail framing first ++ second) := by
  rw [tail, drain_append]

/-- A stream that is still arriving has shown a prefix of its frames. -/
theorem frames_of_initial_segment (first second : List Cell) :
    frames framing first <+: frames framing (first ++ second) :=
  ⟨_, (frames_append first second).symm⟩

theorem frames_length_le (stream : List Cell) :
    (frames framing stream).length ≤ stream.length := by
  induction stream using stream_induction framing with
  | unfinished stream split => simp [frames, drain_of_none split]
  | frame stream frame rest split induction =>
      have shorter := split_frame_shorter split
      rw [frames, drain_of_some split, List.length_cons]
      omega

@[simp] theorem drain_nil : drain framing [] = ([], []) :=
  drain_of_none (split_frame_none_of_short framing.headerWidth_pos)

@[simp] theorem frames_nil : frames framing [] = [] := by rw [frames, drain_nil]

@[simp] theorem tail_nil : tail framing [] = [] := by rw [tail, drain_nil]

/-- Framing is self-delimiting: what was encoded is read back, whatever follows. -/
theorem drain_encode_frames (sent : List (Frame framing)) (rest : List Cell) :
    drain framing (encodeFrames sent ++ rest) =
      (sent ++ frames framing rest, tail framing rest) := by
  induction sent with
  | nil => rfl
  | cons frame sent induction =>
      rw [encode_frames_cons, List.append_assoc, drain_of_some (split_frame_cells frame _),
        frames, tail, induction]
      rfl

theorem frames_encode_frames (sent : List (Frame framing)) (rest : List Cell) :
    frames framing (encodeFrames sent ++ rest) = sent ++ frames framing rest := by
  rw [frames, drain_encode_frames]

theorem tail_encode_frames (sent : List (Frame framing)) (rest : List Cell) :
    tail framing (encodeFrames sent ++ rest) = tail framing rest := by
  rw [tail, drain_encode_frames]

/-- Streams of complete frames are exactly the encodings of their own frames. -/
theorem encode_frames_of_tail_nil {stream : List Cell} (complete : tail framing stream = []) :
    encodeFrames (frames framing stream) = stream := by
  have whole : encodeFrames (frames framing stream) ++ tail framing stream = stream :=
    encode_frames_tail stream
  rwa [complete, List.append_nil] at whole

/-- Frames written behind complete ones are read behind them. -/
theorem frames_append_encoded {base : List Cell} (complete : tail framing base = [])
    (sent : List (Frame framing)) :
    frames framing (base ++ encodeFrames sent) = frames framing base ++ sent := by
  have read := frames_encode_frames sent []
  rw [List.append_nil, frames_nil, List.append_nil] at read
  rw [frames_append, complete, List.nil_append, read]

theorem tail_append_encoded {base : List Cell} (complete : tail framing base = [])
    (sent : List (Frame framing)) : tail framing (base ++ encodeFrames sent) = [] := by
  have rest := tail_encode_frames sent []
  rw [List.append_nil, tail_nil] at rest
  rw [tail_append, complete, List.nil_append, rest]

/-- A frame that is read behind an unfinished one begins with the same cell. -/
theorem tail_begins_as {base : List Cell} {frame : Frame framing} {cell : Cell}
    {unfinished : List Cell} (torn : tail framing base = cell :: unfinished)
    (read : frames framing (base ++ frame.cells) = frames framing base ++ [frame]) :
    frame.cells.head? = some cell := by
  rw [frames_append, torn, List.append_cancel_left_eq] at read
  have whole : encodeFrames (frames framing (cell :: unfinished ++ frame.cells)) ++
      tail framing (cell :: unfinished ++ frame.cells) = cell :: unfinished ++ frame.cells :=
    encode_frames_tail _
  rw [read, encode_frames_cons, encode_frames_nil, List.append_nil] at whole
  have nonempty : frame.cells ≠ [] := by
    have width := framing.headerWidth_pos
    rw [← frame.header_length] at width
    simp [Frame.cells, List.length_pos_iff.1 width]
  cases cells : frame.cells with
  | nil => exact absurd cells nonempty
  | cons first rest =>
      rw [cells, List.cons_append, List.cons_append, List.cons.injEq] at whole
      rw [whole.1, List.head?_cons]

/-- A stream that stops short of complete frames has the first of them. -/
theorem frames_between {base stream : List Cell} (complete : tail framing base = [])
    {sent : List (Frame framing)} (extends_base : base <+: stream)
    (within : stream <+: base ++ encodeFrames sent) :
    ∃ kept, kept <+: sent ∧ frames framing stream = frames framing base ++ kept := by
  rcases extends_base with ⟨arrived, rfl⟩
  rcases within with ⟨missing, whole⟩
  have read : frames framing (base ++ arrived) <+: frames framing (base ++ arrived ++ missing) :=
    frames_of_initial_segment _ _
  rw [whole, frames_append_encoded complete] at read
  obtain ⟨kept, keptEq⟩ : frames framing base <+: frames framing (base ++ arrived) :=
    frames_of_initial_segment _ _
  rw [← keptEq] at read ⊢
  exact ⟨kept, (List.prefix_append_right_inj _).1 read, rfl⟩

/-- A stream that is all tail has no frames. -/
theorem frames_of_unfinished {stream : List Cell} (unfinished : tail framing stream = stream) :
    frames framing stream = [] := by
  have whole : encodeFrames (frames framing stream) ++ tail framing stream = stream :=
    encode_frames_tail stream
  rw [unfinished, List.append_left_eq_self] at whole
  cases read : frames framing stream with
  | nil => rfl
  | cons frame later =>
      have width := frame.header_length
      have positive := framing.headerWidth_pos
      have lengths := congrArg List.length whole
      rw [read, encode_frames_cons, Frame.cells, List.length_append, List.length_append,
        List.length_nil] at lengths
      omega

end GrCompress.LengthFraming
