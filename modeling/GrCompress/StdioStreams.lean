import GrCompress.CallRuns
import GrCompress.OpenFiles

/-!
# Buffered streams and the end of a process

A stream of the C library keeps what is written to it in a buffer of the process
and writes it out when it sees fit, at the latest when the stream is flushed or
closed. A process that is killed loses its buffers; what has been written out
stays. How much is written out in a call, and whether the process survives it,
is up to the environment.

A stream `Holds` some content when its file will have it once the buffer is
written out. Every call keeps that, and a call that is cut short leaves the file
somewhere between what it had and what the stream holds.
-/

namespace GrCompress.StdioStreams

open GrCompress.CallRuns
open GrCompress.CheckedStorage
open GrCompress.OpenFiles

set_option autoImplicit false

/-- What the environment does in one call: the number of buffered cells that
reach the file though nobody asks for it, and whether the process is killed
right after that. -/
structure Behaviour where
  writtenOut : Nat
  killed : Bool
  deriving DecidableEq, Repr

structure Stream (Cell : Type) where
  file : WriteFile
  buffered : List Cell
  deriving DecidableEq, Repr

/-- The files that outlive the process. `behaviours` are those of the next calls;
after them nothing happens that is not asked for. -/
structure Device (Cell : Type) where
  disk : Disk Cell
  behaviours : List Behaviour

/-- A process that is killed fails in a way that nothing catches. -/
def killed : Fault := .exception "Killed"

variable {Cell : Type} [Inhabited Cell]

/-- Write out the first cells of the buffer. -/
def writeOut (stream : Stream Cell) (count : Nat) : EStateM Fault (Device Cell) (Stream Cell) := do
  let device ← get
  let cells := stream.buffered.take count
  set { device with disk := stream.file.put device.disk cells }
  return {
    file := stream.file.advance device.disk cells.length
    buffered := stream.buffered.drop count }

/-- Any call on a stream: `asked` cells of the buffer have to be written out. -/
def transfer (stream : Stream Cell) (asked : Nat) : EStateM Fault (Device Cell) (Stream Cell) := do
  match (← get).behaviours with
  | [] => writeOut stream asked
  | behaviour :: later =>
      modify fun device => { device with behaviours := later }
      if behaviour.killed then
        let _ ← writeOut stream behaviour.writtenOut
        throw killed
      else
        writeOut stream (max asked behaviour.writtenOut)

/-- Every cell is accepted. -/
def fwrite (stream : Stream Cell) (cells : List Cell) :
    EStateM Fault (Device Cell) (Stream Cell) :=
  transfer { stream with buffered := stream.buffered ++ cells } 0

def fflush (stream : Stream Cell) : EStateM Fault (Device Cell) (Stream Cell) :=
  transfer stream stream.buffered.length

def fclose (stream : Stream Cell) : EStateM Fault (Device Cell) Unit := do
  let _ ← fflush stream
  return ()

/-! ## What a stream holds -/

structure Holds (content : List Cell) (stream : Stream Cell) (device : Device Cell) : Prop where
  atEnd : stream.file.AtEnd device.disk
  content : device.disk.content stream.file.name ++ stream.buffered = content

/-- The file `name` is somewhere between `before` and `content`. -/
structure Between (before content : List Cell) (name : String) (device : Device Cell) : Prop where
  extends_before : before <+: device.disk.content name
  within_content : device.disk.content name <+: content

variable {content : List Cell} {stream : Stream Cell} {device : Device Cell}

omit [Inhabited Cell] in
theorem holds_between (holds : Holds content stream device) :
    Between (device.disk.content stream.file.name) content stream.file.name device where
  extends_before := List.prefix_rfl
  within_content := ⟨_, holds.content⟩

theorem write_out_run (holds : Holds content stream device) (count : Nat) :
    ∃ after final, (writeOut stream count).run device = .ok after final ∧
      Holds content after final ∧ after.file.name = stream.file.name ∧
      after.buffered = stream.buffered.drop count ∧
      Between (device.disk.content stream.file.name) content stream.file.name final ∧
      final.behaviours = device.behaviours := by
  have cut := List.take_append_drop count stream.buffered
  have written : Disk.content (stream.file.put device.disk (stream.buffered.take count))
      stream.file.name =
        device.disk.content stream.file.name ++ stream.buffered.take count := by
    rw [put_at_end holds.atEnd, content_set_same]
  let final : Device Cell :=
    { device with disk := stream.file.put device.disk (stream.buffered.take count) }
  have held : final.disk.content stream.file.name ++ stream.buffered.drop count = content := by
    rw [written, List.append_assoc, cut, holds.content]
  refine ⟨{
      file := stream.file.advance device.disk (stream.buffered.take count).length
      buffered := stream.buffered.drop count }, final, rfl,
    ⟨advance_at_end holds.atEnd _, held⟩, rfl, rfl, ⟨?_, ⟨_, held⟩⟩, rfl⟩
  rw [written]
  exact List.prefix_append _ _

/-- What a call on a stream comes to: it returns a stream that holds the same, with
at least what was asked for written out, or the process is killed. -/
def Transferred (content before : List Cell) (name : String) (flushed : Prop) :
    EStateM.Result Fault (Device Cell) (Stream Cell) → Prop
  | .ok after final => Holds content after final ∧ after.file.name = name ∧
      (flushed → after.buffered = []) ∧ Between before content name final
  | .error fault final => fault = killed ∧ Between before content name final

theorem transfer_run (holds : Holds content stream device) (asked : Nat) :
    Transferred content (device.disk.content stream.file.name) stream.file.name
      (stream.buffered.length ≤ asked) ((transfer stream asked).run device) := by
  cases behaviours : device.behaviours with
  | nil =>
      obtain ⟨after, final, ran, held, name, rest, between, _⟩ := write_out_run holds asked
      simp only [transfer, EStateM.run_bind, EStateM.run_get, behaviours, ran]
      exact ⟨held, name, fun all => by rw [rest, List.drop_eq_nil_of_le all], between⟩
  | cons behaviour later =>
      have holds' : Holds content stream { device with behaviours := later } :=
        ⟨holds.atEnd, holds.content⟩
      cases dies : behaviour.killed with
      | true =>
          obtain ⟨after, final, ran, _, _, _, between, _⟩ :=
            write_out_run holds' behaviour.writtenOut
          have thrown : (throw killed : EStateM Fault (Device Cell) (Stream Cell)).run final =
              .error killed final := rfl
          simp only [transfer, EStateM.run_bind, EStateM.run_get, behaviours, EStateM.run_modify,
            dies, if_true, ran, thrown]
          exact ⟨rfl, between⟩
      | false =>
          obtain ⟨after, final, ran, held, name, rest, between, _⟩ :=
            write_out_run holds' (max asked behaviour.writtenOut)
          simp only [transfer, EStateM.run_bind, EStateM.run_get, behaviours, EStateM.run_modify,
            dies, Bool.false_eq_true, if_false, ran]
          refine ⟨held, name, fun all => ?_, between⟩
          rw [rest]
          exact List.drop_eq_nil_of_le (by omega)

theorem fwrite_run (holds : Holds content stream device) (cells : List Cell) :
    Transferred (content ++ cells) (device.disk.content stream.file.name) stream.file.name False
      ((fwrite stream cells).run device) := by
  have accepted : Holds (content ++ cells)
      { stream with buffered := stream.buffered ++ cells } device :=
    ⟨holds.atEnd, by rw [← List.append_assoc, holds.content]⟩
  have transferred := transfer_run accepted 0
  rw [fwrite]
  cases ran : (transfer { stream with buffered := stream.buffered ++ cells } 0).run device with
  | ok after final =>
      rw [ran] at transferred
      rcases transferred with ⟨held, name, _, between⟩
      exact ⟨held, name, False.elim, between⟩
  | error fault final =>
      rw [ran] at transferred
      exact transferred

theorem fflush_run (holds : Holds content stream device) :
    Transferred content (device.disk.content stream.file.name) stream.file.name True
      ((fflush stream).run device) := by
  have transferred := transfer_run holds stream.buffered.length
  rwa [eq_true (Nat.le_refl stream.buffered.length)] at transferred

omit [Inhabited Cell] in
/-- A flushed stream's file has all that the stream holds. -/
theorem content_of_flushed (holds : Holds content stream device) (flushed : stream.buffered = []) :
    device.disk.content stream.file.name = content := by
  have held := holds.content
  rwa [flushed, List.append_nil] at held

/-! ## Writing without a buffer -/

/-- `file` on the disk `through` is what the stream would be if it had no buffer: every
cell given to the stream is put there, and the next one goes where it would. -/
structure Follows (stream : Stream Cell) (disk : Disk Cell) (file : WriteFile)
    (through : Disk Cell) : Prop where
  name : file.name = stream.file.name
  append : file.append = stream.file.append
  fine : file.failed = false
  position : stream.file.append = false →
    file.position = stream.file.position + stream.buffered.length
  has : disk.Has stream.file.name
  disk : through = stream.file.put disk stream.buffered

section Follows

variable {disk through : Disk Cell} {file : WriteFile}

theorem follows_flushed (flushed : stream.buffered = []) (fine : stream.file.failed = false)
    (has : disk.Has stream.file.name) : Follows stream disk stream.file disk where
  name := rfl
  append := rfl
  fine := fine
  position _ := by rw [flushed, List.length_nil, Nat.add_zero]
  has := has
  disk := by rw [flushed, put_nothing has]

/-- With nothing in the buffer there is no difference. -/
theorem follows_disk (follows : Follows stream disk file through)
    (flushed : stream.buffered = []) : through = disk := by
  rw [follows.disk, flushed, put_nothing follows.has]

/-- It does not matter how much of the buffer has been written out. -/
theorem follows_write_out (follows : Follows stream disk file through) (count : Nat) :
    Follows
      { file := stream.file.advance disk (stream.buffered.take count).length
        buffered := stream.buffered.drop count }
      (stream.file.put disk (stream.buffered.take count)) file through where
  name := follows.name
  append := follows.append
  fine := follows.fine
  position overwrites := by
    have cut := congrArg List.length (List.take_append_drop count stream.buffered)
    rw [List.length_append] at cut
    have position := follows.position overwrites
    have mode : stream.file.append = false := overwrites
    simp only [WriteFile.advance, WriteFile.target, mode, Bool.false_eq_true, if_false]
    omega
  has := has_set follows.has _ _
  disk := by rw [put_put, List.take_append_drop, follows.disk]

/-- The next cell goes where it would if the buffer had been written out. -/
theorem follows_target (follows : Follows stream disk file through) :
    file.target through = (stream.file.advance disk stream.buffered.length).target through := by
  have name : (stream.file.advance disk stream.buffered.length).name = file.name :=
    follows.name.symm
  have append : (stream.file.advance disk stream.buffered.length).append = file.append :=
    follows.append.symm
  rw [WriteFile.target, WriteFile.target, name, append]
  cases mode : file.append with
  | true => rfl
  | false =>
      have overwrites : stream.file.append = false := follows.append.symm.trans mode
      simp [follows.position overwrites, WriteFile.advance, WriteFile.target, overwrites]

/-- What is put to the one is buffered in the other. -/
theorem follows_accept (follows : Follows stream disk file through) (cells : List Cell) :
    Follows { stream with buffered := stream.buffered ++ cells } disk
      (file.advance through cells.length) (file.put through cells) where
  name := follows.name
  append := follows.append
  fine := follows.fine
  position overwrites := by
    have position := follows.position overwrites
    have mode : file.append = false := follows.append.trans overwrites
    simp only [WriteFile.advance, WriteFile.target, mode, Bool.false_eq_true, if_false,
      List.length_append]
    omega
  has := follows.has
  disk := by
    have name : file.name = (stream.file.advance disk stream.buffered.length).name :=
      follows.name
    rw [put_congr name (follows_target follows), follows.disk, put_put]

/-- Another file may be opened, and the same one unless that drops what is buffered. -/
theorem follows_opened (follows : Follows stream disk file through) {name : String}
    {append : Bool} (spared : append = true ∨ stream.file.name ≠ name ∨ stream.buffered = []) :
    Follows stream (disk.opened name append) file (through.opened name append) where
  name := follows.name
  append := follows.append
  fine := follows.fine
  position := follows.position
  has := has_set follows.has _ _
  disk := by rw [follows.disk, put_opened stream.file disk spared]

/-- A call fails only when the process is killed in it. -/
def Killed (fault : Fault) : Prop := fault = killed

/-- Where a call on the stream leads, next to the same one without a buffer: no file
disappears. -/
def Followed (before : Disk Cell) (file : WriteFile) (through : Disk Cell) (flushed : Prop)
    (after : Stream Cell) (final : Device Cell) : Prop :=
  Follows after final.disk file through ∧ (∀ name, before.Has name → final.disk.Has name) ∧
    (flushed → after.buffered = [])

theorem write_out_follows (follows : Follows stream device.disk file through)
    (behaviours : List Behaviour) {asked count : Nat} (enough : asked ≤ count) :
    Leads (Followed device.disk file through (stream.buffered.length ≤ asked)) Killed
      ((writeOut stream count).run { device with behaviours := behaviours }) :=
  ⟨follows_write_out follows count, fun _ has => has_set has _ _,
    fun all => List.drop_eq_nil_of_le (all.trans enough)⟩

theorem transfer_follows (follows : Follows stream device.disk file through) (asked : Nat) :
    Leads (Followed device.disk file through (stream.buffered.length ≤ asked)) Killed
      ((transfer stream asked).run device) := by
  cases behaviours : device.behaviours with
  | nil =>
      have ended := write_out_follows follows [] (Nat.le_refl asked)
      rw [← behaviours] at ended
      simp only [transfer, EStateM.run_bind, EStateM.run_get, behaviours]
      exact ended
  | cons behaviour later =>
      have ended := write_out_follows follows later (Nat.le_max_left asked behaviour.writtenOut)
      simp only [transfer, EStateM.run_bind, EStateM.run_get, behaviours, EStateM.run_modify]
      cases dies : behaviour.killed with
      | true => exact (rfl : killed = killed)
      | false => exact ended

theorem fwrite_follows (follows : Follows stream device.disk file through) (cells : List Cell) :
    Leads (Followed device.disk (file.advance through cells.length) (file.put through cells) False)
      Killed ((fwrite stream cells).run device) := by
  apply leads_mono (transfer_follows (follows_accept follows cells) 0)
  intro after final transferred
  rcases transferred with ⟨followed, files, _⟩
  exact ⟨followed, files, False.elim⟩

theorem fflush_follows (follows : Follows stream device.disk file through) :
    Leads (Followed device.disk file through True) Killed ((fflush stream).run device) := by
  have transferred := transfer_follows follows stream.buffered.length
  rwa [eq_true (Nat.le_refl stream.buffered.length)] at transferred

/-- A stream that is closed leaves its file as it would be without a buffer. -/
theorem fclose_follows (follows : Follows stream device.disk file through) :
    Leads (fun _ final => final.disk = through ∧ ∀ name, device.disk.Has name → final.disk.Has name)
      Killed ((fclose stream).run device) := by
  have flushed := fflush_follows follows
  simp only [fclose, EStateM.run_bind]
  cases ran : (fflush stream).run device with
  | ok after final =>
      rw [ran] at flushed
      rcases flushed with ⟨followed, files, empty⟩
      exact ⟨(follows_disk followed (empty trivial)).symm, files⟩
  | error fault final =>
      rw [ran] at flushed
      exact flushed

end Follows

end GrCompress.StdioStreams
