import GrCompress.CheckedStorage

/-!
# Open files

Handles as an operating system gives them out, and reading and writing through
one. A handle is obtained once and is closed by recording it; nothing here
reuses a handle. The content of a file that is being read does not change. What
is written reaches the file at once.
-/

namespace GrCompress.OpenFiles

open GrCompress.CheckedStorage

set_option autoImplicit false

/-- The handles obtained so far are those below `next`. -/
structure Handles where
  next : Nat
  closed : List Nat
  deriving DecidableEq, Repr

def Handles.none : Handles where
  next := 0
  closed := []

def Handles.obtain (handles : Handles) : Handles := { handles with next := handles.next + 1 }

def Handles.close (handles : Handles) (descriptor : Nat) : Handles :=
  { handles with closed := handles.closed ++ [descriptor] }

/-- What the two calls that open a file, `open` and `fdopen`, come to. -/
inductive Opening where
  | openFails
  | fdopenFails
  | succeeds
  deriving DecidableEq, Repr

variable {State Cell : Type}

structure ReadFile (Cell : Type) where
  descriptor : Nat
  content : List Cell
  position : Nat
  deriving DecidableEq, Repr

def ReadFile.remaining (file : ReadFile Cell) : List Cell := file.content.drop file.position

def ReadFile.advance (file : ReadFile Cell) (count : Nat) : ReadFile Cell :=
  { file with position := file.position + count }

/-- `fseek(file, 0, SEEK_SET)`. -/
def ReadFile.rewind (file : ReadFile Cell) : ReadFile Cell := { file with position := 0 }

/-- What an offset of `fseek` counts from. -/
inductive Whence where
  | seekSet
  | seekCur
  | seekEnd
  deriving DecidableEq, Repr

/-- `fseek`. It accepts a target behind the end of the file, and none before its start. -/
def ReadFile.seek (file : ReadFile Cell) (offset : Int) (whence : Whence) :
    Option (ReadFile Cell) :=
  let origin : Int := match whence with
    | .seekSet => 0
    | .seekCur => file.position
    | .seekEnd => file.content.length
  let target := origin + offset
  if 0 ≤ target ∧ target < 2 ^ 63 then some { file with position := target.toNat } else none

theorem seek_descriptor {file moved : ReadFile Cell} {offset : Int} {whence : Whence}
    (sought : file.seek offset whence = some moved) : moved.descriptor = file.descriptor := by
  simp only [ReadFile.seek, Option.ite_none_right_eq_some, Option.some.injEq] at sought
  rw [← sought.2]

@[simp] theorem advance_remaining (file : ReadFile Cell) (count : Nat) :
    (file.advance count).remaining = file.remaining.drop count := by
  simp only [ReadFile.remaining, ReadFile.advance, List.drop_drop]

/-- `fread` of `count` cells into the start of a buffer, which must have room
for all of them; it stops at the end of the file. -/
def fread (buffer : Buffer Cell) (count : Nat) (file : ReadFile Cell) :
    EStateM Fault State (Buffer Cell × Nat × ReadFile Cell) := do
  reserve buffer 0 count
  let cells := file.remaining.take count
  let buffer ← store buffer 0 cells
  return (buffer, cells.length, file.advance cells.length)

/-- The buffer keeps its length and starts with what was read. -/
theorem fread_run {array : List Cell} {count : Nat} (room : count ≤ array.length)
    (file : ReadFile Cell) (state : State) :
    ∃ written : List Cell, written.length = array.length ∧
      written.take (min count file.remaining.length) = file.remaining.take count ∧
      (fread (some array) count file).run state =
        .ok (some written, min count file.remaining.length,
          file.advance (min count file.remaining.length)) state := by
  have length : (file.remaining.take count).length = min count file.remaining.length :=
    List.length_take
  have reserved : 0 + count ≤ array.length := by omega
  have stored : 0 + (file.remaining.take count).length ≤ array.length := by omega
  refine ⟨overwrite array 0 (file.remaining.take count), length_overwrite stored, ?_, ?_⟩
  · rw [← length, take_overwrite_zero]
  · simp only [fread, EStateM.run_bind, reserve_some reserved, store_some stored, length,
      EStateM.run_pure]

/-! ## Writing -/

/-- Files by name; a file that does not exist has no content. -/
abbrev Disk (Cell : Type) := String → Option (List Cell)

def Disk.content (disk : Disk Cell) (name : String) : List Cell := (disk name).getD []

def Disk.set (disk : Disk Cell) (name : String) (content : List Cell) : Disk Cell :=
  fun other => if other = name then some content else disk other

/-- A file opened with `O_WRONLY | O_CREAT` and `O_APPEND` or `O_TRUNC`. -/
def Disk.opened (disk : Disk Cell) (name : String) (append : Bool) : Disk Cell :=
  disk.set name (if append then disk.content name else [])

def Disk.Has (disk : Disk Cell) (name : String) : Prop := (disk name).isSome = true

theorem has_set {disk : Disk Cell} {name : String} (has : disk.Has name) (other : String)
    (content : List Cell) : (disk.set other content).Has name := by
  simp only [Disk.Has, Disk.set] at has ⊢
  split
  · rfl
  · exact has

theorem has_opened (disk : Disk Cell) (name : String) (append : Bool) :
    (disk.opened name append).Has name := by
  simp [Disk.Has, Disk.opened, Disk.set]

@[simp] theorem content_set_same (disk : Disk Cell) (name : String) (content : List Cell) :
    Disk.content (disk.set name content) name = content := by
  simp [Disk.content, Disk.set]

@[simp] theorem content_set_other (disk : Disk Cell) {name other : String} (content : List Cell)
    (apart : other ≠ name) :
    Disk.content (disk.set name content) other = disk.content other := by
  simp [Disk.content, Disk.set, apart]

@[simp] theorem set_set (disk : Disk Cell) (name : String) (first second : List Cell) :
    Disk.set (disk.set name first) name second = disk.set name second := by
  funext other
  simp only [Disk.set]
  split <;> rfl

/-- `failed` is the error flag of the stream. -/
structure WriteFile where
  descriptor : Nat
  name : String
  position : Nat
  append : Bool
  failed : Bool
  deriving DecidableEq, Repr

/-- Where the next write goes. -/
def WriteFile.target (file : WriteFile) (disk : Disk Cell) : Nat :=
  if file.append then (disk.content file.name).length else file.position

/-- Write at the target; a gap behind the end of the file is filled, but not for no cells. -/
def WriteFile.put [Inhabited Cell] (file : WriteFile) (disk : Disk Cell) (cells : List Cell) :
    Disk Cell :=
  let content := disk.content file.name
  let target := file.target disk
  disk.set file.name (if cells.isEmpty then content else
    content.take target ++ List.replicate (target - content.length) default ++
      cells ++ content.drop (target + cells.length))

def WriteFile.advance (file : WriteFile) (disk : Disk Cell) (count : Nat) : WriteFile :=
  { file with position := file.target disk + count }

/-- The stream writes at the end of its file. -/
def WriteFile.AtEnd (file : WriteFile) (disk : Disk Cell) : Prop :=
  file.target disk = (disk.content file.name).length

theorem put_nil [Inhabited Cell] (file : WriteFile) (disk : Disk Cell) :
    file.put disk [] = disk.set file.name (disk.content file.name) := rfl

theorem put_nothing [Inhabited Cell] {file : WriteFile} {disk : Disk Cell}
    (has : disk.Has file.name) : file.put disk [] = disk := by
  obtain ⟨content, present⟩ := Option.isSome_iff_exists.1 has
  funext other
  simp only [put_nil, Disk.set, Disk.content, present, Option.getD_some]
  split
  · rename_i same
    rw [same, present]
  · rfl

theorem put_of_length_pos [Inhabited Cell] (file : WriteFile) (disk : Disk Cell)
    {cells : List Cell} (nonempty : 0 < cells.length) :
    file.put disk cells = disk.set file.name ((disk.content file.name).take (file.target disk) ++
      List.replicate (file.target disk - (disk.content file.name).length) default ++
        cells ++ (disk.content file.name).drop (file.target disk + cells.length)) := by
  have some : cells.isEmpty = false := by simpa using List.length_pos_iff.1 nonempty
  rw [WriteFile.put, some]
  rfl

theorem put_at_end [Inhabited Cell] {file : WriteFile} {disk : Disk Cell}
    (atEnd : file.AtEnd disk) (cells : List Cell) :
    file.put disk cells = disk.set file.name (disk.content file.name ++ cells) := by
  have target : file.target disk = (disk.content file.name).length := atEnd
  rcases Nat.eq_zero_or_pos cells.length with empty | nonempty
  · rw [List.length_eq_zero_iff.1 empty, put_nil, List.append_nil]
  · have past : (disk.content file.name).drop
        ((disk.content file.name).length + cells.length) = [] := List.drop_eq_nil_of_le (by omega)
    rw [put_of_length_pos file disk nonempty]
    simp [target, past]

theorem length_before_target [Inhabited Cell] (file : WriteFile) (disk : Disk Cell) :
    ((disk.content file.name).take (file.target disk) ++
      List.replicate (file.target disk - (disk.content file.name).length)
        (default : Cell)).length = file.target disk := by
  simp only [List.length_append, List.length_take, List.length_replicate]
  omega

theorem target_advance [Inhabited Cell] (file : WriteFile) (disk : Disk Cell) (cells : List Cell) :
    (file.advance disk cells.length).target (file.put disk cells) =
      file.target disk + cells.length := by
  have before := length_before_target file disk
  cases mode : file.append with
  | false => simp [WriteFile.target, WriteFile.advance, mode]
  | true =>
      have atEnd : file.AtEnd disk := by simp [WriteFile.AtEnd, WriteFile.target, mode]
      rw [put_at_end atEnd]
      simp [WriteFile.target, WriteFile.advance, mode]

/-- The content after a write at or beyond the end. -/
theorem content_put_length [Inhabited Cell] {file : WriteFile} {disk : Disk Cell}
    (past : (disk.content file.name).length ≤ file.target disk) {cells : List Cell}
    (nonempty : 0 < cells.length) :
    ((file.put disk cells).content file.name).length = file.target disk + cells.length := by
  have before := length_before_target file disk
  have behind : (disk.content file.name).drop (file.target disk + cells.length) = [] :=
    List.drop_eq_nil_of_le (by omega)
  rw [put_of_length_pos file disk nonempty, content_set_same, behind, List.append_nil,
    List.length_append, before]

theorem advance_at_end [Inhabited Cell] {file : WriteFile} {disk : Disk Cell}
    (atEnd : file.AtEnd disk) (cells : List Cell) :
    (file.advance disk cells.length).AtEnd (file.put disk cells) := by
  have name : (file.advance disk cells.length).name = file.name := rfl
  have target : file.target disk = (disk.content file.name).length := atEnd
  rw [WriteFile.AtEnd, target_advance, name, put_at_end atEnd, content_set_same,
    List.length_append, target]

/-- A write goes by the name, the target and what is in the file. -/
theorem put_congr [Inhabited Cell] {file other : WriteFile} {disk : Disk Cell}
    (name : file.name = other.name) (target : file.target disk = other.target disk)
    (cells : List Cell) : file.put disk cells = other.put disk cells := by
  simp only [WriteFile.put, name, target]

/-- A second write lands behind the first one. -/
theorem put_put_pos [Inhabited Cell] (file : WriteFile) (disk : Disk Cell)
    {first second : List Cell} (firstSome : 0 < first.length) (secondSome : 0 < second.length) :
    (file.advance disk first.length).put (file.put disk first) second =
      file.put disk (first ++ second) := by
  have bothSome : 0 < (first ++ second).length := by
    rw [List.length_append]
    omega
  obtain ⟨kept, keptEq⟩ : ∃ kept, kept = (disk.content file.name).take (file.target disk) ++
      List.replicate (file.target disk - (disk.content file.name).length) default := ⟨_, rfl⟩
  have keptLength : kept.length = file.target disk := by
    rw [keptEq]
    exact length_before_target file disk
  have next := target_advance file disk first
  have name : (file.advance disk first.length).name = file.name := rfl
  have overwritten : file.put disk first = disk.set file.name
      (kept ++ first ++ (disk.content file.name).drop (file.target disk + first.length)) := by
    rw [put_of_length_pos file disk firstSome, keptEq]
  have written : (file.put disk first).content file.name =
      (kept ++ first) ++ (disk.content file.name).drop (file.target disk + first.length) := by
    rw [overwritten, content_set_same]
  have reach : (kept ++ first).length = file.target disk + first.length := by
    rw [List.length_append, keptLength]
  have noGap : file.target disk + first.length - ((file.put disk first).content file.name).length =
      0 := by
    rw [written, List.length_append, reach]
    omega
  have skipped : ((file.put disk first).content file.name).drop
      (file.target disk + first.length + second.length) =
        (disk.content file.name).drop (file.target disk + (first ++ second).length) := by
    rw [written, ← reach, List.drop_length_add_append, List.drop_drop, reach, List.length_append,
      Nat.add_assoc]
  have starts : ((file.put disk first).content file.name).take
      (file.target disk + first.length) = kept ++ first := by
    rw [written, List.take_left' reach]
  rw [put_of_length_pos _ _ secondSome, next, name, noGap, starts, skipped, overwritten, set_set,
    put_of_length_pos file disk bothSome, ← keptEq]
  simp only [List.replicate_zero, List.append_nil, List.append_assoc]

/-- Two writes in a row are one. -/
theorem put_put [Inhabited Cell] (file : WriteFile) (disk : Disk Cell)
    (first second : List Cell) :
    (file.advance disk first.length).put (file.put disk first) second =
      file.put disk (first ++ second) := by
  have name : (file.advance disk first.length).name = file.name := rfl
  rcases Nat.eq_zero_or_pos second.length with secondEmpty | secondSome
  · rw [List.length_eq_zero_iff.1 secondEmpty, List.append_nil, put_nil, name]
    simp only [WriteFile.put, content_set_same, set_set]
  · rcases Nat.eq_zero_or_pos first.length with firstEmpty | firstSome
    · have empty := List.length_eq_zero_iff.1 firstEmpty
      subst empty
      have next := target_advance file disk []
      rw [put_of_length_pos _ _ secondSome, next, name, put_nil, content_set_same, set_set,
        List.nil_append, put_of_length_pos file disk secondSome, List.length_nil, Nat.add_zero]
    · exact put_put_pos file disk firstSome secondSome

theorem set_comm (disk : Disk Cell) {name other : String} (apart : name ≠ other)
    (first second : List Cell) :
    Disk.set (disk.set name first) other second = Disk.set (disk.set other second) name first := by
  funext file
  simp only [Disk.set]
  split
  · rename_i same
    rw [if_neg (by rw [same]; exact apart.symm)]
  · rfl

/-- Writing and opening may change places, unless what is written would be dropped. -/
theorem put_opened [Inhabited Cell] (file : WriteFile) (disk : Disk Cell) {name : String}
    {append : Bool} {cells : List Cell}
    (spared : append = true ∨ file.name ≠ name ∨ cells = []) :
    Disk.opened (file.put disk cells) name append = file.put (disk.opened name append) cells := by
  by_cases same : file.name = name
  · subst same
    cases mode : append with
    | true =>
        have target : file.target (disk.opened file.name true) = file.target disk := by
          simp [WriteFile.target, Disk.opened]
        have content : Disk.content (disk.opened file.name true) file.name =
            disk.content file.name := by simp [Disk.opened]
        simp only [WriteFile.put, target, content]
        simp [Disk.opened]
    | false =>
        have nothing : cells = [] := by simpa [mode] using spared
        subst nothing
        simp [put_nil, Disk.opened]
  · have target : file.target (disk.opened name append) = file.target disk := by
      simp [WriteFile.target, Disk.opened, same]
    have others : name ≠ file.name := fun equal => same equal.symm
    simp only [WriteFile.put, target]
    simp only [Disk.opened, content_set_other _ _ same, content_set_other _ _ others]
    rw [set_comm disk same]

theorem advance_advance [Inhabited Cell] (file : WriteFile) (disk : Disk Cell)
    (first second : List Cell) :
    (file.advance disk first.length).advance (file.put disk first) second.length =
      file.advance disk (first ++ second).length := by
  have next := target_advance file disk first
  simp only [WriteFile.advance] at next ⊢
  rw [next, List.length_append, Nat.add_assoc]

end GrCompress.OpenFiles
