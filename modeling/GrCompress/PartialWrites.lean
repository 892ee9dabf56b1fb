import GrCompress.FileSinkBlock

/-!
# Partial writes

What the file sink leaves in its file when `fwrite` writes less than it is asked
for, with or without the error flag of the stream. The write loop takes a count
of zero without the flag for the end of the file and returns; it looks at the
flag only then, and nobody looks at what the write of the header comes to.

How a loop ends is a function of the outcomes of its `fwrite` calls and of the
number of bytes it has to write. It is then told apart by the outcomes alone.
-/

namespace GrCompress.PartialWrites

open GrCompress.CheckedStorage
open GrCompress.OpenFiles
open GrCompress.ZstdCodec
open GrCompress.RecordFormat
open GrCompress.FileSinkBlock

set_option autoImplicit false

/-! ## One write -/

/-- The items that the next `fwrite` of `count` items writes. -/
def granted (outcomes : List WriteOutcome) (count : Nat) : Nat :=
  match outcomes with
  | [] => count
  | outcome :: _ => min outcome.items count

/-- Whether the next `fwrite` sets the error flag. -/
def flagged (outcomes : List WriteOutcome) : Bool :=
  match outcomes with
  | [] => false
  | outcome :: _ => outcome.error

theorem granted_le (outcomes : List WriteOutcome) (count : Nat) :
    granted outcomes count ≤ count := by
  cases outcomes with
  | nil => exact Nat.le_refl _
  | cons outcome outcomes => exact Nat.min_le_right _ _

/-- The sink writes at the end of the file `name`, which holds `content`. -/
structure Installed (name : String) (content : Bytes) (failed : Bool) (sink : FileSink) :
    Prop where
  file : ∃ file, sink.fp = some file ∧ file.name = name ∧ file.failed = failed ∧
    file.AtEnd sink.disk
  content : sink.disk.content name = content

variable {name : String} {content : Bytes} {failed : Bool} {sink : FileSink}

theorem fwrite_granted (installed : Installed name content failed sink) {buffer : Bytes}
    {offset size count : Nat} (inside : offset + size * count ≤ buffer.length) :
    ∃ after, (fwrite (some buffer) offset size count).run sink =
        .ok (granted sink.outcomes count) after ∧
      Installed name
        (content ++ (buffer.drop offset).take (size * granted sink.outcomes count))
        (failed || flagged sink.outcomes) after ∧
      after.outcomes = sink.outcomes.tail := by
  rcases installed.file with ⟨file, opened, named, flag, atEnd⟩
  have written : ∀ cells : Bytes, Disk.content (file.put sink.disk cells) name =
      content ++ cells := by
    intro cells
    rw [put_at_end atEnd, named, content_set_same, installed.content]
  have stillAtEnd : ∀ (cells : Bytes) (flag : Bool),
      WriteFile.AtEnd { file.advance sink.disk cells.length with failed := flag }
        (file.put sink.disk cells) :=
    fun cells _ => advance_at_end atEnd cells
  cases outcomes : sink.outcomes with
  | nil =>
      refine ⟨sink.written file ((buffer.drop offset).take (size * count)),
        fwrite_run opened outcomes inside, ⟨⟨_, rfl, named, ?_, stillAtEnd _ _⟩, written _⟩,
        outcomes⟩
      simp only [flagged, Bool.or_false]
      exact flag
  | cons outcome rest =>
      have cells : ((buffer.drop offset).take (size * count)).take
          (size * min outcome.items count) =
            (buffer.drop offset).take (size * min outcome.items count) := by
        rw [List.take_take, Nat.min_eq_left (Nat.mul_le_mul_left _ (Nat.min_le_right _ _))]
      refine ⟨{ sink with
          disk := file.put sink.disk
            ((buffer.drop offset).take (size * min outcome.items count))
          fp := some { file.advance sink.disk
            ((buffer.drop offset).take (size * min outcome.items count)).length with
              failed := file.failed || outcome.error }
          outcomes := rest }, ?_, ⟨⟨_, rfl, named, ?_, stillAtEnd _ _⟩, written _⟩, rfl⟩
      · simp only [fwrite, EStateM.run_bind, EStateM.run_get, opened, load_some inside, outcomes,
          EStateM.run_set, EStateM.run_pure, cells, granted]
      · simp only [flagged, flag]

/-! ## The write loop -/

inductive Ending where
  | complete
  | reported
  | torn
  deriving DecidableEq, Repr

/-- How a loop that has `remaining` bytes to write ends. -/
def ending : Bool → List WriteOutcome → Nat → Ending
  | _, [], _ => .complete
  | failed, outcome :: outcomes, remaining =>
      if remaining = 0 then .complete
      else if outcome.items = 0 then
        if failed || outcome.error then .reported else .torn
      else if remaining ≤ outcome.items then .complete
      else if 2 ^ 31 ≤ outcome.items then .torn
      else ending (failed || outcome.error) outcomes (remaining - outcome.items)

/-- What one `fwrite` can come to while bytes are left: it writes nothing, the rest,
more than an `int` counts, or some bytes after which the loop goes on. -/
theorem outcome_cases (outcome : WriteOutcome) (remaining : Nat) :
    outcome.items = 0 ∨ (0 < outcome.items ∧ remaining ≤ outcome.items) ∨
      (0 < outcome.items ∧ outcome.items < remaining ∧ 2 ^ 31 ≤ outcome.items) ∨
        (0 < outcome.items ∧ outcome.items < remaining ∧ outcome.items < 2 ^ 31) := by
  omega

section Ending

variable {outcome : WriteOutcome} (failed : Bool) (outcomes : List WriteOutcome) {remaining : Nat}

theorem ending_stalled (left : 0 < remaining) (stalled : outcome.items = 0) :
    ending failed (outcome :: outcomes) remaining =
      if failed || outcome.error then .reported else .torn := by
  rw [ending, if_neg (by omega), if_pos stalled]

theorem ending_finished (left : 0 < remaining) (finished : remaining ≤ outcome.items) :
    ending failed (outcome :: outcomes) remaining = .complete := by
  rw [ending, if_neg (by omega), if_neg (by omega), if_pos finished]

theorem ending_overflowed (partly : outcome.items < remaining)
    (overflowed : 2 ^ 31 ≤ outcome.items) :
    ending failed (outcome :: outcomes) remaining = .torn := by
  rw [ending, if_neg (by omega), if_neg (by omega), if_neg (by omega), if_pos overflowed]

theorem ending_continued (positive : 0 < outcome.items) (partly : outcome.items < remaining)
    (small : outcome.items < 2 ^ 31) :
    ending failed (outcome :: outcomes) remaining =
      ending (failed || outcome.error) outcomes (remaining - outcome.items) := by
  rw [ending, if_neg (by omega), if_neg (by omega), if_neg (by omega), if_neg (by omega)]

theorem ending_of_nothing_left : ending failed outcomes 0 = .complete := by
  cases outcomes with
  | nil => rfl
  | cons outcome outcomes => rw [ending, if_pos rfl]

end Ending

/-- What a loop of each ending leaves behind. -/
def EndsAs (name : String) (content remaining : Bytes)
    (result : EStateM.Result Fault FileSink Unit) : Ending → Prop
  | .complete => ∃ failed after, result = .ok () after ∧
      Installed name (content ++ remaining) failed after
  | .reported => ∃ written failed fault after, result = .error fault after ∧
      Installed name (content ++ written) failed after
  | .torn => ∃ written failed after, result = .ok () after ∧
      Installed name (content ++ written) failed after ∧ written.length < remaining.length

variable {params : SinkParams} {blob : Bytes}

/-- A loop whose count ends it: all is written, or the count came out negative. -/
theorem write_loop_over (short : blob.length < 2 ^ 32) {before count : Nat} (positive : 0 < count)
    (inside : before + count ≤ blob.length)
    (last : before + count = blob.length ∨ 2 ^ 31 ≤ count) (fuel : Nat) (offset : Int)
    (sink : FileSink) :
    (writeLoop params blob (fuel + 1) (before + toInt count) offset).run sink =
      .ok () sink := by
  have ends : ¬toSize (before + toInt count) < blob.length := by
    unfold toInt toSize
    split <;> omega
  rw [writeLoop, if_neg ends, EStateM.run_pure]

theorem to_int_ne_zero {count : Nat} (positive : 0 < count) (small : count < 2 ^ 32) :
    toInt count ≠ 0 := by
  unfold toInt
  split <;> omega

/-- A round of the loop with bytes left to write. -/
theorem write_loop_round (itemsize : params.itemsize = 1) (short : blob.length < 2 ^ 32)
    {before : Nat} (left : before < blob.length) (fuel : Nat)
    (installed : Installed name content failed sink) :
    ∃ after, Installed name
        (content ++ (blob.drop before).take (granted sink.outcomes (blob.length - before)))
        (failed || flagged sink.outcomes) after ∧
      after.outcomes = sink.outcomes.tail ∧
      (writeLoop params blob (fuel + 1) before before).run sink =
        if granted sink.outcomes (blob.length - before) = 0 then
          if failed || flagged sink.outcomes then
            .error (.exception ("file_sink write failed with error " ++
              toString ((after.fp.map WriteFile.descriptor).getD 0) ++ "\n")) after
          else .ok () after
        else (writeLoop params blob fuel
          (before + toInt (granted sink.outcomes (blob.length - before)))
          (before + toInt (granted sink.outcomes (blob.length - before)))).run after := by
  have size : toSize (before : Int) = before := to_size_natCast (by omega)
  have inside : before + 1 * (blob.length - before) ≤ blob.length := by omega
  have bound := granted_le sink.outcomes (blob.length - before)
  obtain ⟨after, wrote, afterInstalled, rest⟩ := fwrite_granted installed inside
  rw [Nat.one_mul] at afterInstalled
  refine ⟨after, afterInstalled, rest, ?_⟩
  rcases afterInstalled.file with ⟨file, opened, _, flag, _⟩
  rw [writeLoop, size, if_pos left, Int.toNat_natCast, itemsize, EStateM.run_bind, wrote]
  by_cases nothing : granted sink.outcomes (blob.length - before) = 0
  · have zero : toInt (granted sink.outcomes (blob.length - before) : Nat) = 0 := by
      rw [nothing]
      rfl
    simp only [if_pos zero, if_pos nothing, EStateM.run_bind, EStateM.run_get, opened, flag,
      Option.map_some, Option.getD_some]
    cases failed || flagged sink.outcomes with
    | false => rfl
    | true => rfl
  · have some_written := to_int_ne_zero (Nat.pos_of_ne_zero nothing) (by omega)
    have one : ((1 : Nat) : Int) = 1 := rfl
    simp only [if_neg some_written, if_neg nothing, one, Int.mul_one]

/-- A shorter loop ends as the longer one that has written some bytes before it. -/
theorem ends_as_after {content written remaining : Bytes}
    {result : EStateM.Result Fault FileSink Unit} {how : Ending}
    (ends : EndsAs name (content ++ written) remaining result how) :
    EndsAs name content (written ++ remaining) result how := by
  cases how with
  | complete =>
      rcases ends with ⟨failed, after, ran, installed⟩
      exact ⟨failed, after, ran, by rwa [← List.append_assoc]⟩
  | reported =>
      rcases ends with ⟨more, failed, fault, after, ran, installed⟩
      exact ⟨written ++ more, failed, fault, after, ran, by rwa [← List.append_assoc]⟩
  | torn =>
      rcases ends with ⟨more, failed, after, ran, installed, fewer⟩
      refine ⟨written ++ more, failed, after, ran, by rwa [← List.append_assoc], ?_⟩
      rw [List.length_append, List.length_append]
      omega

theorem write_loop_nothing_left (installed : Installed name content failed sink) (fuel : Nat)
    (short : blob.length < 2 ^ 32) :
    EndsAs name content (blob.drop blob.length)
      ((writeLoop params blob (fuel + 1) blob.length blob.length).run sink) .complete := by
  have size : toSize (blob.length : Int) = blob.length := to_size_natCast (by omega)
  refine ⟨failed, sink, ?_, by rwa [List.drop_length, List.append_nil]⟩
  rw [writeLoop, size, if_neg (Nat.lt_irrefl _), EStateM.run_pure]

/-- The loop ends as its outcomes say. -/
theorem write_loop_ends (itemsize : params.itemsize = 1) (short : blob.length < 2 ^ 32)
    (outcomes : List WriteOutcome) (fuel before : Nat) (inside : before ≤ blob.length)
    (enough : blob.length - before < fuel) (installed : Installed name content failed sink)
    (next : sink.outcomes = outcomes) :
    EndsAs name content (blob.drop before) ((writeLoop params blob fuel before before).run sink)
      (ending failed outcomes (blob.length - before)) := by
  induction outcomes generalizing fuel before content failed sink with
  | nil =>
      obtain ⟨fuel, rfl⟩ : ∃ more, fuel = more + 1 := ⟨fuel - 1, by omega⟩
      rcases Nat.eq_or_lt_of_le inside with rfl | left
      · exact write_loop_nothing_left installed fuel short
      · obtain ⟨fuel, rfl⟩ : ∃ more, fuel = more + 1 := ⟨fuel - 1, by omega⟩
        obtain ⟨after, written, _, round⟩ :=
          write_loop_round itemsize short left (fuel + 1) installed
        simp only [next, granted] at written round
        have whole : (blob.drop before).take (blob.length - before) = blob.drop before :=
          List.take_of_length_le (by rw [List.length_drop])
        rw [whole] at written
        rw [round, if_neg (by omega), write_loop_over short (by omega) (by omega) (.inl (by omega))]
        exact ⟨_, after, rfl, written⟩
  | cons outcome outcomes induction =>
      obtain ⟨fuel, rfl⟩ : ∃ more, fuel = more + 1 := ⟨fuel - 1, by omega⟩
      rcases Nat.eq_or_lt_of_le inside with rfl | left
      · rw [Nat.sub_self, ending_of_nothing_left]
        exact write_loop_nothing_left installed fuel short
      · obtain ⟨fuel, rfl⟩ : ∃ more, fuel = more + 1 := ⟨fuel - 1, by omega⟩
        obtain ⟨after, written, rest, round⟩ :=
          write_loop_round itemsize short left (fuel + 1) installed
        simp only [next, granted, flagged, List.tail_cons] at written rest round
        have remaining : (blob.drop before).length = blob.length - before := List.length_drop
        rw [round]
        rcases outcome_cases outcome (blob.length - before) with
          stalled | ⟨positive, finished⟩ | ⟨positive, partly, overflowed⟩ |
          ⟨positive, partly, small⟩
        · rw [ending_stalled failed outcomes (by omega) stalled, if_pos (by omega)]
          cases failed || outcome.error with
          | true => exact ⟨_, _, _, after, rfl, written⟩
          | false => exact ⟨_, _, after, rfl, written, by simp [stalled]; omega⟩
        · have whole : (blob.drop before).take (min outcome.items (blob.length - before)) =
              blob.drop before := List.take_of_length_le (by omega)
          rw [whole] at written
          rw [ending_finished failed outcomes (by omega) finished, if_neg (by omega),
            write_loop_over short (by omega) (by omega) (.inl (by omega))]
          exact ⟨_, after, rfl, written⟩
        · rw [Nat.min_eq_left (Nat.le_of_lt partly)] at written ⊢
          rw [ending_overflowed failed outcomes partly overflowed, if_neg (by omega),
            write_loop_over short (by omega) (by omega) (.inr overflowed)]
          refine ⟨_, _, after, rfl, written, ?_⟩
          rw [List.length_take]
          omega
        · -- the loop goes on behind what it has written
          rw [Nat.min_eq_left (Nat.le_of_lt partly)] at written ⊢
          have counted : toInt (outcome.items : Int) = outcome.items :=
            to_int_small (by omega) (by omega)
          have reached : (before : Int) + outcome.items = (before + outcome.items : Nat) := rfl
          have later := induction (fuel + 1) (before + outcome.items) (by omega) (by omega)
            written rest
          have split : (blob.drop before).take outcome.items ++
              blob.drop (before + outcome.items) = blob.drop before := by
            rw [← List.drop_drop, List.take_append_drop]
          rw [ending_continued failed outcomes positive partly small, if_neg (by omega), counted,
            reached, ← split, Nat.sub_sub]
          exact ends_as_after later

/-! ## The ending in terms of the outcomes -/

/-- The loop goes on past these outcomes with bytes left to write. -/
def Passes (outcomes : List WriteOutcome) (length : Nat) : Prop :=
  (∀ outcome ∈ outcomes, 0 < outcome.items ∧ outcome.items < 2 ^ 31) ∧
    (outcomes.map WriteOutcome.items).sum < length

/-- An `fwrite` writes nothing while bytes are left, and the error flag is set by
it or was set before. -/
def StallsWithError (failed : Bool) (outcomes : List WriteOutcome) (length : Nat) : Prop :=
  ∃ earlier outcome later, outcomes = earlier ++ outcome :: later ∧ Passes earlier length ∧
    outcome.items = 0 ∧ (failed = true ∨ ∃ passed ∈ earlier ++ [outcome], passed.error = true)

/-- As long as bytes are left, each `fwrite` writes some, and no more than an
`int` can count unless it writes all of them. -/
def Unbroken (outcomes : List WriteOutcome) (length : Nat) : Prop :=
  ∀ earlier outcome later, outcomes = earlier ++ outcome :: later → Passes earlier length →
    0 < outcome.items ∧
      (outcome.items < 2 ^ 31 ∨
        length ≤ (earlier.map WriteOutcome.items).sum + outcome.items)

theorem passes_nil_iff (length : Nat) : Passes [] length ↔ 0 < length := by
  simp [Passes]

theorem passes_cons_iff (outcome : WriteOutcome) (outcomes : List WriteOutcome) (length : Nat) :
    Passes (outcome :: outcomes) length ↔
      (0 < outcome.items ∧ outcome.items < 2 ^ 31 ∧ outcome.items < length) ∧
        Passes outcomes (length - outcome.items) := by
  simp only [Passes, List.forall_mem_cons, List.map_cons, List.sum_cons]
  constructor
  · rintro ⟨⟨⟨positive, small⟩, all⟩, sum⟩
    exact ⟨⟨positive, small, by omega⟩, all, by omega⟩
  · rintro ⟨⟨positive, small, _⟩, all, sum⟩
    exact ⟨⟨⟨positive, small⟩, all⟩, by omega⟩

theorem unbroken_nil (length : Nat) : Unbroken [] length := by
  intro earlier outcome later split
  simp at split

theorem not_stalls_nil (failed : Bool) (length : Nat) : ¬StallsWithError failed [] length := by
  rintro ⟨earlier, outcome, later, split, _⟩
  simp at split

theorem not_passes_zero (outcomes : List WriteOutcome) : ¬Passes outcomes 0 :=
  fun passes => Nat.not_lt_zero _ passes.2

theorem unbroken_cons_iff (outcome : WriteOutcome) (outcomes : List WriteOutcome) {length : Nat}
    (left : 0 < length) :
    Unbroken (outcome :: outcomes) length ↔
      0 < outcome.items ∧ (length ≤ outcome.items ∨
        outcome.items < 2 ^ 31 ∧ Unbroken outcomes (length - outcome.items)) := by
  constructor
  · intro unbroken
    have here := unbroken [] outcome outcomes rfl ((passes_nil_iff length).2 left)
    simp only [List.map_nil, List.sum_nil, Nat.zero_add] at here
    refine ⟨here.1, ?_⟩
    rcases Nat.lt_or_ge outcome.items length with partly | finishes
    · right
      refine ⟨by omega, ?_⟩
      rintro earlier next later rfl passes
      have step := unbroken (outcome :: earlier) next later rfl
        ((passes_cons_iff outcome earlier length).2 ⟨⟨here.1, by omega, partly⟩, passes⟩)
      simp only [List.map_cons, List.sum_cons] at step
      omega
    · exact .inl finishes
  · rintro ⟨positive, rest⟩ earlier next later split passes
    cases earlier with
    | nil =>
        rw [List.nil_append, List.cons.injEq] at split
        rcases split with ⟨rfl, rfl⟩
        simp only [List.map_nil, List.sum_nil]
        omega
    | cons head earlier =>
        rw [List.cons_append, List.cons.injEq] at split
        rcases split with ⟨rfl, rfl⟩
        have passed := (passes_cons_iff outcome earlier length).1 passes
        rcases rest with finishes | ⟨_, unbroken⟩
        · omega
        · have step := unbroken earlier next later rfl passed.2
          simp only [List.map_cons, List.sum_cons]
          omega

theorem stalls_cons_iff (failed : Bool) (outcome : WriteOutcome) (outcomes : List WriteOutcome)
    {length : Nat} (left : 0 < length) :
    StallsWithError failed (outcome :: outcomes) length ↔
      (outcome.items = 0 ∧ (failed || outcome.error) = true) ∨
        (0 < outcome.items ∧ outcome.items < 2 ^ 31 ∧ outcome.items < length) ∧
          StallsWithError (failed || outcome.error) outcomes (length - outcome.items) := by
  constructor
  · rintro ⟨earlier, stalled, later, split, passes, nothing, flag⟩
    cases earlier with
    | nil =>
        rw [List.nil_append, List.cons.injEq] at split
        rcases split with ⟨rfl, rfl⟩
        left
        refine ⟨nothing, ?_⟩
        rw [Bool.or_eq_true]
        simpa using flag
    | cons head earlier =>
        rw [List.cons_append, List.cons.injEq] at split
        rcases split with ⟨rfl, rfl⟩
        have passed := (passes_cons_iff outcome earlier length).1 passes
        right
        refine ⟨passed.1, earlier, stalled, later, rfl, passed.2, nothing, ?_⟩
        rw [Bool.or_eq_true, or_assoc]
        simpa using flag
  · intro stalls
    rcases stalls with ⟨nothing, flag⟩ |
      ⟨partly, earlier, stalled, later, rfl, passes, nothing, flag⟩
    · refine ⟨[], outcome, outcomes, rfl, (passes_nil_iff length).2 left, nothing, ?_⟩
      rw [Bool.or_eq_true] at flag
      simpa using flag
    · refine ⟨outcome :: earlier, stalled, later, rfl,
        (passes_cons_iff outcome earlier length).2 ⟨partly, passes⟩, nothing, ?_⟩
      rw [Bool.or_eq_true, or_assoc] at flag
      simpa using flag

theorem ending_complete_iff (failed : Bool) (outcomes : List WriteOutcome) (length : Nat) :
    ending failed outcomes length = .complete ↔ Unbroken outcomes length := by
  induction outcomes generalizing failed length with
  | nil => exact iff_of_true rfl (unbroken_nil length)
  | cons outcome outcomes induction =>
      rcases Nat.eq_zero_or_pos length with rfl | left
      · refine iff_of_true (ending_of_nothing_left _ _) ?_
        exact fun earlier _ _ _ passes => absurd passes (not_passes_zero earlier)
      · rw [unbroken_cons_iff outcome outcomes left]
        rcases outcome_cases outcome length with
          stalled | ⟨positive, finished⟩ | ⟨positive, partly, overflowed⟩ |
          ⟨positive, partly, small⟩
        · rw [ending_stalled failed outcomes left stalled]
          cases failed || outcome.error <;> simp [stalled]
        · exact iff_of_true (ending_finished failed outcomes left finished)
            ⟨positive, .inl finished⟩
        · rw [ending_overflowed failed outcomes partly overflowed]
          refine iff_of_false (by simp) ?_
          omega
        · rw [ending_continued failed outcomes positive partly small, induction]
          constructor
          · intro unbroken
            exact ⟨positive, .inr ⟨small, unbroken⟩⟩
          · rintro ⟨_, rest⟩
            exact (rest.resolve_left (Nat.not_le_of_lt partly)).2

theorem ending_reported_iff (failed : Bool) (outcomes : List WriteOutcome) (length : Nat) :
    ending failed outcomes length = .reported ↔ StallsWithError failed outcomes length := by
  induction outcomes generalizing failed length with
  | nil => exact iff_of_false (by simp [ending]) (not_stalls_nil failed length)
  | cons outcome outcomes induction =>
      rcases Nat.eq_zero_or_pos length with rfl | left
      · refine iff_of_false (by rw [ending_of_nothing_left]; simp) ?_
        rintro ⟨earlier, _, _, _, passes, _⟩
        exact not_passes_zero earlier passes
      · rw [stalls_cons_iff failed outcome outcomes left]
        rcases outcome_cases outcome length with
          stalled | ⟨positive, finished⟩ | ⟨positive, partly, overflowed⟩ |
          ⟨positive, partly, small⟩
        · rw [ending_stalled failed outcomes left stalled]
          cases failed || outcome.error <;> simp [stalled]
        · rw [ending_finished failed outcomes left finished]
          refine iff_of_false (by simp) ?_
          omega
        · rw [ending_overflowed failed outcomes partly overflowed]
          refine iff_of_false (by simp) ?_
          omega
        · rw [ending_continued failed outcomes positive partly small, induction]
          constructor
          · intro stall
            exact .inr ⟨⟨positive, small, partly⟩, stall⟩
          · intro stall
            exact (stall.resolve_left fun here => Nat.ne_of_gt positive here.1).2

/-! ## One message -/

/-- The 8-byte header and the whole payload of a message. -/
def recordCells (pdu : Pdu) : Bytes :=
  if pdu.hasHeader then pdu.blob
  else (headerFor pdu.uncompressedSize pdu.compressedSize).bytes ++ pdu.blob

/-- The write loop stalls with an error, or the header is written and the loop is unbroken. -/
def WholeOrReported (failed : Bool) (outcomes : List WriteOutcome) (pdu : Pdu) : Prop :=
  if pdu.hasHeader then
    StallsWithError failed outcomes pdu.blob.length ∨ Unbroken outcomes pdu.blob.length
  else
    StallsWithError (failed || flagged outcomes) outcomes.tail pdu.blob.length ∨
      (granted outcomes 1 = 1 ∧ Unbroken outcomes.tail pdu.blob.length)

theorem compressed_in_headed (pdu : Pdu) (headed : pdu.hasHeader = true)
    (installed : Installed name content failed sink) :
    (compressedIn params pdu).run sink =
      (writeLoop params pdu.blob (pdu.blob.length + 1) 0 0).run sink := by
  rcases installed.file with ⟨file, opened, _⟩
  simp only [compressedIn, EStateM.run_bind, EStateM.run_get, opened, headed, Bool.not_true,
    Bool.false_eq_true, if_false]

/-- Without a header in the message, one is written first; what that comes to is ignored. -/
theorem compressed_in_bare (params : SinkParams) (pdu : Pdu) (bare : pdu.hasHeader = false)
    (installed : Installed name content failed sink) :
    ∃ headed, Installed name
        (content ++ (headerFor pdu.uncompressedSize pdu.compressedSize).bytes.take
          (headerSize * granted sink.outcomes 1)) (failed || flagged sink.outcomes) headed ∧
      headed.outcomes = sink.outcomes.tail ∧
      (compressedIn params pdu).run sink =
        (writeLoop params pdu.blob (pdu.blob.length + 1) 0 0).run headed := by
  rcases installed.file with ⟨file, opened, _⟩
  have width := header_bytes_length (headerFor pdu.uncompressedSize pdu.compressedSize)
  have inside : 0 + headerSize * 1 ≤
      (headerFor pdu.uncompressedSize pdu.compressedSize).bytes.length := by omega
  obtain ⟨headed, wrote, headedInstalled, rest⟩ := fwrite_granted installed inside
  refine ⟨headed, headedInstalled, rest, ?_⟩
  simp only [compressedIn, EStateM.run_bind, EStateM.run_get, opened, bare, Bool.not_false,
    if_true, wrote]

/-- The whole blob goes through one write loop. -/
theorem write_blob_ends (params : SinkParams) (blob : Bytes) (itemsize : params.itemsize = 1)
    (short : blob.length < 2 ^ 32)
    (installed : Installed name content failed sink) :
    EndsAs name content blob ((writeLoop params blob (blob.length + 1) 0 0).run sink)
      (ending failed sink.outcomes blob.length) :=
  write_loop_ends itemsize short sink.outcomes (blob.length + 1) 0 (Nat.zero_le _) (by omega)
    installed rfl

/-- A loop leaves exactly its bytes, unless it fails, exactly if it does not end torn. -/
theorem ends_whole_iff {remaining : Bytes} {result : EStateM.Result Fault FileSink Unit}
    {how : Ending} (ends : EndsAs name content remaining result how) :
    (∀ after, result = .ok () after → after.disk.content name = content ++ remaining) ↔
      how = .reported ∨ how = .complete := by
  cases how with
  | complete =>
      rcases ends with ⟨failed, after, rfl, installed⟩
      refine iff_of_true ?_ (.inr rfl)
      intro other same
      rw [EStateM.Result.ok.injEq] at same
      rw [← same.2, installed.content]
  | reported =>
      rcases ends with ⟨written, failed, fault, after, rfl, _⟩
      exact iff_of_true (by simp) (.inl rfl)
  | torn =>
      rcases ends with ⟨written, failed, after, rfl, installed, fewer⟩
      refine iff_of_false ?_ (by simp)
      intro whole
      have lengths := congrArg List.length (whole after rfl)
      rw [installed.content, List.length_append, List.length_append] at lengths
      omega

/-- A loop that follows a missing header never completes the record. -/
theorem ends_headerless_iff {missing remaining : Bytes}
    {result : EStateM.Result Fault FileSink Unit} {how : Ending}
    (ends : EndsAs name content remaining result how) (positive : 0 < missing.length) :
    (∀ after, result = .ok () after →
      after.disk.content name = content ++ (missing ++ remaining)) ↔ how = .reported := by
  have longer : ∀ written : Bytes, written.length ≤ remaining.length →
      content ++ written ≠ content ++ (missing ++ remaining) := by
    intro written fewer same
    have lengths := congrArg List.length same
    simp only [List.length_append] at lengths
    omega
  cases how with
  | complete =>
      rcases ends with ⟨failed, after, rfl, installed⟩
      refine iff_of_false ?_ (by simp)
      intro whole
      exact longer remaining (Nat.le_refl _) (installed.content.symm.trans (whole after rfl))
  | reported =>
      rcases ends with ⟨written, failed, fault, after, rfl, _⟩
      exact iff_of_true (by simp) rfl
  | torn =>
      rcases ends with ⟨written, failed, after, rfl, installed, fewer⟩
      refine iff_of_false ?_ (by simp)
      intro whole
      exact longer written (Nat.le_of_lt fewer) (installed.content.symm.trans (whole after rfl))

theorem compressed_in_whole_iff (itemsize : params.itemsize = 1)
    (installed : Installed name content failed sink) (pdu : Pdu)
    (short : pdu.blob.length < 2 ^ 32) :
    (∀ after, (compressedIn params pdu).run sink = .ok () after →
      after.disk.content name = content ++ recordCells pdu) ↔
        WholeOrReported failed sink.outcomes pdu := by
  cases shape : pdu.hasHeader with
  | true =>
      have ends := write_blob_ends params pdu.blob itemsize short installed
      rw [compressed_in_headed pdu shape installed, recordCells, if_pos shape, WholeOrReported,
        if_pos shape, ends_whole_iff ends, ending_reported_iff, ending_complete_iff]
  | false =>
      obtain ⟨headed, headedInstalled, rest, ran⟩ := compressed_in_bare params pdu shape installed
      have width := header_bytes_length (headerFor pdu.uncompressedSize pdu.compressedSize)
      have bare : ¬pdu.hasHeader = true := by simp [shape]
      have ends := write_blob_ends params pdu.blob itemsize short headedInstalled
      rw [ran, recordCells, if_neg bare, WholeOrReported, if_neg bare]
      rw [rest] at ends
      have choice : granted sink.outcomes 1 = 0 ∨ granted sink.outcomes 1 = 1 := by
        have bound := granted_le sink.outcomes 1
        omega
      rcases choice with missing | written
      · rw [missing, Nat.mul_zero, List.take_zero, List.append_nil] at ends
        have positive : 0 < (headerFor pdu.uncompressedSize
            pdu.compressedSize).bytes.length := by
          rw [width]
          decide
        rw [ends_headerless_iff ends positive, ending_reported_iff, missing]
        simp
      · have whole : (headerFor pdu.uncompressedSize pdu.compressedSize).bytes.take
            (headerSize * 1) = (headerFor pdu.uncompressedSize pdu.compressedSize).bytes :=
          List.take_of_length_le (by omega)
        rw [written, whole] at ends
        rw [← List.append_assoc, ends_whole_iff ends, ending_reported_iff, ending_complete_iff,
          and_iff_right written]

/-! ## Any number of messages -/

/-- The states of a sink that was constructed on the file `name`, whatever its
writes come to. Handles may be opened and closed meanwhile, as long as that does
not truncate the file that is being written. -/
inductive Reached (params : SinkParams) (name : String) : FileSink → Prop where
  | made (unbuffered append : Bool) (disk : Disk UInt8) (first second : Opening) (sink : FileSink)
      (outcomes : List WriteOutcome)
      (constructed : (make name unbuffered first second).run (unopened append disk) = .ok () sink) :
      Reached params name { sink with outcomes := outcomes }
  | message (sink : FileSink) (pdu : Pdu) (after : FileSink) (earlier : Reached params name sink)
      (short : pdu.blob.length < 2 ^ 32)
      (left : (compressedIn params pdu).run sink = .ok () after ∨
        ∃ fault, (compressedIn params pdu).run sink = .error fault after) :
      Reached params name after
  | opened (sink : FileSink) (other : String) (opening : Opening) (result : Bool)
      (after : FileSink) (earlier : Reached params name sink)
      (kept : other ≠ name ∨ sink.append = true)
      (ran : (openFile other opening).run sink = .ok result after) : Reached params name after
  | closed (sink after : FileSink) (earlier : Reached params name sink)
      (ran : close.run sink = .ok () after) : Reached params name after

/-- Whatever is installed is the file `name`, written at its end. -/
def AtEndOf (name : String) (sink : FileSink) : Prop :=
  ∀ file, sink.fp = some file → file.name = name ∧ file.AtEnd sink.disk

theorem installed_of_at_end {file : WriteFile} (atEnd : AtEndOf name sink)
    (opened : sink.fp = some file) :
    Installed name (sink.disk.content name) file.failed sink := by
  obtain ⟨named, position⟩ := atEnd file opened
  exact ⟨⟨file, opened, named, rfl, position⟩, rfl⟩

theorem at_end_of_installed (installed : Installed name content failed sink) :
    AtEndOf name sink := by
  rcases installed.file with ⟨file, opened, named, _, position⟩
  intro other same
  rw [opened, Option.some.injEq] at same
  exact same ▸ ⟨named, position⟩

/-- The state that a call has left, returned or thrown. -/
theorem left_by_ok {stopped after : FileSink}
    (left : (.ok () stopped : EStateM.Result Fault FileSink Unit) = .ok () after ∨
      ∃ fault, (.ok () stopped : EStateM.Result Fault FileSink Unit) = .error fault after) :
    stopped = after := by
  simpa using left

theorem left_by_error {fault : Fault} {stopped after : FileSink}
    (left : (.error fault stopped : EStateM.Result Fault FileSink Unit) = .ok () after ∨
      ∃ other, (.error fault stopped : EStateM.Result Fault FileSink Unit) = .error other after) :
    stopped = after := by
  simpa using left

/-- A loop leaves its file installed, however it ends. -/
theorem at_end_of_ends {remaining : Bytes} {result : EStateM.Result Fault FileSink Unit}
    {how : Ending} (ends : EndsAs name content remaining result how) {after : FileSink}
    (left : result = .ok () after ∨ ∃ fault, result = .error fault after) :
    AtEndOf name after := by
  cases how with
  | complete =>
      rcases ends with ⟨failed, stopped, rfl, installed⟩
      exact left_by_ok left ▸ at_end_of_installed installed
  | reported =>
      rcases ends with ⟨written, failed, fault, stopped, rfl, installed⟩
      exact left_by_error left ▸ at_end_of_installed installed
  | torn =>
      rcases ends with ⟨written, failed, stopped, rfl, installed, _⟩
      exact left_by_ok left ▸ at_end_of_installed installed

theorem message_at_end (itemsize : params.itemsize = 1) {pdu : Pdu} {after : FileSink}
    (atEnd : AtEndOf name sink) (short : pdu.blob.length < 2 ^ 32)
    (left : (compressedIn params pdu).run sink = .ok () after ∨
      ∃ fault, (compressedIn params pdu).run sink = .error fault after) :
    AtEndOf name after := by
  cases opened : sink.fp with
  | none =>
      have dropped : (compressedIn params pdu).run sink = .ok () sink := by
        simp only [compressedIn, EStateM.run_bind, EStateM.run_get, opened, EStateM.run_pure]
      rw [dropped] at left
      exact left_by_ok left ▸ atEnd
  | some file =>
      have installed := installed_of_at_end atEnd opened
      cases shape : pdu.hasHeader with
      | true =>
          rw [compressed_in_headed pdu shape installed] at left
          exact at_end_of_ends (write_blob_ends params pdu.blob itemsize short installed) left
      | false =>
          obtain ⟨headed, headedInstalled, _, ran⟩ := compressed_in_bare params pdu shape installed
          rw [ran] at left
          exact at_end_of_ends (write_blob_ends params pdu.blob itemsize short headedInstalled) left

/-- A file that has just been created, truncated or opened for appending. -/
theorem opened_at_end (disk : Disk UInt8) (name : String) (append : Bool) (descriptor : Nat) :
    WriteFile.AtEnd
      { descriptor := descriptor, name := name, position := 0, append := append, failed := false }
      (disk.opened name append) := by
  cases append <;> simp [WriteFile.AtEnd, WriteFile.target, Disk.opened]

theorem make_at_end {unbuffered append : Bool} {disk : Disk UInt8} {first second : Opening}
    (constructed : (make name unbuffered first second).run (unopened append disk) = .ok () sink) :
    AtEndOf name sink := by
  cases first with
  | openFails => cases constructed
  | fdopenFails => cases constructed
  | succeeds =>
      cases second with
      | openFails =>
          cases constructed
          intro file opened
          cases opened
          exact ⟨rfl, opened_at_end disk name append _⟩
      | fdopenFails =>
          cases constructed
          intro file opened
          cases opened
      | succeeds =>
          cases constructed
          intro file opened
          cases opened
          exact ⟨rfl, opened_at_end _ name append _⟩

/-- Opening another file, or this one for appending, leaves the end where it is. -/
theorem at_end_opened {file : WriteFile} {disk : Disk UInt8} (atEnd : file.AtEnd disk)
    {other : String} {append : Bool} (kept : other ≠ file.name ∨ append = true) :
    file.AtEnd (disk.opened other append) := by
  have same : Disk.content (disk.opened other append) file.name = disk.content file.name := by
    by_cases this : other = file.name
    · have appending : append = true := by simpa [this] using kept
      rw [Disk.opened, if_pos appending, this, content_set_same]
    · rw [Disk.opened, content_set_other _ _ (Ne.symm this)]
  unfold WriteFile.AtEnd WriteFile.target at atEnd ⊢
  rw [same]
  exact atEnd

theorem open_at_end {other : String} {opening : Opening} {result : Bool} {after : FileSink}
    (atEnd : AtEndOf name sink) (kept : other ≠ name ∨ sink.append = true)
    (ran : (openFile other opening).run sink = .ok result after) : AtEndOf name after := by
  have still : ∀ file, sink.fp = some file →
      file.name = name ∧ file.AtEnd (sink.disk.opened other sink.append) := by
    intro file opened
    obtain ⟨named, position⟩ := atEnd file opened
    exact ⟨named, at_end_opened position (by rwa [named])⟩
  cases opening with
  | openFails =>
      cases ran
      exact atEnd
  | fdopenFails =>
      cases ran
      exact still
  | succeeds =>
      cases ran
      exact still

theorem reached_at_end (itemsize : params.itemsize = 1) (reached : Reached params name sink) :
    AtEndOf name sink := by
  induction reached with
  | made unbuffered append disk first second sink outcomes constructed =>
      have atEnd := make_at_end constructed
      exact atEnd
  | message sink pdu after _ short left induction =>
      exact message_at_end itemsize induction short left
  | opened sink other opening result after _ kept ran induction =>
      exact open_at_end induction kept ran
  | closed sink after _ ran induction =>
      rw [close, EStateM.run_modify, EStateM.Result.ok.injEq] at ran
      rw [← ran.2]
      exact induction

/-- Unless the call fails, the file is extended by exactly the message's record:
this holds exactly if the payload stalls with an error or is written whole behind
a header that is written. -/
theorem record_whole_or_reported_iff (params : SinkParams) (itemsize : params.itemsize = 1)
    (name : String) (sink : FileSink) (reached : Reached params name sink) (file : WriteFile)
    (opened : sink.fp = some file) (pdu : Pdu) (short : pdu.blob.length < 2 ^ 32) :
    (∀ after, (compressedIn params pdu).run sink = .ok () after →
      after.disk.content name = sink.disk.content name ++ recordCells pdu) ↔
        WholeOrReported file.failed sink.outcomes pdu :=
  compressed_in_whole_iff itemsize
    (installed_of_at_end (reached_at_end itemsize reached) opened) pdu short

def byteItems : SinkParams where
  itemsize := 1
  itemsize_pos := Nat.one_pos

/-- A sink on an empty disk whose writes have these outcomes. -/
def freshSink (outcomes : List WriteOutcome) : FileSink where
  fp := some { descriptor := 1, name := "out", position := 0, append := false, failed := false }
  newFp := none
  updated := false
  append := false
  unbuffered := false
  handles := { next := 2, closed := [0] }
  disk := Disk.opened (Disk.opened (fun _ => none) "out" false) "out" false
  outcomes := outcomes

theorem fresh_sink_reached (params : SinkParams) (outcomes : List WriteOutcome) :
    Reached params "out" (freshSink outcomes) :=
  .made false false (fun _ => none) .succeeds .succeeds (freshSink []) outcomes rfl

/-- The write of the header fails and sets the error flag, the write of the
payload succeeds: the call returns and the file is a payload without a header. -/
theorem header_lost :
    Reached byteItems "out" (freshSink [⟨0, true⟩]) ∧
      ∃ after, (compressedIn byteItems
          (payloadPdu false 1 [7])).run (freshSink [⟨0, true⟩]) = .ok () after ∧
        after.disk.content "out" = [7] ∧
        after.disk.content "out" ≠ (freshSink [⟨0, true⟩]).disk.content "out" ++
          recordCells (payloadPdu false 1 [7]) := by
  have installed : Installed "out" [] false (freshSink [⟨0, true⟩]) :=
    ⟨⟨_, rfl, rfl, rfl, rfl⟩, rfl⟩
  obtain ⟨headed, headedInstalled, rest, ran⟩ :=
    compressed_in_bare byteItems (payloadPdu false 1 [7]) rfl installed
  have ends := write_blob_ends byteItems [7] rfl (by decide) headedInstalled
  rw [rest] at ends
  rcases ends with ⟨flag, after, looped, written⟩
  refine ⟨fresh_sink_reached _ _, after, ran.trans looped, written.content, ?_⟩
  rw [written.content]
  intro same
  have lengths : [(7 : UInt8)].length = 9 := congrArg List.length same
  simp at lengths

/-- The header, then the payload in three parts. -/
theorem record_whole_or_reported_iff_three_writes :
    (∀ after, (compressedIn byteItems (payloadPdu false 3 [1, 2, 3])).run
        (freshSink [⟨1, false⟩, ⟨1, true⟩, ⟨1, false⟩]) = .ok () after →
      after.disk.content "out" =
        (freshSink [⟨1, false⟩, ⟨1, true⟩, ⟨1, false⟩]).disk.content "out" ++
          recordCells (payloadPdu false 3 [1, 2, 3])) ∧
      WholeOrReported false [⟨1, false⟩, ⟨1, true⟩, ⟨1, false⟩] (payloadPdu false 3 [1, 2, 3]) := by
  have whole : WholeOrReported false [⟨1, false⟩, ⟨1, true⟩, ⟨1, false⟩]
      (payloadPdu false 3 [1, 2, 3]) := by
    refine .inr ⟨rfl, ?_⟩
    rw [← ending_complete_iff false]
    rfl
  exact ⟨(record_whole_or_reported_iff byteItems rfl "out" _ (fresh_sink_reached _ _) _ rfl
    (payloadPdu false 3 [1, 2, 3]) (by decide)).2 whole, whole⟩

end GrCompress.PartialWrites
