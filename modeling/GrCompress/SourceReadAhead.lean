import GrCompress.SourcePlayer

/-!
# What a file source reads

What the player reads for a call, it delivers or keeps in its queue, whatever is
opened, sought or closed in between; and it does not read on once a request can
be served. Both carry over to the source, over runs of calls in any order.
-/

namespace GrCompress.SourceReadAhead

open GrCompress.CallRuns
open GrCompress.CheckedStorage
open GrCompress.OpenFiles
open GrCompress.LengthFraming
open GrCompress.ZstdCodec
open GrCompress.RecordFormat
open GrCompress.FileSourceBlock
open GrCompress.FilePlayback (threeByteFile)
open GrCompress.StoredFrameCodec
open GrCompress.HandleOwnership (SourceOperation)
open GrCompress.SourcePlayer

set_option autoImplicit false

variable (zstd : Zstd) (params : SourceParams)

/-! ## What a call takes -/

/-- The records that a call takes from the tape; one that fails takes none. -/
def takes (player : Player) : SourceOperation → List Record
  | .work noutputItems =>
      match player.install.tape with
      | none => []
      | some tape =>
          if player.install.queue.length < noutputItems * params.itemsize ∧
              player.install.running = false then []
          else player.install.reads zstd tape (noutputItems * params.itemsize)
  | _ => []

/-- The records that a run takes, in the order in which it takes them. -/
def taken (player : Player) : List SourceOperation → List Record
  | [] => []
  | op :: rest =>
      takes zstd params player op ++
        taken (settle (Player.call zstd params) player op).2 rest

/-- What a request can come to, and the records it takes. -/
inductive Request (noutputItems : Nat) :
    Player → Except Fault StreamOutput → Player → List Record → Prop where
  | refused (player : Player) (fault : Fault) :
      Request noutputItems player (.error fault) player []
  | served (player : Player) (tape : Tape) (decoded : List Record)
      (playing : player.tape = some tape)
      (reads : player.reads zstd tape (noutputItems * params.itemsize) = decoded)
      (enough : noutputItems * params.itemsize ≤ (player.filled zstd decoded).length) :
      Request noutputItems player
        (.ok { returned := noutputItems
               items := (player.filled zstd decoded).take (noutputItems * params.itemsize) })
        { player with
          queue := (player.filled zstd decoded).drop (noutputItems * params.itemsize)
          tape := some (tape.wind (encodeFrames decoded).length) } decoded
  | ended (player : Player) (tape : Tape) (decoded : List Record)
      (playing : player.tape = some tape)
      (reads : player.reads zstd tape (noutputItems * params.itemsize) = decoded)
      (tooFew : (player.filled zstd decoded).length < noutputItems * params.itemsize) :
      Request noutputItems player
        (.ok { returned := if player.repeats then 0 else workDone, items := [] })
        { player with
          queue := player.filled zstd decoded
          tape := some (if player.repeats then tape.rewind else tape.exhaust) } decoded

section Reading

variable {zstd params}

theorem install_queue (player : Player) : player.install.queue = player.queue := by
  unfold Player.install
  split <;> rfl

/-- The staged tape is put in place, and a request made. -/
theorem work_requests (player : Player) (noutputItems : Nat) :
    ∃ answer after,
      settle (Player.call zstd params) player (.work noutputItems) =
        (answer.map Answer.served, after) ∧
      Request zstd params noutputItems player.install answer after
        (takes zstd params player (.work noutputItems)) := by
  have installs : (Player.call zstd params (.work noutputItems)).run player =
      (Player.playOn zstd params noutputItems >>=
        fun output => pure (Answer.served output)).run player.install := rfl
  simp only [settle, installs, EStateM.run_bind, EStateM.run_pure, takes]
  cases playing : player.install.tape with
  | none =>
      have refused : (Player.playOn zstd params noutputItems).run player.install =
          .error (.exception "work with file not open") player.install := by
        simp only [Player.playOn, EStateM.run_bind, EStateM.run_get, playing]
        rfl
      rw [refused]
      exact ⟨.error _, player.install, rfl, .refused player.install _⟩
  | some tape =>
      by_cases unable : player.install.queue.length < noutputItems * params.itemsize ∧
          player.install.running = false
      · have refused : (Player.playOn zstd params noutputItems).run player.install =
            .error .nullPointer player.install := by
          simp only [Player.playOn, EStateM.run_bind, EStateM.run_get, playing, if_pos unable]
          rfl
        rw [refused]
        simp only [if_pos unable]
        exact ⟨.error _, player.install, rfl, .refused player.install _⟩
      · simp only [if_neg unable]
        rcases Nat.lt_or_ge (player.install.filled zstd
            (player.install.reads zstd tape (noutputItems * params.itemsize))).length
              (noutputItems * params.itemsize) with tooFew | enough
        · rw [play_on_ended playing unable rfl tooFew]
          exact ⟨.ok _, _, rfl, .ended player.install tape _ playing rfl tooFew⟩
        · rw [play_on_served playing unable rfl enough]
          exact ⟨.ok _, _, rfl, .served player.install tape _ playing rfl enough⟩

theorem request_conserves {noutputItems : Nat} {before after : Player}
    {answer : Except Fault StreamOutput} {decoded : List Record}
    (request : Request zstd params noutputItems before answer after decoded) :
    Answer.items (answer.map Answer.served) ++ after.queue =
      before.queue ++ recordsBytes zstd decoded := by
  cases request with
  | refused fault => exact (List.append_nil _).symm
  | served tape _ playing reads enough => exact List.take_append_drop _ _
  | ended tape _ playing reads tooFew => rfl

variable (zstd params) in
/-- A seek changes the place on the tape and nothing else. -/
theorem seek_settles (player : Player) (seekPoint : Int) (whence : Whence) :
    Answer.items (settle (Player.call zstd params) player (.seek seekPoint whence)).1 = [] ∧
      (settle (Player.call zstd params) player (.seek seekPoint whence)).2.queue =
        player.queue ∧
      (settle (Player.call zstd params) player (.seek seekPoint whence)).2.tape.map Tape.content =
        player.tape.map Tape.content ∧
      (settle (Player.call zstd params) player (.seek seekPoint whence)).2.staged =
        player.staged := by
  have kept : KeepsAt (fun player => (player.queue, player.tape.map Tape.content, player.staged))
      player (Player.call zstd params (.seek seekPoint whence)) := by
    apply keeps_at_bind_pure
    apply keeps_at_get_bind
    cases playing : player.tape with
    | none => apply keeps_at_throw
    | some tape =>
        dsimp only
        unfold Tape.moveTo
        split
        · apply keeps_at_pure
        · rename_i moved sought
          apply keeps_at_bind_pure
          apply keeps_at_set
          simp only [Option.ite_none_right_eq_some, Option.some.injEq] at sought
          rw [← sought.2, playing]
          rfl
  have parts := leave_keeps kept
  rw [settle_state]
  simp only [Prod.mk.injEq] at parts
  refine ⟨?_, parts⟩
  simp only [settle, Player.call, EStateM.run_bind, EStateM.run_pure]
  cases (Player.seek params seekPoint whence).run player <;> rfl

variable (zstd params) in
/-- A call delivers from the front of the queue and puts what it reads at the back. -/
theorem call_conserves (player : Player) (op : SourceOperation) :
    Answer.items (settle (Player.call zstd params) player op).1 ++
        (settle (Player.call zstd params) player op).2.queue =
      player.queue ++ recordsBytes zstd (takes zstd params player op) := by
  have unread : player.queue = player.queue ++ recordsBytes zstd [] := (List.append_nil _).symm
  cases op with
  | openFile content opening repeats => cases opening <;> exact unread
  | close => exact unread
  | doUpdate => exact (install_queue player).trans unread
  | stop => exact unread
  | seek seekPoint whence =>
      obtain ⟨silent, kept, _⟩ := seek_settles zstd params player seekPoint whence
      rw [silent, kept]
      exact unread
  | setBeginTag present => exact unread
  | work noutputItems =>
      obtain ⟨answer, after, settled, request⟩ := work_requests player noutputItems
      have conserved := request_conserves request
      rw [settled, ← install_queue player]
      exact conserved

variable (zstd params) in
theorem run_conserves (player : Player) (calls : List SourceOperation) :
    (answers (settle (Player.call zstd params)) player calls).1.flatMap Answer.items ++
        (answers (settle (Player.call zstd params)) player calls).2.queue =
      player.queue ++ recordsBytes zstd (taken zstd params player calls) := by
  induction calls generalizing player with
  | nil => exact (List.append_nil _).symm
  | cons op rest induction =>
      have first := call_conserves zstd params player op
      have later := induction (settle (Player.call zstd params) player op).2
      simp only [answers, List.flatMap_cons, List.append_assoc, later, taken,
        records_bytes_append]
      rw [← List.append_assoc, first, List.append_assoc]

end Reading

/-- What the calls on a source have delivered and what it has queued are the plain
bytes of the records that the player takes, in the order in which it takes them. -/
theorem source_delivers_what_it_takes (bounded : zstd.DecompressBounded) (content : Bytes)
    (repeats : Bool) (calls : List SourceOperation) :
    ∃ made, (make content .succeeds repeats).run (unopened repeats) = .ok () made ∧
      (answers (settle (sourceCall zstd params)) made calls).1.flatMap Answer.items ++
          (answers (settle (sourceCall zstd params)) made calls).2.byteQueue =
        recordsBytes zstd (taken zstd params (Player.loaded content repeats) calls) := by
  obtain ⟨made, constructed, alike⟩ := made_answers zstd params bounded content repeats calls
  have conserved := run_conserves zstd params (Player.loaded content repeats) calls
  rw [alike] at conserved
  exact ⟨made, constructed, conserved⟩

theorem source_delivers_every_call :
    ∃ made, (make threeByteFile .succeeds false).run (unopened false) = .ok () made ∧
      (answers (settle (sourceCall storedZstd { itemsize := 1, itemsize_pos := Nat.one_pos }))
          made everyCall).1.flatMap Answer.items ++
          (answers (settle (sourceCall storedZstd { itemsize := 1, itemsize_pos := Nat.one_pos }))
            made everyCall).2.byteQueue =
        recordsBytes storedZstd (taken storedZstd
          { itemsize := 1, itemsize_pos := Nat.one_pos } (Player.loaded threeByteFile false)
          everyCall) :=
  source_delivers_what_it_takes storedZstd { itemsize := 1, itemsize_pos := Nat.one_pos }
    stored_decompress_bounded threeByteFile false everyCall

/-! ## How much is read ahead -/

/-- No record that a seek could reach decodes to more than `most` bytes. -/
def RecordsWithin (most : Nat) (content : Bytes) : Prop :=
  ∀ position, ∀ record ∈ records (content.drop position), (recordBytes zstd record).length ≤ most

/-- A file that is opened has records within `most`, a request is for at most `wanted` bytes. -/
def Modest (most wanted : Nat) : SourceOperation → Prop
  | .openFile content _ _ => RecordsWithin zstd most content
  | .work noutputItems => noutputItems * params.itemsize ≤ wanted
  | _ => True

/-- The queue is shorter than the longest request or the longest record; there may
be neither. -/
structure Ahead (most wanted : Nat) (player : Player) : Prop where
  queue : player.queue.length ≤ max most wanted - 1
  tape : ∀ tape, player.tape = some tape → RecordsWithin zstd most tape.content
  staged : ∀ tape, player.staged = some (some tape) → RecordsWithin zstd most tape.content

section Bounds

variable {zstd params} {most wanted : Nat}

/-- The last record needed is added to a queue that is still too short. -/
theorem needed_bounded {request : Nat} {ahead : List Record} {queue : Bytes}
    (short : queue.length < request)
    (within : ∀ record ∈ ahead, (recordBytes zstd record).length ≤ most) :
    (queue ++ recordsBytes zstd (needed zstd request queue ahead)).length < request + most := by
  induction ahead generalizing queue with
  | nil =>
      rw [needed, records_bytes_nil, List.append_nil]
      omega
  | cons record later induction =>
      have first := within record List.mem_cons_self
      rw [needed_more short, records_bytes_cons, ← List.append_assoc]
      rcases Nat.lt_or_ge (queue ++ recordBytes zstd record).length request with still | enough
      · exact induction still fun other member => within other (List.mem_cons_of_mem _ member)
      · rw [needed_enough enough, records_bytes_nil, List.append_nil, List.length_append]
        omega

theorem install_ahead {player : Player} (held : Ahead zstd most wanted player) :
    Ahead zstd most wanted player.install := by
  cases due : player.staged with
  | none =>
      have same : player.install = player := by rw [Player.install, due]
      rw [same]
      exact held
  | some next =>
      have put : player.install = { player with tape := next, staged := none } := by
        rw [Player.install, due]
      rw [put]
      refine ⟨held.queue, fun tape playing => held.staged tape ?_, by simp⟩
      rw [due]
      exact congrArg some playing

theorem unstage_ahead {player : Player} (held : Ahead zstd most wanted player) :
    Ahead zstd most wanted player.unstage := by
  refine ⟨held.queue, held.tape, ?_⟩
  intro tape staged
  simp [Player.unstage] at staged

theorem request_ahead {noutputItems : Nat} {before after : Player}
    {answer : Except Fault StreamOutput} {decoded : List Record}
    (modest : noutputItems * params.itemsize ≤ wanted)
    (request : Request zstd params noutputItems before answer after decoded)
    (held : Ahead zstd most wanted before) : Ahead zstd most wanted after := by
  have queue := held.queue
  cases request with
  | refused fault => exact held
  | served tape decoded playing reads enough =>
      have within := held.tape tape playing
      refine ⟨?_, ?_, held.staged⟩
      · subst reads
        rw [List.length_drop]
        rcases Nat.lt_or_ge before.queue.length (noutputItems * params.itemsize)
          with short | queued
        · have filled := needed_bounded short (within tape.position)
          rw [Player.filled, Player.reads, Tape.left]
          omega
        · have unread : before.reads zstd tape (noutputItems * params.itemsize) = [] :=
            needed_enough queued _
          rw [unread, Player.filled, records_bytes_nil, List.append_nil]
          omega
      · intro next playing'
        simp only [Option.some.injEq] at playing'
        rw [← playing']
        exact within
  | ended tape decoded playing reads tooFew =>
      have within := held.tape tape playing
      refine ⟨?_, ?_, held.staged⟩
      · simp only
        omega
      · intro next playing'
        simp only [Option.some.injEq] at playing'
        rw [← playing']
        split <;> exact within

/-- Every call keeps the bound. -/
theorem call_ahead {player : Player} {op : SourceOperation}
    (modest : Modest zstd params most wanted op) (held : Ahead zstd most wanted player) :
    Ahead zstd most wanted (settle (Player.call zstd params) player op).2 := by
  cases op with
  | openFile content opening repeats =>
      cases opening with
      | openFails => exact held
      | fdopenFails => exact unstage_ahead held
      | succeeds =>
          refine ⟨held.queue, held.tape, ?_⟩
          intro tape staged
          rw [← (Option.some.inj (Option.some.inj staged) : _ = tape)]
          exact modest
  | close => exact ⟨held.queue, held.tape, fun _ staged => nomatch staged⟩
  | doUpdate => exact install_ahead held
  | stop =>
      have unstaged := unstage_ahead held
      exact ⟨unstaged.queue, fun _ playing => (nomatch playing), unstaged.staged⟩
  | seek seekPoint whence =>
      obtain ⟨_, queue, content, staged⟩ := seek_settles zstd params player seekPoint whence
      refine ⟨queue ▸ held.queue, ?_, staged ▸ held.staged⟩
      intro tape playing
      rw [playing] at content
      cases before : player.tape with
      | none => simp [before] at content
      | some tape' =>
          rw [before, Option.map_some, Option.map_some, Option.some.injEq] at content
          rw [content]
          exact held.tape tape' before
  | setBeginTag present => exact held
  | work noutputItems =>
      obtain ⟨answer, after, settled, request⟩ := work_requests player noutputItems
      rw [settled]
      exact request_ahead modest request (install_ahead held)

end Bounds

/-- Whatever is called, a source has no more in its queue than the longest request
or the longest record, less a byte. -/
theorem read_ahead_bounded (bounded : zstd.DecompressBounded) (most wanted : Nat)
    (content : Bytes) (repeats : Bool) (within : RecordsWithin zstd most content)
    (calls : List SourceOperation) (modest : ∀ op ∈ calls, Modest zstd params most wanted op) :
    ∃ made, (make content .succeeds repeats).run (unopened repeats) = .ok () made ∧
      (answers (settle (sourceCall zstd params)) made calls).2.byteQueue.length ≤
        max most wanted - 1 := by
  obtain ⟨made, constructed, alike⟩ := made_answers zstd params bounded content repeats calls
  have loaded : Ahead zstd most wanted (Player.loaded content repeats) :=
    ⟨Nat.zero_le _, fun tape playing => Option.some.inj playing ▸ within,
      fun _ staged => nomatch staged⟩
  have held := answers_invariant (settle (Player.call zstd params))
    (Modest zstd params most wanted) (fun _ _ player => Ahead zstd most wanted player)
    (fun _ _ _ _ admissible held => call_ahead admissible held) calls modest
    (Player.loaded content repeats) loaded
  rw [alike] at held
  exact ⟨made, constructed, held.queue⟩

/-- What a header can promise bounds every record. -/
theorem records_within_word (bounded : zstd.DecompressBounded) (content : Bytes) :
    RecordsWithin zstd (2 ^ 32 - 1) content := by
  intro position record _
  have plain := plain_bytes_length_le bounded record.compressionHeader.uncompressedSize.toNat
    record.body
  have word := record.compressionHeader.uncompressedSize.toNat_lt
  rw [recordBytes]
  omega

theorem read_ahead_bounded_every_call :
    ∃ made, (make threeByteFile .succeeds false).run (unopened false) = .ok () made ∧
      (answers (settle (sourceCall storedZstd { itemsize := 1, itemsize_pos := Nat.one_pos }))
        made everyCall).2.byteQueue.length ≤ max (2 ^ 32 - 1) 4 - 1 := by
  have file := records_within_word storedZstd stored_decompress_bounded threeByteFile
  apply read_ahead_bounded storedZstd { itemsize := 1, itemsize_pos := Nat.one_pos }
    stored_decompress_bounded (2 ^ 32 - 1) 4 threeByteFile false file everyCall
  simp only [everyCall, List.forall_mem_cons, Modest, file]
  simp

end GrCompress.SourceReadAhead
