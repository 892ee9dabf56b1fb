import GrCompress.CallRuns
import GrCompress.FileSourceBlock
import GrCompress.StoredFrameCodec

/-!
# Runs of the file source

A source is constructed on a file and asked for items again and again. With
repeat off, what it has delivered, what it has queued and the records still
ahead are always the decoded content of the file. With repeat on, whole passes
come first. Both hold for arbitrary files.

Whether the end of the content is delivered depends on the requests: a request
that begins before the end and reaches beyond it is answered with the end of the
stream, and the items it could have had stay in the queue.
-/

namespace GrCompress.FilePlayback

open GrCompress.CallRuns
open GrCompress.CheckedStorage
open GrCompress.LengthFraming
open GrCompress.OpenFiles
open GrCompress.ZstdCodec
open GrCompress.RecordFormat
open GrCompress.FileSourceBlock
open GrCompress.StoredFrameCodec

set_option autoImplicit false

variable (zstd : Zstd) (params : SourceParams)

/-- Construct a source on a file with this content, then call `work` for each request. -/
def play (content : Bytes) (repeats : Bool) (requests : List Nat) :
    EStateM.Result Fault FileSource (List StreamOutput) :=
  (do
    make content .succeeds repeats
    runAll (work zstd params) requests).run (unopened repeats)

/-- The bytes the calls have delivered. -/
def delivered (outputs : List StreamOutput) : Bytes := outputs.flatMap StreamOutput.items

@[simp] theorem delivered_nil : delivered [] = [] := rfl

@[simp] theorem delivered_snoc (outputs : List StreamOutput) (output : StreamOutput) :
    delivered (outputs ++ [output]) = delivered outputs ++ output.items := by
  simp [delivered]

/-- The passes completed and the records decoded in this one account for
everything delivered or queued. -/
def Decodes (content : Bytes) (repeats : Bool) (outputs : List StreamOutput)
    (playback : Playback) : Prop :=
  ∃ passes decoded, records content = decoded ++ playback.ahead ∧
    (repeats = false → passes = 0) ∧
    delivered outputs ++ playback.queue =
      (List.replicate passes (decodedContent zstd content)).flatten ++ recordsBytes zstd decoded

theorem decodes_start (content : Bytes) (repeats : Bool) :
    Decodes zstd content repeats [] { queue := [], ahead := records content } :=
  ⟨0, [], rfl, fun _ => rfl, rfl⟩

theorem decodes_step {content : Bytes} {repeats : Bool} {outputs : List StreamOutput}
    {noutputItems wanted : Nat} {before after : Playback} {output : StreamOutput}
    (decodes : Decodes zstd content repeats outputs before)
    (step : Playback.Step zstd (records content) repeats noutputItems wanted before output after) :
    Decodes zstd content repeats (outputs ++ [output]) after := by
  rcases decodes with ⟨passes, done, file, once, bytes⟩
  cases step with
  | served queue decoded ahead enough =>
      refine ⟨passes, done ++ decoded, by simpa using file, once, ?_⟩
      simp only at bytes
      rw [delivered_snoc, List.append_assoc, List.take_append_drop, ← List.append_assoc, bytes,
        records_bytes_append, List.append_assoc]
  | ended queue ahead _ short =>
      refine ⟨passes, done ++ ahead, by simpa using file, once, ?_⟩
      simp only at bytes
      rw [delivered_snoc, List.append_nil, ← List.append_assoc, bytes, records_bytes_append,
        List.append_assoc]
  | rewound queue ahead again short =>
      -- the pass that ends here becomes one of the completed passes
      refine ⟨passes + 1, [], rfl, by simp [again], ?_⟩
      simp only at bytes file
      have whole : recordsBytes zstd done ++ recordsBytes zstd ahead =
          decodedContent zstd content := by
        rw [decodedContent, file, records_bytes_append]
      rw [delivered_snoc, List.append_nil, ← List.append_assoc, bytes, List.append_assoc, whole,
        List.replicate_succ', List.flatten_append]
      simp

/-- From any point of playback every run of requests completes, and a relation
between requests, outputs and playback that steps of playback keep holds at its end. -/
theorem work_all_run (bounded : zstd.DecompressBounded) {content : Bytes} {repeats : Bool}
    {block : FileSource} {start : Playback} (plays : Plays content repeats block start)
    (Admissible : Nat → Prop) (Holds : List Nat → List StreamOutput → Playback → Prop)
    (initial : Holds [] [] start)
    (preserved : ∀ requests outputs before noutputItems output after, Admissible noutputItems →
      Holds requests outputs before →
      Playback.Step zstd (records content) repeats noutputItems (noutputItems * params.itemsize)
        before output after →
      Holds (requests ++ [noutputItems]) (outputs ++ [output]) after)
    (requests : List Nat) (admissible : ∀ request ∈ requests, Admissible request) :
    ∃ outputs final playback, (runAll (work zstd params) requests).run block = .ok outputs final ∧
      Plays content repeats final playback ∧ Holds requests outputs playback := by
  obtain ⟨outputs, final, ran, playback, played, holds⟩ := run_all_total (work zstd params)
    Admissible
    (fun requests outputs block =>
      ∃ playback, Plays content repeats block playback ∧ Holds requests outputs playback)
    (by
      intro requests outputs before noutputItems allowed invariant
      rcases invariant with ⟨playback, plays, holds⟩
      obtain ⟨output, after, next, ran, step, played⟩ :=
        work_run zstd params bounded noutputItems plays
      exact ⟨output, after, ran, next, played,
        preserved requests outputs playback noutputItems output next allowed holds step⟩)
    requests admissible block ⟨start, plays, initial⟩
  exact ⟨outputs, final, playback, ran, played, holds⟩

theorem play_made {content : Bytes} {repeats : Bool} {requests : List Nat} {made final : FileSource}
    {outputs : List StreamOutput}
    (constructed : (make content .succeeds repeats).run (unopened repeats) = .ok () made)
    (ran : (runAll (work zstd params) requests).run made = .ok outputs final) :
    play zstd params content repeats requests = .ok outputs final := by
  simp only [play, EStateM.run_bind, constructed, ran]

/-- So does every run that begins with the constructor. -/
theorem play_run (bounded : zstd.DecompressBounded) (content : Bytes) (repeats : Bool)
    (Admissible : Nat → Prop) (Holds : List Nat → List StreamOutput → Playback → Prop)
    (initial : Holds [] [] { queue := [], ahead := records content })
    (preserved : ∀ requests outputs before noutputItems output after, Admissible noutputItems →
      Holds requests outputs before →
      Playback.Step zstd (records content) repeats noutputItems (noutputItems * params.itemsize)
        before output after →
      Holds (requests ++ [noutputItems]) (outputs ++ [output]) after)
    (requests : List Nat) (admissible : ∀ request ∈ requests, Admissible request) :
    ∃ outputs final playback, play zstd params content repeats requests = .ok outputs final ∧
      Plays content repeats final playback ∧ Holds requests outputs playback := by
  obtain ⟨made, constructed, atStart⟩ := make_run content repeats
  obtain ⟨outputs, final, playback, ran, plays, holds⟩ := work_all_run zstd params bounded atStart
    Admissible Holds initial preserved requests admissible
  exact ⟨outputs, final, playback, play_made zstd params constructed ran, plays, holds⟩

theorem plays_queue {content : Bytes} {repeats : Bool} {block : FileSource} {playback : Playback}
    (plays : Plays content repeats block playback) : block.byteQueue = playback.queue := by
  rcases plays with ⟨_, positioned, _⟩
  exact positioned.queue

theorem decodes_run (bounded : zstd.DecompressBounded) (content : Bytes) (repeats : Bool)
    (requests : List Nat) :
    ∃ outputs final playback, play zstd params content repeats requests = .ok outputs final ∧
      Plays content repeats final playback ∧ Decodes zstd content repeats outputs playback :=
  play_run zstd params bounded content repeats (fun _ => True)
    (fun _ outputs playback => Decodes zstd content repeats outputs playback)
    (decodes_start zstd content repeats)
    (fun _ _ _ _ _ _ _ decodes step => decodes_step zstd decodes step) requests
    (fun _ _ => trivial)

/-- Once the source has ended the stream, no record of the file is ahead. -/
def EndsExhausted (outputs : List StreamOutput) (playback : Playback) : Prop :=
  (∃ output ∈ outputs, output.returned = workDone) → playback.ahead = []

theorem ends_exhausted_step {content : Bytes} {outputs : List StreamOutput}
    {noutputItems wanted : Nat} {before after : Playback} {output : StreamOutput}
    (exhausted : EndsExhausted outputs before)
    (step : Playback.Step zstd (records content) false noutputItems wanted before output after) :
    EndsExhausted (outputs ++ [output]) after := by
  cases step with
  | served queue decoded ahead enough =>
      rintro ⟨other, member, done⟩
      rcases List.mem_append.1 member with earlier | last
      · have none_ahead := exhausted ⟨other, earlier, done⟩
        exact (List.append_eq_nil_iff.1 none_ahead).2
      · rw [List.mem_singleton.1 last] at done
        simp only [workDone] at done
        omega
  | ended queue ahead _ short => exact fun _ => rfl
  | rewound queue ahead again short => simp at again

/-- With repeat off the source decodes an initial segment of its records, and all
of them by the time it ends the stream. -/
theorem play_once_run (bounded : zstd.DecompressBounded) (content : Bytes)
    (requests : List Nat) :
    ∃ outputs final initial, play zstd params content false requests = .ok outputs final ∧
      initial <+: records content ∧
      delivered outputs ++ final.byteQueue = recordsBytes zstd initial ∧
      ((∃ output ∈ outputs, output.returned = workDone) → initial = records content) := by
  obtain ⟨outputs, final, playback, ran, plays, ⟨passes, decoded, file, once, bytes⟩, exhausted⟩ :=
    play_run zstd params bounded content false (fun _ => True)
      (fun _ outputs playback =>
        Decodes zstd content false outputs playback ∧ EndsExhausted outputs playback)
      ⟨decodes_start zstd content false, by simp [EndsExhausted]⟩
      (fun _ _ _ _ _ _ _ holds step =>
        ⟨decodes_step zstd holds.1 step, ends_exhausted_step zstd holds.2 step⟩)
      requests (fun _ _ => trivial)
  refine ⟨outputs, final, decoded, ran, ⟨playback.ahead, file.symm⟩, ?_, ?_⟩
  · rw [plays_queue plays, bytes, once rfl]
    rfl
  · intro ended
    rw [file, exhausted ended, List.append_nil]

/-- The source computes the reference decoding of its file, whatever the file
and the requests: nothing is reordered, repeated within a pass or skipped. -/
theorem source_decodes_file (bounded : zstd.DecompressBounded) (content : Bytes) (repeats : Bool)
    (requests : List Nat) :
    ∃ outputs final, play zstd params content repeats requests = .ok outputs final ∧
      (repeats = false → ∃ initial, initial <+: records content ∧
        delivered outputs ++ final.byteQueue = recordsBytes zstd initial) ∧
      (repeats = true → ∃ passes initial, initial <+: records content ∧
        delivered outputs ++ final.byteQueue =
          (List.replicate passes (decodedContent zstd content)).flatten ++
            recordsBytes zstd initial) := by
  obtain ⟨outputs, final, playback, ran, plays, passes, decoded, file, once, bytes⟩ :=
    decodes_run zstd params bounded content repeats requests
  have initial : decoded <+: records content := ⟨playback.ahead, file.symm⟩
  rw [← plays_queue plays] at bytes
  refine ⟨outputs, final, ran, ?_, fun _ => ⟨passes, decoded, initial, bytes⟩⟩
  intro off
  refine ⟨decoded, initial, ?_⟩
  rw [bytes, once off]
  rfl

/-! ## The end of the stream -/

/-- Whenever a call ends the stream, the earlier calls have delivered the whole
content and nothing is left in the queue. -/
def EndsWhole (content : Bytes) (requests : List Nat) : Prop :=
  ∀ earlier request, earlier ++ [request] <+: requests →
    ∃ outputs block output after,
      play zstd params content false earlier = .ok outputs block ∧
      (work zstd params request).run block = .ok output after ∧
      (output.returned = workDone →
        delivered outputs = decodedContent zstd content ∧ after.byteQueue = [])

/-- The request begins before the end of the content and reaches beyond it. -/
def Straddles (content : Bytes) (earlier : List Nat) (request : Nat) : Prop :=
  earlier.sum * params.itemsize < (decodedContent zstd content).length ∧
    (decodedContent zstd content).length < (earlier.sum + request) * params.itemsize

/-- The bytes that are still to be delivered. -/
def Playback.coming (playback : Playback) : Bytes :=
  playback.queue ++ recordsBytes zstd playback.ahead

/-- With repeat off, what a call delivers is what is no longer coming after it. -/
theorem conserved_step {file : List Record} {start : Bytes} {outputs : List StreamOutput}
    {noutputItems wanted : Nat} {before after : Playback} {output : StreamOutput}
    (conserved : delivered outputs ++ Playback.coming zstd before = start)
    (step : Playback.Step zstd file false noutputItems wanted before output after) :
    delivered (outputs ++ [output]) ++ Playback.coming zstd after = start := by
  rw [← conserved, delivered_snoc, List.append_assoc]
  cases step with
  | served queue decoded ahead enough =>
      simp only [Playback.coming, records_bytes_append]
      rw [← List.append_assoc (List.take _ _), List.take_append_drop, List.append_assoc]
  | ended queue ahead _ short => simp [Playback.coming]
  | rewound queue ahead again _ => simp at again

/-- How far a run with repeat off has got: as far as it was asked, if that is
within the content; to its end, if no request straddled it. -/
structure Progress (content : Bytes) (requests : List Nat) (outputs : List StreamOutput)
    (playback : Playback) : Prop where
  conserved : delivered outputs ++ Playback.coming zstd playback = decodedContent zstd content
  within : requests.sum * params.itemsize ≤ (decodedContent zstd content).length →
    (delivered outputs).length = requests.sum * params.itemsize
  beyond : (∀ earlier request, earlier ++ [request] <+: requests →
      ¬Straddles zstd params content earlier request) →
    (decodedContent zstd content).length < requests.sum * params.itemsize →
      delivered outputs = decodedContent zstd content

theorem progress_start (content : Bytes) :
    Progress zstd params content [] [] { queue := [], ahead := records content } where
  conserved := rfl
  within := by simp
  beyond := by simp

section Progress

variable {zstd params}

theorem requested_snoc (requests : List Nat) (noutputItems itemsize : Nat) :
    (requests ++ [noutputItems]).sum * itemsize =
      requests.sum * itemsize + noutputItems * itemsize := by
  rw [List.sum_append, List.sum_singleton, Nat.add_mul]

variable {content : Bytes} {requests : List Nat} {outputs : List StreamOutput}
  {playback : Playback}

theorem delivered_length_le (progress : Progress zstd params content requests outputs playback) :
    (delivered outputs).length + (Playback.coming zstd playback).length =
      (decodedContent zstd content).length := by
  rw [← progress.conserved, List.length_append]

theorem delivered_all (progress : Progress zstd params content requests outputs playback)
    (none_coming : (Playback.coming zstd playback).length = 0) :
    delivered outputs = decodedContent zstd content := by
  have conserved := progress.conserved
  rwa [List.eq_nil_of_length_eq_zero none_coming, List.append_nil] at conserved

/-- After a request that was served, one more request's worth is delivered. -/
theorem progress_served {queue : Bytes} {decoded ahead : List Record} {noutputItems : Nat}
    (positive : 0 < noutputItems)
    (progress : Progress zstd params content requests outputs
      { queue := queue, ahead := decoded ++ ahead })
    (enough : noutputItems * params.itemsize ≤ (queue ++ recordsBytes zstd decoded).length) :
    Progress zstd params content (requests ++ [noutputItems])
      (outputs ++ [{
        returned := noutputItems
        items := (queue ++ recordsBytes zstd decoded).take (noutputItems * params.itemsize) }])
      { queue := (queue ++ recordsBytes zstd decoded).drop (noutputItems * params.itemsize)
        ahead := ahead } := by
  have wanted : 0 < noutputItems * params.itemsize := Nat.mul_pos positive params.itemsize_pos
  have length := delivered_length_le progress
  have coming : Playback.coming zstd { queue := queue, ahead := decoded ++ ahead } =
      (queue ++ recordsBytes zstd decoded) ++ recordsBytes zstd ahead := by
    simp [Playback.coming]
  have comingLength := congrArg List.length coming
  rw [List.length_append] at comingLength
  have sum := requested_snoc requests noutputItems params.itemsize
  have step : Playback.Step zstd [] false noutputItems (noutputItems * params.itemsize) _ _ _ :=
    .served queue decoded ahead enough
  refine ⟨conserved_step zstd progress.conserved step, ?_, ?_⟩
  · intro inside
    have before := progress.within (by omega)
    rw [delivered_snoc, List.length_append, before, List.length_take_of_le enough, sum]
  · intro apart past
    rcases Nat.lt_or_ge (decodedContent zstd content).length (requests.sum * params.itemsize) with
      exceeded | inside
    · -- nothing was coming, so nothing could be served
      have all := progress.beyond (forall_call_initial (List.prefix_append _ _) apart) exceeded
      rw [all] at length
      omega
    · have before := progress.within inside
      omega

/-- After a request that was not, everything that was coming is queued. -/
theorem progress_ended {queue : Bytes} {ahead : List Record} {noutputItems : Nat}
    (progress : Progress zstd params content requests outputs { queue := queue, ahead := ahead })
    (short : (queue ++ recordsBytes zstd ahead).length < noutputItems * params.itemsize) :
    Progress zstd params content (requests ++ [noutputItems])
        (outputs ++ [{ returned := workDone, items := [] }])
        { queue := queue ++ recordsBytes zstd ahead, ahead := [] } ∧
      (¬Straddles zstd params content requests noutputItems →
        (∀ earlier request, earlier ++ [request] <+: requests →
          ¬Straddles zstd params content earlier request) →
        delivered outputs = decodedContent zstd content) := by
  have length := delivered_length_le progress
  have sum := requested_snoc requests noutputItems params.itemsize
  have product : (requests.sum + noutputItems) * params.itemsize =
      requests.sum * params.itemsize + noutputItems * params.itemsize := Nat.add_mul _ _ _
  simp only [Playback.coming] at length
  have finished : ¬Straddles zstd params content requests noutputItems →
      (∀ earlier request, earlier ++ [request] <+: requests →
        ¬Straddles zstd params content earlier request) →
      delivered outputs = decodedContent zstd content := by
    intro apart before
    rcases Nat.lt_or_ge (decodedContent zstd content).length (requests.sum * params.itemsize) with
      exceeded | inside
    · exact progress.beyond before exceeded
    · have reached := progress.within inside
      apply delivered_all progress
      unfold Straddles at apart
      simp only [Playback.coming]
      omega
  have step : Playback.Step zstd [] false noutputItems (noutputItems * params.itemsize) _ _ _ :=
    .ended queue ahead rfl short
  refine ⟨⟨conserved_step zstd progress.conserved step, ?_, ?_⟩, finished⟩
  · intro inside
    have before := progress.within (by omega)
    omega
  · intro apart _
    rw [delivered_snoc, List.append_nil]
    exact finished (apart requests noutputItems (List.prefix_refl _))
      (forall_call_initial (List.prefix_append _ _) apart)

theorem progress_step {noutputItems : Nat} (positive : 0 < noutputItems) {after : Playback}
    {output : StreamOutput} (progress : Progress zstd params content requests outputs playback)
    (step : Playback.Step zstd (records content) false noutputItems
      (noutputItems * params.itemsize) playback output after) :
    Progress zstd params content (requests ++ [noutputItems]) (outputs ++ [output]) after := by
  cases step with
  | served queue decoded ahead enough => exact progress_served positive progress enough
  | ended queue ahead _ short => exact (progress_ended progress short).1
  | rewound queue ahead again _ => simp at again

end Progress

theorem progress_run (bounded : zstd.DecompressBounded) (content : Bytes) (requests : List Nat)
    (positive : ∀ request ∈ requests, 0 < request) :
    ∃ outputs final playback, play zstd params content false requests = .ok outputs final ∧
      Plays content false final playback ∧
      Progress zstd params content requests outputs playback :=
  play_run zstd params bounded content false (fun request => 0 < request)
    (Progress zstd params content) (progress_start zstd params content)
    (fun _ _ _ _ _ _ positive progress step => progress_step positive progress step) requests
    positive

theorem ends_whole_of_apart (bounded : zstd.DecompressBounded) {content : Bytes}
    {requests : List Nat} (positive : ∀ request ∈ requests, 0 < request)
    (apart : ∀ earlier request, earlier ++ [request] <+: requests →
      ¬Straddles zstd params content earlier request) :
    EndsWhole zstd params content requests := by
  intro earlier request made
  obtain ⟨outputs, block, playback, played, plays, progress⟩ := progress_run zstd params bounded
    content earlier (fun other member => positive other (made.subset (by simp [member])))
  obtain ⟨output, after, next, ran, step, nextPlays⟩ :=
    work_run zstd params bounded request plays
  refine ⟨outputs, block, output, after, played, ran, ?_⟩
  intro ended
  cases step with
  | served queue decoded ahead _ =>
      simp only [workDone] at ended
      omega
  | ended queue ahead _ short =>
      have segment := (List.prefix_append earlier [request]).trans made
      have all := (progress_ended progress short).2 (apart earlier request made)
        (forall_call_initial segment apart)
      have length := delivered_length_le progress
      rw [all] at length
      refine ⟨all, ?_⟩
      rw [plays_queue nextPlays]
      simp only [Playback.coming] at length
      exact List.eq_nil_of_length_eq_zero (by simp only; omega)
  | rewound queue ahead again _ => simp at again

theorem not_ends_whole_of_straddle (bounded : zstd.DecompressBounded) {content : Bytes}
    {requests earlier : List Nat} {request : Nat}
    (positive : ∀ request ∈ requests, 0 < request) (made : earlier ++ [request] <+: requests)
    (straddles : Straddles zstd params content earlier request) :
    ¬EndsWhole zstd params content requests := by
  intro whole
  obtain ⟨outputs, block, output, after, played, ran, complete⟩ := whole earlier request made
  obtain ⟨outputs', block', playback, played', plays, progress⟩ := progress_run zstd params bounded
    content earlier (fun other member => positive other (made.subset (by simp [member])))
  obtain ⟨rfl, rfl⟩ := ok_unique played played'
  obtain ⟨output', after', next, ran', step, _⟩ := work_run zstd params bounded request plays
  obtain ⟨rfl, rfl⟩ := ok_unique ran ran'
  rcases straddles with ⟨begins, reaches⟩
  have sofar := progress.within (Nat.le_of_lt begins)
  have length := delivered_length_le progress
  rw [Nat.add_mul] at reaches
  cases step with
  | served queue decoded ahead enough =>
      simp only [Playback.coming, records_bytes_append, ← List.append_assoc] at length
      rw [List.length_append] at length
      omega
  | ended queue ahead _ _ =>
      have all := congrArg List.length (complete rfl).1
      omega
  | rewound queue ahead again _ => simp at again

/-- The source delivers the whole content before it ends the stream exactly when
no request straddles the end of the content. -/
theorem ends_whole_iff_no_straddle (bounded : zstd.DecompressBounded) (content : Bytes)
    (requests : List Nat) (positive : ∀ request ∈ requests, 0 < request) :
    EndsWhole zstd params content requests ↔
      ∀ earlier request, earlier ++ [request] <+: requests →
        ¬Straddles zstd params content earlier request := by
  constructor
  · intro whole earlier request made straddles
    exact not_ends_whole_of_straddle zstd params bounded positive made straddles whole
  · exact ends_whole_of_apart zstd params bounded positive

/-- A record that stores its content adds it to what the rest of the file decodes to. -/
theorem stored_record_content (plain : Bytes) (sizeFits : plain.length < 2 ^ 32)
    (fits : (store plain).length < 2 ^ 32) (later : List Record) :
    decodedContent storedZstd
        (encodeFrames (payloadRecord plain.length (store plain) fits :: later)) =
      plain ++ decodedContent storedZstd (encodeFrames later) := by
  have decoded := decoded_content_encode_frames storedZstd
    [payloadRecord plain.length (store plain) fits] (encodeFrames later)
  rw [records_bytes_cons, records_bytes_nil, List.append_nil,
    record_bytes_payload_record storedZstd plain.length _ sizeFits,
    stored_plain_bytes plain.length plain (Nat.le_refl _), encode_frames_cons, encode_frames_nil,
    List.append_nil] at decoded
  rw [encode_frames_cons, decoded]

/-- A file of one record, three bytes long when decoded. -/
def threeByteFile : Bytes :=
  encodeFrames [payloadRecord 3 (store [0x61, 0x62, 0x63]) (by decide)]

theorem three_byte_file_content :
    decodedContent storedZstd threeByteFile = [0x61, 0x62, 0x63] :=
  stored_record_content [0x61, 0x62, 0x63] (by decide) (by decide) []

theorem three_byte_file_complete : tail recordFraming threeByteFile = [] := by
  have complete := tail_encode_frames
    [payloadRecord 3 (store [0x61, 0x62, 0x63]) (by decide)] []
  rwa [List.append_nil, tail_nil] at complete

/-- A complete record of three one-byte items, asked for two at a time: the third
item is left behind. -/
theorem three_byte_file_not_ends_whole :
    tail recordFraming threeByteFile = [] ∧
      (decodedContent storedZstd threeByteFile).length = 3 ∧
      ¬EndsWhole storedZstd { itemsize := 1, itemsize_pos := by decide } threeByteFile [2, 2] := by
  refine ⟨three_byte_file_complete, by rw [three_byte_file_content]; rfl, ?_⟩
  refine not_ends_whole_of_straddle storedZstd _ stored_decompress_bounded (by decide)
    (List.prefix_refl ([2] ++ [2])) ?_
  rw [Straddles, three_byte_file_content]
  decide

theorem ends_whole_iff_no_straddle_three_bytes :
    EndsWhole storedZstd { itemsize := 1, itemsize_pos := by decide } threeByteFile [2, 1, 2] ↔
      ∀ earlier request, earlier ++ [request] <+: [2, 1, 2] →
        ¬Straddles storedZstd { itemsize := 1, itemsize_pos := by decide } threeByteFile
          earlier request :=
  ends_whole_iff_no_straddle storedZstd { itemsize := 1, itemsize_pos := by decide }
    stored_decompress_bounded threeByteFile [2, 1, 2] (by decide)

theorem source_decodes_file_three_bytes :
    ∃ outputs final,
      play storedZstd { itemsize := 1, itemsize_pos := by decide } threeByteFile true [2, 2, 5] =
        .ok outputs final ∧
      ∃ passes initial, initial <+: records threeByteFile ∧
        delivered outputs ++ final.byteQueue =
          (List.replicate passes (decodedContent storedZstd threeByteFile)).flatten ++
            recordsBytes storedZstd initial := by
  obtain ⟨outputs, final, ran, _, repeated⟩ := source_decodes_file storedZstd
    { itemsize := 1, itemsize_pos := by decide } stored_decompress_bounded threeByteFile true
    [2, 2, 5]
  exact ⟨outputs, final, ran, repeated rfl⟩

end GrCompress.FilePlayback
