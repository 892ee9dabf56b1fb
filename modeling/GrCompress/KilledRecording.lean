import GrCompress.BufferedSink
import GrCompress.RecordPaths

/-!
# A recording that is cut short

A file sink is constructed, gets messages, has its buffering switched and is
stopped, in any order, and the process may be killed in any call of the C library
with any part of the buffers written out. What is then in the file is read as a
file of records: it holds some of the messages received, in order and from the
first on, and those whose handler returned with `d_unbuffered` set are among them.
-/

namespace GrCompress.KilledRecording

open GrCompress.CallRuns
open GrCompress.CheckedStorage
open GrCompress.OpenFiles
open GrCompress.StdioStreams (Behaviour Between killed)
open GrCompress.LengthFraming
open GrCompress.ZstdCodec
open GrCompress.RecordFormat
open GrCompress.FileSinkBlock (SinkParams SinkSetup)
open GrCompress.BufferedSink
open GrCompress.StoredFrameCodec (storedZstd)

set_option autoImplicit false

inductive Event where
  | deliver (message : Message)
  | setUnbuffered (unbuffered : Bool)
  | stop

def event (params : SinkParams) : Event → EStateM Fault FileSink Unit
  | .deliver message => compressedIn params message.pdu
  | .setUnbuffered unbuffered => setUnbuffered unbuffered
  | .stop => do
      let _ ← stop
      return ()

def record (setup : SinkSetup) (behaviours : List Behaviour) (events : List Event) :
    EStateM.Result Fault FileSink (List Unit) :=
  (do
    make setup.name setup.unbuffered .succeeds .succeeds
    runAll (event setup.params) events).run
      (unopened setup.append { disk := setup.disk, behaviours := behaviours })

/-- The file after a run, whether it returned or was cut short. -/
def leftBehind (name : String) : EStateM.Result Fault FileSink (List Unit) → Bytes
  | .ok _ sink => sink.device.disk.content name
  | .error _ sink => sink.device.disk.content name

def Event.received : Event → List Message
  | .deliver message => [message]
  | .setUnbuffered _ | .stop => []

def received (events : List Event) : List Message := events.flatMap Event.received

def Event.flag (unbuffered : Bool) : Event → Bool
  | .setUnbuffered unbuffered => unbuffered
  | .deliver _ | .stop => unbuffered

/-- `d_unbuffered` after these events. -/
def unbufferedAfter (unbuffered : Bool) (events : List Event) : Bool :=
  events.foldl Event.flag unbuffered

/-- The file once everything received has been written out. -/
def recording (setup : SinkSetup) (events : List Event) : Bytes :=
  setup.base ++ encodeFrames ((received events).map Message.record)

theorem recording_snoc (setup : SinkSetup) (events : List Event) (last : Event) :
    recording setup (events ++ [last]) =
      recording setup events ++ encodeFrames (last.received.map Message.record) := by
  simp [recording, received]

theorem recording_initial (setup : SinkSetup) {first second : List Event}
    (initial : first <+: second) : recording setup first <+: recording setup second := by
  rcases initial with ⟨later, rfl⟩
  exact ⟨encodeFrames ((received later).map Message.record), by simp [recording, received]⟩

variable {setup : SinkSetup} {done : List Event} {sink : FileSink}

/-- The sink holds what it has received, and each message handled with
`d_unbuffered` set is in the file with all before it. -/
structure Progress (setup : SinkSetup) (done : List Event) (sink : FileSink) : Prop where
  holds : Recording setup.name (recording setup done) (unbufferedAfter setup.unbuffered done) sink
  base : setup.base <+: sink.device.disk.content setup.name
  durable : ∀ earlier message, earlier ++ [.deliver message] <+: done →
    unbufferedAfter setup.unbuffered earlier = true →
      recording setup (earlier ++ [.deliver message]) <+: sink.device.disk.content setup.name

/-- An event that does not write leaves the file alone. -/
theorem progress_quiet (progress : Progress setup done sink) {after : FileSink} {quiet : Event}
    (nothing : quiet.received = []) (device : after.device = sink.device)
    (holds : Recording setup.name (recording setup done)
      (unbufferedAfter setup.unbuffered (done ++ [quiet])) after) :
    Progress setup (done ++ [quiet]) after where
  holds := by rwa [recording_snoc, nothing, List.map_nil, encode_frames_nil, List.append_nil]
  base := device ▸ progress.base
  durable earlier message made unbuffered := by
    rw [device]
    rcases List.prefix_concat_iff.1 made with last | before
    · obtain ⟨_, same⟩ := List.append_inj' last rfl
      rw [List.singleton_inj] at same
      rw [← same] at nothing
      exact nomatch nothing
    · exact progress.durable earlier message before unbuffered

theorem event_step (itemsize : setup.params.itemsize = 1) (progress : Progress setup done sink)
    (next : Event) :
    match (event setup.params next).run sink with
    | .ok _ after => Progress setup (done ++ [next]) after
    | .error fault after => fault = killed ∧
        Between (sink.device.disk.content setup.name) (recording setup (done ++ [next]))
          setup.name after.device := by
  have flag : unbufferedAfter setup.unbuffered (done ++ [next]) =
      next.flag (unbufferedAfter setup.unbuffered done) := by
    simp [unbufferedAfter]
  cases next with
  | stop =>
      have ran : (event setup.params .stop).run sink = .ok () { sink with updated := true } := by
        simp only [event, EStateM.run_bind, stop_run progress.holds, EStateM.run_pure]
      rw [ran]
      exact progress_quiet progress rfl rfl (flag ▸ recording_updated progress.holds)
  | setUnbuffered unbuffered =>
      exact progress_quiet progress rfl rfl
        (flag ▸ ⟨progress.holds.stream, progress.holds.staged, rfl⟩)
  | deliver message =>
      have recorded := message_run itemsize progress.holds message
      have extended : recording setup (done ++ [.deliver message]) =
          recording setup done ++ message.record.cells := by
        rw [recording_snoc]
        simp [Event.received]
      rw [← extended] at recorded
      cases ran : (event setup.params (.deliver message)).run sink with
      | error fault after =>
          have ran' : (compressedIn setup.params message.pdu).run sink = .error fault after := ran
          rw [ran'] at recorded
          exact recorded
      | ok _ after =>
          have ran' : (compressedIn setup.params message.pdu).run sink = .ok () after := ran
          rw [ran'] at recorded
          rcases recorded with ⟨holds, between, flushed⟩
          refine ⟨flag ▸ holds, progress.base.trans between.extends_before, ?_⟩
          intro earlier other made unbuffered
          rcases List.prefix_concat_iff.1 made with last | before
          · obtain ⟨rfl, _⟩ := List.append_inj' last rfl
            have complete := flushed unbuffered
            exact last ▸ complete.symm ▸ List.prefix_rfl
          · exact (progress.durable earlier other before unbuffered).trans
              between.extends_before

/-- A run that returned. -/
def Returned (setup : SinkSetup) (behaviours : List Behaviour) (events : List Event) : Prop :=
  ∃ outs sink, record setup behaviours events = .ok outs sink

/-- What is in the file after a run: part of what was received, and all that was
handled with `d_unbuffered` set. -/
structure Kept (setup : SinkSetup) (behaviours : List Behaviour) (events : List Event)
    (content : Bytes) : Prop where
  base : setup.base <+: content
  within : content <+: recording setup events
  durable : ∀ earlier message, earlier ++ [.deliver message] <+: events →
    Returned setup behaviours (earlier ++ [.deliver message]) →
      unbufferedAfter setup.unbuffered earlier = true →
        recording setup (earlier ++ [.deliver message]) <+: content

theorem made_progress (holds : Recording setup.name setup.base setup.unbuffered sink)
    (base : setup.base <+: sink.device.disk.content setup.name) : Progress setup [] sink where
  holds := by simpa [recording, received, unbufferedAfter] using holds
  base := base
  durable earlier message made := by simp at made

theorem events_progress (itemsize : setup.params.itemsize = 1) {outs : List Unit}
    {events : List Event} {final : FileSink} (progress : Progress setup [] sink)
    (ran : (runAll (event setup.params) events).run sink = .ok outs final) :
    Progress setup events final := by
  apply run_all_invariant (event setup.params) (fun done _ sink => Progress setup done sink) ?_
    progress ran
  intro done outs before next out after progress ran
  have stepped := event_step itemsize progress next
  rwa [ran] at stepped

theorem progress_within (progress : Progress setup done sink) :
    sink.device.disk.content setup.name <+: recording setup done := by
  rcases progress.holds.stream with ⟨stream, _, named, holds⟩
  have between := StdioStreams.holds_between holds
  rw [named] at between
  exact between.within_content

theorem kept_of_progress (progress : Progress setup done sink) (behaviours : List Behaviour) :
    Kept setup behaviours done (sink.device.disk.content setup.name) where
  base := progress.base
  within := progress_within progress
  durable earlier message made _ unbuffered := progress.durable earlier message made unbuffered

/-- A run that is cut short in the constructor. -/
theorem kept_of_unmade {behaviours : List Behaviour} {events : List Event}
    (never : ∀ events, ¬Returned setup behaviours events) {content : Bytes}
    (base : setup.base <+: content) (within : content <+: setup.base) :
    Kept setup behaviours events content where
  base := base
  within := within.trans (List.prefix_append _ _)
  durable _ _ _ returned _ := absurd returned (never _)

/-- A run that is cut short in one event. -/
theorem kept_of_cut {behaviours : List Behaviour} {next : Event} {later : List Event}
    (progress : Progress setup done sink)
    (never : ∀ events, done ++ [next] <+: events → ¬Returned setup behaviours events)
    {final : FileSink} (between : Between (sink.device.disk.content setup.name)
      (recording setup (done ++ [next])) setup.name final.device) :
    Kept setup behaviours (done ++ next :: later) (final.device.disk.content setup.name) where
  base := progress.base.trans between.extends_before
  within := between.within_content.trans (recording_initial setup ⟨later, by simp⟩)
  durable earlier message made returned unbuffered := by
    have cut : done ++ [next] <+: done ++ next :: later := ⟨later, by simp⟩
    rcases List.prefix_or_prefix_of_prefix made cut with before | past
    · rcases List.prefix_concat_iff.1 before with same | before
      · exact absurd returned (never _ (same ▸ List.prefix_rfl))
      · exact (progress.durable earlier message before unbuffered).trans between.extends_before
    · exact absurd returned (never _ past)

/-- A run either makes progress to its end, or is cut short by the end of the process. -/
theorem record_keeps (itemsize : setup.params.itemsize = 1) (behaviours : List Behaviour)
    (events : List Event) :
    Kept setup behaviours events (leftBehind setup.name (record setup behaviours events)) ∧
      (∀ fault sink, record setup behaviours events = .error fault sink → fault = killed) ∧
      ∀ outs sink, record setup behaviours events = .ok outs sink → Progress setup events sink := by
  have made := make_run setup behaviours
  cases constructed : (make setup.name setup.unbuffered .succeeds .succeeds).run
      (unopened setup.append { disk := setup.disk, behaviours := behaviours }) with
  | error fault sink =>
      have ended : ∀ events, record setup behaviours events = .error fault sink := by
        intro events
        simp only [record, EStateM.run_bind, constructed]
      rw [constructed] at made
      rcases made with ⟨dies, between⟩
      rw [ended events]
      refine ⟨kept_of_unmade ?_ between.extends_before between.within_content, ?_,
        fun _ _ impossible => nomatch impossible⟩
      · rintro events ⟨outs, after, ran⟩
        rw [ended] at ran
        exact nomatch ran
      · intro fault' sink' same
        rw [EStateM.Result.error.injEq] at same
        rw [← same.1, dies]
  | ok _ sink =>
      have continued : ∀ events, record setup behaviours events =
          (runAll (event setup.params) events).run sink := by
        intro events
        simp only [record, EStateM.run_bind, constructed]
      rw [constructed] at made
      rcases made with ⟨holds, between, _⟩
      have progress := made_progress holds between.extends_before
      rw [continued]
      cases ran : (runAll (event setup.params) events).run sink with
      | ok outs final =>
          have finished := events_progress itemsize progress ran
          refine ⟨kept_of_progress finished behaviours, ?_, ?_⟩
          · intro fault sink' impossible
            exact nomatch impossible
          intro outs' final' same
          rw [EStateM.Result.ok.injEq] at same
          rwa [← same.2]
      | error fault final =>
          obtain ⟨done, next, later, outs, before, rfl, sofar, failed⟩ :=
            (run_all_error_iff (event setup.params) events sink final fault).1 ran
          have reached := events_progress itemsize progress sofar
          have stepped := event_step itemsize reached next
          rw [failed] at stepped
          rcases stepped with ⟨dies, cut⟩
          refine ⟨kept_of_cut reached ?_ cut, ?_, fun _ _ impossible => nomatch impossible⟩
          · rintro events ⟨rest, rfl⟩ ⟨outs', after, returned⟩
            rw [continued, run_all_append_ok_iff] at returned
            obtain ⟨earlier, _, middle, returned, _⟩ := returned
            have cutShort := (run_all_error_iff (event setup.params) (done ++ [next]) sink final
              fault).2 ⟨done, next, [], outs, before, rfl, sofar, failed⟩
            rw [cutShort] at returned
            exact nomatch returned
          · intro fault' sink' same
            rw [EStateM.Result.error.injEq] at same
            rw [← same.1, dies]

variable {zstd : Zstd}

/-- A file that stops short of what was received has the first messages of it. -/
theorem messages_between {events : List Event} {content : Bytes}
    (complete : tail recordFraming setup.base = []) (extends_base : setup.base <+: content)
    (within : content <+: recording setup events) :
    ∃ messages, messages <+: received events ∧
      records content = records setup.base ++ messages.map Message.record := by
  obtain ⟨found, initial, read⟩ := frames_between complete extends_base within
  have taken := List.prefix_iff_eq_take.1 initial
  rw [← List.map_take] at taken
  exact ⟨(received events).take found.length, List.take_prefix _ _, by rw [← taken]; exact read⟩

theorem decoded_of_messages {content : Bytes} {messages : List Message}
    (read : records content = records setup.base ++ messages.map Message.record) :
    decodedContent zstd content =
      decodedContent zstd setup.base ++ recordsBytes zstd (messages.map Message.record) := by
  rw [decodedContent, read, records_bytes_append]
  rfl

/-- What is in the file, read as records, is what was there and the first messages
received; it goes as far as what it certainly has. -/
theorem kept_messages {behaviours : List Behaviour} {events : List Event} {content : Bytes}
    (complete : tail recordFraming setup.base = [])
    (kept : Kept setup behaviours events content) :
    ∃ messages, messages <+: received events ∧
      (∀ earlier message, earlier ++ [.deliver message] <+: events →
        Returned setup behaviours (earlier ++ [.deliver message]) →
          unbufferedAfter setup.unbuffered earlier = true →
            received (earlier ++ [.deliver message]) <+: messages) ∧
      decodedContent zstd content =
        decodedContent zstd setup.base ++ recordsBytes zstd (messages.map Message.record) := by
  obtain ⟨messages, initial, read⟩ := messages_between complete kept.base kept.within
  refine ⟨messages, initial, ?_, decoded_of_messages read⟩
  intro earlier message made returned unbuffered
  rcases kept.durable earlier message made returned unbuffered with ⟨rest, durable⟩
  have certain : records (recording setup (earlier ++ [.deliver message])) <+:
      records content := by
    rw [← durable]
    exact frames_of_initial_segment _ _
  rw [records, recording, frames_append_encoded complete, read] at certain
  have fewer := List.IsPrefix.length_le ((List.prefix_append_right_inj _).1 certain)
  rw [List.length_map, List.length_map] at fewer
  have earlierReceived : received (earlier ++ [.deliver message]) <+: received events := by
    rcases made with ⟨later, rfl⟩
    exact ⟨received later, by simp [received]⟩
  exact List.prefix_of_prefix_length_le earlierReceived initial fewer

/-- However a recording ends, its file plays: what was there before, and then the
messages received, in order, up to one of them. None is missing whose handler
returned with `d_unbuffered` set, and none at all once the sink is destroyed. Nothing
but the end of the process cuts a recording short. -/
theorem killed_recording_plays (zstd : Zstd) (setup : SinkSetup)
    (itemsize : setup.params.itemsize = 1)
    (complete : tail recordFraming setup.base = []) (behaviours : List Behaviour)
    (events : List Event) :
    (∃ messages, messages <+: received events ∧
      (∀ earlier message, earlier ++ [.deliver message] <+: events →
        Returned setup behaviours (earlier ++ [.deliver message]) →
          unbufferedAfter setup.unbuffered earlier = true →
            received (earlier ++ [.deliver message]) <+: messages) ∧
      decodedContent zstd (leftBehind setup.name (record setup behaviours events)) =
        decodedContent zstd setup.base ++ recordsBytes zstd (messages.map Message.record)) ∧
    (∀ fault sink, record setup behaviours events = .error fault sink → fault = killed) ∧
    ∀ outs sink, record setup behaviours events = .ok outs sink →
      ∀ destroyed, destroy.run sink = .ok () destroyed →
        destroyed.device.disk.content setup.name =
          setup.base ++ encodeFrames ((received events).map Message.record) := by
  obtain ⟨kept, onlyKilled, progress⟩ := record_keeps itemsize behaviours events
  refine ⟨kept_messages complete kept, onlyKilled, ?_⟩
  intro outs sink ran destroyed ended
  have flushed := destroy_run (progress outs sink ran).holds
  rw [ended] at flushed
  exact flushed

theorem single_size_fits : 1 < 2 ^ 32 := by decide

theorem single_payload_fits : [(0x41 : UInt8)].length < 2 ^ 31 := by decide

def single : Message where
  hasheader := false
  uncompressedSize := 1
  payload := [0x41]
  size_fits := single_size_fits
  payload_fits := single_payload_fits

/-- A new file, written without buffering. -/
def unbufferedOut : SinkSetup where
  params :=
    { itemsize := 1
      itemsize_pos := Nat.one_pos }
  name := "out"
  unbuffered := true
  append := false
  disk := fun _ => none

/-- The process survives four calls on a stream and is killed in the fifth, with four
bytes written out. -/
def fiveCalls : List Behaviour :=
  [⟨0, false⟩, ⟨0, false⟩, ⟨0, false⟩, ⟨0, false⟩, ⟨4, true⟩]

/-- The process is killed in the header of the second message, four bytes into it; the
first one is in the file. A recording of one message that is not killed has it. -/
theorem killed_recording_plays_two_messages :
    (∃ messages, [single] <+: messages ∧ messages <+: [single, single] ∧
      decodedContent storedZstd (leftBehind "out" (record unbufferedOut fiveCalls
        [.deliver single, .deliver single])) =
          recordsBytes storedZstd (messages.map Message.record)) ∧
    (∀ fault sink, record unbufferedOut fiveCalls [.deliver single, .deliver single] =
      .error fault sink → fault = killed) ∧
    ∃ outs sink destroyed, record unbufferedOut [] [.deliver single] = .ok outs sink ∧
      destroy.run sink = .ok () destroyed ∧
      destroyed.device.disk.content "out" = single.record.cells := by
  obtain ⟨⟨messages, initial, durable, plays⟩, onlyKilled, _⟩ :=
    killed_recording_plays storedZstd unbufferedOut rfl tail_nil fiveCalls
      [.deliver single, .deliver single]
  have first : Returned unbufferedOut fiveCalls [.deliver single] :=
    exists_of_returned (by decide +kernel)
  obtain ⟨outs, sink, _, destroyed, ran, ended⟩ := exists_of_returned_then
    (show returned (andThen (record unbufferedOut [] [.deliver single]) destroy) = true by
      decide +kernel)
  obtain ⟨_, _, complete⟩ :=
    killed_recording_plays storedZstd unbufferedOut rfl tail_nil [] [.deliver single]
  have content := complete outs sink ran destroyed ended
  refine ⟨⟨messages, durable [] single ⟨[.deliver single], rfl⟩ first rfl, initial, plays⟩,
    onlyKilled, outs, sink, destroyed, ran, ended, ?_⟩
  simpa [SinkSetup.base, unbufferedOut, received, Event.received] using content

end GrCompress.KilledRecording
