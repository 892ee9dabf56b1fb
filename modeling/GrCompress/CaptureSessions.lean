import GrCompress.KilledRecording

/-!
# Recordings that are taken up again

A file is recorded to by one sink after the other, each of which appends to it or
begins it anew, is destroyed in the end or has its process killed. A record that was
cut short stays in the file. In append mode the next record does not begin where the
reader expects one then, so whether the file has a torn record decides whether a
recording can be taken up again.
-/

namespace GrCompress.CaptureSessions

open GrCompress.CallRuns
open GrCompress.CheckedStorage
open GrCompress.OpenFiles
open GrCompress.StdioStreams (Behaviour killed)
open GrCompress.LittleEndianWords
open GrCompress.LengthFraming
open GrCompress.ZstdCodec
open GrCompress.RecordFormat
open GrCompress.FileSinkBlock (SinkParams SinkSetup)
open GrCompress.BufferedSink
open GrCompress.KilledRecording (Event received recording record record_keeps messages_between)
open GrCompress.StoredFrameCodec (storedZstd)

set_option autoImplicit false

/-- The whole life of a sink. -/
def capture (setup : SinkSetup) (behaviours : List Behaviour) (events : List Event) :
    EStateM.Result Fault FileSink (List Unit) :=
  match record setup behaviours events with
  | .ok outs sink =>
      (do
        destroy
        return outs).run sink
  | .error fault sink => .error fault sink

section Resuming

variable {setup : SinkSetup}

/-- What is in the file after the life of a sink: all that was received, or some of
it if the process was killed. -/
theorem capture_keeps (itemsize : setup.params.itemsize = 1) (behaviours : List Behaviour)
    (events : List Event) :
    match capture setup behaviours events with
    | .ok _ sink => sink.device.disk.content setup.name = recording setup events
    | .error fault sink => fault = killed ∧
        setup.base <+: sink.device.disk.content setup.name ∧
        sink.device.disk.content setup.name <+: recording setup events := by
  obtain ⟨kept, onlyKilled, progress⟩ := record_keeps itemsize behaviours events
  unfold capture
  cases ran : record setup behaviours events with
  | error fault sink =>
      rw [ran] at kept
      exact ⟨onlyKilled fault sink ran, kept.base, kept.within⟩
  | ok outs sink =>
      rw [ran] at kept
      have flushed := destroy_run (progress outs sink ran).holds
      cases ended : destroy.run sink with
      | error fault after =>
          rw [ended] at flushed
          rcases flushed with ⟨dies, between⟩
          simp only [EStateM.run_bind, ended]
          exact ⟨dies, kept.base.trans between.extends_before, between.within_content⟩
      | ok _ after =>
          rw [ended] at flushed
          simp only [EStateM.run_bind, ended, EStateM.run_pure]
          exact flushed

/-! ## Taking up a recording -/

theorem no_payload_fits : ([] : Bytes).length < 2 ^ 31 := by decide

theorem one_fits : 1 < 2 ^ 32 := by decide

/-- A message with an empty payload. -/
def marker (size : Nat) (fits : size < 2 ^ 32) : Message where
  hasheader := false
  uncompressedSize := size
  payload := []
  size_fits := fits
  payload_fits := no_payload_fits

theorem marker_captured (itemsize : setup.params.itemsize = 1) (size : Nat)
    (fits : size < 2 ^ 32) :
    ∃ outs sink, capture setup [] [.deliver (marker size fits)] = .ok outs sink := by
  rcases setup with ⟨⟨itemsize', positive⟩, name, unbuffered, append, disk⟩
  cases itemsize
  cases unbuffered <;> cases append <;> exact ⟨_, _, rfl⟩

theorem base_of_append (append : setup.append = true) :
    setup.base = setup.disk.content setup.name := by
  rw [SinkSetup.base, if_pos append]

/-- Every capture that is destroyed adds its messages to what the file plays. -/
def Resumes (setup : SinkSetup) : Prop :=
  ∀ behaviours events outs sink, capture setup behaviours events = .ok outs sink →
    records (sink.device.disk.content setup.name) =
      records (setup.disk.content setup.name) ++ (received events).map Message.record

theorem marker_read (itemsize : setup.params.itemsize = 1) (append : setup.append = true)
    (resumes : Resumes setup) (size : Nat) (fits : size < 2 ^ 32) :
    records (setup.disk.content setup.name ++ (marker size fits).record.cells) =
      records (setup.disk.content setup.name) ++ [(marker size fits).record] := by
  obtain ⟨outs, sink, captured⟩ := marker_captured itemsize size fits
  have kept := capture_keeps itemsize [] [.deliver (marker size fits)]
  rw [captured] at kept
  have content : sink.device.disk.content setup.name = recording setup
    [.deliver (marker size fits)] := kept
  have read := resumes [] [.deliver (marker size fits)] outs sink captured
  rw [content, recording, base_of_append append] at read
  simpa [received, Event.received] using read

/-- A recording can be taken up in append mode exactly when its file has no torn
record. -/
theorem resumes_iff_untorn (itemsize : setup.params.itemsize = 1) (append : setup.append = true) :
    Resumes setup ↔ tail recordFraming (setup.disk.content setup.name) = [] := by
  constructor
  · intro resumes
    cases torn : tail recordFraming (setup.disk.content setup.name) with
    | nil => rfl
    | cons byte unfinished =>
        have one := tail_begins_as torn
          (marker_read itemsize append resumes 1 one_fits)
        have two := tail_begins_as torn
          (marker_read itemsize append resumes 2 (by decide))
        rw [← two] at one
        exact absurd one (by decide)
  · intro complete behaviours events outs sink captured
    have kept := capture_keeps itemsize behaviours events
    rw [captured] at kept
    have content : sink.device.disk.content setup.name = recording setup events := kept
    rw [content, recording, base_of_append append]
    exact frames_append_encoded complete _

end Resuming

/-- A file that was cut short in its first header. -/
def tornFile : SinkSetup where
  params :=
    { itemsize := 1
      itemsize_pos := Nat.one_pos }
  name := "out"
  unbuffered := true
  append := true
  disk := fun _ => some [1, 0, 0, 0]

/-- What is appended to four bytes of a header is not found. -/
theorem resumes_iff_untorn_four_bytes : ¬Resumes tornFile := by
  rw [resumes_iff_untorn rfl rfl]
  decide

/-! ## Any number of sessions -/

/-- The life of one of the sinks on a file. -/
structure Session where
  params : SinkParams
  bytewise : params.itemsize = 1
  unbuffered : Bool
  append : Bool
  behaviours : List Behaviour
  events : List Event

def Session.setup (session : Session) (name : String) (disk : Disk UInt8) : SinkSetup where
  params := session.params
  name := name
  unbuffered := session.unbuffered
  append := session.append
  disk := disk

def Session.captured (session : Session) (name : String) (disk : Disk UInt8) :
    EStateM.Result Fault FileSink (List Unit) :=
  capture (session.setup name disk) session.behaviours session.events

def diskAfter : EStateM.Result Fault FileSink (List Unit) → Disk UInt8
  | .ok _ sink => sink.device.disk
  | .error _ sink => sink.device.disk

variable (name : String)

/-- The files after some sessions. -/
def leaves (disk : Disk UInt8) (sessions : List Session) : Disk UInt8 :=
  sessions.foldl (fun disk session => diskAfter (session.captured name disk)) disk

/-- The next session appends to the file. -/
def Appends : List Session → Prop
  | [] => False
  | session :: _ => session.append = true

/-- No session that is killed leaves a torn record to one that appends. -/
def Untorn : Disk UInt8 → List Session → Prop
  | _, [] => True
  | disk, session :: later =>
      (∀ fault sink, session.captured name disk = .error fault sink → Appends later →
        tail recordFraming (sink.device.disk.content name) = []) ∧
      Untorn (diskAfter (session.captured name disk)) later

/-- From what a file plays to what it plays in the end: a session begins the file
anew unless it appends, and adds the first messages it received, all of them if it
was not killed. -/
inductive History : Disk UInt8 → List Record → List Session → List Record → Prop where
  | done (disk : Disk UInt8) (played : List Record) : History disk played [] played
  | session {disk : Disk UInt8} {played final : List Record} {session : Session}
      {later : List Session} (messages : List Message)
      (first : messages <+: received session.events)
      (all : ∀ outs sink, session.captured name disk = .ok outs sink →
        messages = received session.events)
      (rest : History (diskAfter (session.captured name disk))
        ((if session.append then played else []) ++ messages.map Message.record) later final) :
      History disk played (session :: later) final

/-- What one session makes of the file. -/
theorem session_plays {disk : Disk UInt8} (session : Session)
    (untorn : session.append = true → tail recordFraming (disk.content name) = []) :
    ∃ messages, messages <+: received session.events ∧
      (∀ outs sink, session.captured name disk = .ok outs sink →
        messages = received session.events ∧
          tail recordFraming (sink.device.disk.content name) = []) ∧
      records ((diskAfter (session.captured name disk)).content name) =
        (if session.append then records (disk.content name) else []) ++
          messages.map Message.record := by
  have bytewise : (session.setup name disk).params.itemsize = 1 := session.bytewise
  have kept := capture_keeps bytewise session.behaviours session.events
  have complete : tail recordFraming (session.setup name disk).base = [] := by
    unfold SinkSetup.base
    split
    · exact untorn ‹_›
    · exact tail_nil
  have base : records (session.setup name disk).base =
      if session.append then records (disk.content name) else [] := by
    rw [SinkSetup.base, apply_ite records]
    rfl
  rw [← base]
  cases captured : session.captured name disk with
  | ok outs sink =>
      rw [← Session.captured, captured] at kept
      have content : sink.device.disk.content name =
        recording (session.setup name disk) session.events := kept
      refine ⟨received session.events, List.prefix_rfl, ?_, ?_⟩
      · intro outs' sink' same
        rw [EStateM.Result.ok.injEq] at same
        rw [← same.2, content]
        exact ⟨rfl, tail_append_encoded complete _⟩
      · rw [diskAfter, content]
        exact frames_append_encoded complete _
  | error fault sink =>
      rw [← Session.captured, captured] at kept
      rcases kept with ⟨_, extends_base, within⟩
      obtain ⟨messages, initial, read⟩ := messages_between complete extends_base within
      refine ⟨messages, initial, ?_, read⟩
      intro outs' sink' impossible
      cases impossible

/-- However many sinks record to a file, one after the other, and however they end,
it plays what they recorded, as long as no torn record is appended to. -/
theorem sessions_play (disk : Disk UInt8) (sessions : List Session)
    (complete : Appends sessions → tail recordFraming (disk.content name) = [])
    (untorn : Untorn name disk sessions) :
    History name disk (records (disk.content name)) sessions
      (records ((leaves name disk sessions).content name)) := by
  induction sessions generalizing disk with
  | nil => exact .done disk _
  | cons session later induction =>
      rcases untorn with ⟨whole, untorn⟩
      obtain ⟨messages, initial, all, read⟩ := session_plays name session complete
      have next : Appends later → tail recordFraming
          ((diskAfter (session.captured name disk)).content name) = [] := by
        intro appends
        cases captured : session.captured name disk with
        | ok outs sink => exact (all outs sink captured).2
        | error fault sink => exact whole fault sink captured appends
      have rest := induction (diskAfter (session.captured name disk)) next untorn
      rw [read] at rest
      exact .session messages initial (fun outs sink ran => (all outs sink ran).1) rest

/-- One message to the file. -/
def oneMarker (append : Bool) (behaviours : List Behaviour) : Session where
  params := tornFile.params
  bytewise := rfl
  unbuffered := true
  append := append
  behaviours := behaviours
  events := [.deliver (marker 1 one_fits)]

/-- A new file, and a session that appends to it until its process is killed. -/
theorem sessions_play_two_sessions :
    History "out" (fun _ => none) []
      [oneMarker false [], oneMarker true [⟨0, false⟩, ⟨0, false⟩, ⟨4, true⟩]]
      (records ((leaves "out" (fun _ => none)
        [oneMarker false [], oneMarker true [⟨0, false⟩, ⟨0, false⟩, ⟨4, true⟩]]).content
          "out")) := by
  apply sessions_play "out" (fun _ => none)
  · intro appends
    exact absurd appends Bool.false_ne_true
  · refine ⟨?_, ?_, trivial⟩
    · intro fault sink killed
      have bytewise : ((oneMarker false []).setup "out" fun _ => none).params.itemsize = 1 := rfl
      obtain ⟨outs, after, captured⟩ := marker_captured bytewise 1 one_fits
      have returned : (oneMarker false []).captured "out" (fun _ => none) = .ok outs after :=
        captured
      rw [returned] at killed
      cases killed
    · intro fault sink _ appends
      exact appends.elim

end GrCompress.CaptureSessions
