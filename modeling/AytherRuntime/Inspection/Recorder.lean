import AytherRuntime.Inspection.Evidence

/-! The traversal that the supervisor records of a take, from its terminal, its inspection events, its audio and the
exclusions of its facts. -/
namespace AytherRuntime.Inspection
open Audio (PcmSegmentInterval)
open Check (TraversalKind textOfBytes)

section Events

structure InspectionEvent where
  seq : UInt64
  control : String
  frameBefore : UInt64
  frameAfter : UInt64
  visit : UInt64
  elapsedMs : UInt64
  deriving DecidableEq, Repr

def inspectionControls : List String :=
  ["pause","resume","step_forward","step_back","recover_failed","overlay_toggle","interrupted","recovered",
    "advance_take"]

/-- `text_field`: the first known text under the name. -/
def textField (fact : Fact) (name : String) : Option String :=
  fact.fields.findSome? fun field =>
    if field.name = name ∧ field.availability = .known then
      match field.value with
      | .text value => some value
      | _ => none
    else none

def readInspectionEvent (fact : Fact) : Option InspectionEvent :=
  if fact.kind ≠ "inspection_event" then none
  else
    match fact.knownUInt64 "seq", textField fact "control", fact.knownUInt64 "frame_before",
      fact.knownUInt64 "frame_after", fact.knownUInt64 "visit", fact.knownUInt64 "elapsed_ms" with
    | some seq, some control, some frameBefore, some frameAfter, some visit, some elapsed =>
      if seq = 0 ∨ control ∉ inspectionControls then none
      else some ⟨.ofNat seq,control,.ofNat frameBefore,.ofNat frameAfter,.ofNat visit,.ofNat elapsed⟩
    | _, _, _, _, _, _ => none

end Events

section Recorder

def maxTraversalVisits : ℕ := 100000

structure TraversalRecorder where
  document : TraversalDocument
  afterVisit : Bool := false
  visitLimitExceeded : Bool := false
  lastFrame : Option UInt64 := none

def movesPosition (control : String) : Bool := control = "step_forward" || control = "step_back"

/-- The list with its last entry changed. -/
def changeLast {α : Type} (change : α → α) : List α → List α
  | [] => []
  | [a] => [change a]
  | a :: b :: rest => a :: changeLast change (b :: rest)

namespace TraversalRecorder

def new (framesTotal : UInt64) : TraversalRecorder := { document := { framesTotal } }

/-- Playback after an inspection continues from the visit that ended it. -/
def framePlayed (recorder : TraversalRecorder) (frame : UInt64) : TraversalRecorder :=
  let document := recorder.document
  match recorder.afterVisit,document.visits.getLast? with
  | true,some visit =>
    let resumes := document.resumeAfter
    if (resumes.getLast?.map TraversalResume.seq) = some visit.seq then
      { recorder with
        lastFrame := some frame
        document := { document with resumeAfter := changeLast (fun last => { last with last := frame }) resumes } }
    else
      { recorder with
        lastFrame := some frame
        document := { document with resumeAfter := resumes ++ [⟨visit.seq,frame,frame,"continued"⟩] } }
  | _,_ =>
    if document.segments = [] then
      { recorder with
        lastFrame := some frame
        document := { document with segments := [⟨frame,frame,"linear"⟩] } }
    else
      { recorder with
        lastFrame := some frame
        document := { document with
          segments := changeLast (fun last => { last with last := frame }) document.segments } }

def inspection (recorder : TraversalRecorder) (event : InspectionEvent) : TraversalRecorder :=
  let document := recorder.document
  if event.control = "interrupted" then
    { recorder with
      document := { document with interruptions := document.interruptions ++ [⟨event.seq,event.frameBefore⟩] } }
  else if recorder.visitLimitExceeded ∨ maxTraversalVisits ≤ document.visits.length then
    { recorder with visitLimitExceeded := true }
  else
    { recorder with
      afterVisit := true
      document := { document with
        visits := document.visits ++ [⟨event.seq,event.frameAfter,event.control⟩]
        kind := if movesPosition event.control then .inspection else document.kind } }

/-- `document`: a linear traversal is complete with the last frame of the take. -/
def recorded (recorder : TraversalRecorder) : TraversalDocument :=
  { recorder.document with
    linearCompleted := recorder.document.kind = .linear && 0 < recorder.document.framesTotal &&
      recorder.lastFrame.any fun frame => frame + 1 = recorder.document.framesTotal }

/-- The frames between two events, if there are some. -/
def playStretch (recorder : TraversalRecorder) (resumed until' : UInt64) : TraversalRecorder :=
  if resumed ≤ until' then (recorder.framePlayed resumed).framePlayed until' else recorder

/-- Each event, with the frames that are played after it: up to the next event or to the last frame. -/
def playEvents (last : UInt64) : TraversalRecorder → List InspectionEvent → TraversalRecorder
  | recorder, [] => recorder
  | recorder, event :: rest =>
    let until' := match rest.head? with
      | some next => min next.frameBefore last
      | none => last
    playEvents last ((recorder.inspection event).playStretch (event.frameAfter + 1) until') rest

end TraversalRecorder

/-- `traversal_of_take` -/
def traversalOfTake (framesTotal framesConsumed : UInt64) (events : List InspectionEvent) : TraversalDocument :=
  let recorder := TraversalRecorder.new framesTotal
  if framesConsumed = 0 then (events.foldl TraversalRecorder.inspection recorder).recorded
  else
    let last := framesConsumed - 1
    match events with
    | [] => ((recorder.framePlayed 0).framePlayed last).recorded
    | event :: rest =>
      (TraversalRecorder.playEvents last
        ((recorder.framePlayed 0).framePlayed (min event.frameBefore last)) (event :: rest)).recorded

end Recorder

section Audio

inductive AudioSegmentsError
  | pcmWithoutFrames | framesWithoutPcm
  deriving DecidableEq, Repr

/-- The frames of the segments: each with its first and its last. -/
abbrev SegmentFrames := List (UInt64 × UInt64 × UInt64)

/-- `played` -/
def played (frames : SegmentFrames) (segment first last : UInt64) : SegmentFrames :=
  if frames.any fun entry => entry.1 = segment then
    frames.map fun entry =>
      if entry.1 = segment then (segment,min entry.2.1 first,max entry.2.2 last) else entry
  else frames ++ [(segment,first,last)]

/-- The segment of a stretch is the count of the resumes up to it. -/
def resumeSegment (resumes : List UInt64) (seq : UInt64) : UInt64 :=
  .ofNat ((resumes.mergeSort (· ≤ ·)).takeWhile (· ≤ seq)).length

def segmentFrames (traversal : TraversalDocument) (events : List InspectionEvent) : SegmentFrames :=
  let resumes := (events.filter fun event => event.control = "resume").map InspectionEvent.seq
  traversal.resumeAfter.foldl
    (fun frames resume => played frames (resumeSegment resumes resume.seq) resume.fromFrame resume.last)
    (traversal.segments.foldl (fun frames segment => played frames 0 segment.first segment.last) [])

def audioSegment (kept : PcmSegmentInterval) (first last : UInt64) : TraversalAudioSegment :=
  ⟨.ofNat kept.segment,first,last,textOfBytes kept.samples.timelineId,.ofNat kept.samples.sampleRate,
    .ofNat kept.samples.begin,.ofNat kept.samples.stop,.ofNat kept.blocks⟩

/-- `audio_segments_of_take`: each segment with frames needs its PCM, and PCM needs frames. -/
def audioSegmentsOfTake (traversal : TraversalDocument) (events : List InspectionEvent)
    (pcm : List PcmSegmentInterval) : Except AudioSegmentsError (List TraversalAudioSegment) :=
  let frames := segmentFrames traversal events
  match pcm.mapM fun kept =>
      (frames.find? fun entry => entry.1 = .ofNat kept.segment).map fun entry =>
        audioSegment kept entry.2.1 entry.2.2 with
  | none => .error .pcmWithoutFrames
  | some segments =>
    if frames.any fun entry => pcm.all fun kept => .ofNat kept.segment ≠ entry.1 then .error .framesWithoutPcm
    else .ok segments

end Audio

section Supervisor

def inspectionEvents (facts : List Fact) : List InspectionEvent := facts.filterMap readInspectionEvent

def factExclusions (facts : List Fact) : List FactExclusion :=
  facts.filterMap fun fact => if (readInspectionEvent fact).isSome then none else readFactExclusion fact

/-- The document of a take, from the frames of its terminal, the facts of the channel and the PCM that was kept. -/
def takeTraversal (recordingFrames inputsConsumed : UInt64) (facts : List Fact) (pcm : List PcmSegmentInterval) :
    TraversalDocument :=
  let events := inspectionEvents facts
  let traversal := traversalOfTake recordingFrames inputsConsumed events
  { traversal with
    audioSegments := (audioSegmentsOfTake traversal events pcm).toOption
    factExclusions := some (factExclusions facts) }

/-- The document of a post-end inspection, which is silent. -/
def postEndTraversal (recordingFrames inputsConsumed : UInt64) (facts : List Fact) : TraversalDocument :=
  { traversalOfTake recordingFrames inputsConsumed (inspectionEvents facts) with
    kind := .postEndInspection, linearCompleted := false, audioSegments := some [] }

end Supervisor

section Far

/-- An event as the Runtime gives it, with a sequence that no signed column holds. -/
def farVisit : Fact where
  id := ⟨"run",inspectionProducer,1⟩
  kind := "inspection_event"
  fields := [knownField "seq" (.uint64 (2 ^ 63)) .count,knownField "control" (.text "pause"),
    knownField "frame_before" (.uint64 1) .emulationFrame,knownField "frame_after" (.uint64 1) .emulationFrame,
    knownField "visit" (.uint64 1) .count,knownField "elapsed_ms" (.uint64 20)]

/-- The document is written, and it does not read. -/
theorem farVisit_unread : parseTraversal (formatTraversal (takeTraversal 3 3 [farVisit] [])) = .error .invalid := by
  decide +kernel

end Far
end AytherRuntime.Inspection
