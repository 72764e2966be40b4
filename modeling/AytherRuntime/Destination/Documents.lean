import AytherRuntime.Check.Columns
import AytherRuntime.Destination.Ledger
import AytherRuntime.Storage.CheckpointStore

/-! The documents of a ledger: the tables of its requests and runs, the texts that are printed of them, and what they
are read as when the destination is opened again. -/
namespace AytherRuntime.Destination
open Check (Toml)
open Storage (tableSize)

/-- The library that prints and parses documents. -/
structure DocumentLibrary where
  print : Toml → String
  parse : String → Option Toml

section Names

def admissionName : Admission → String
  | .pending => "pending"
  | .accepted => "accepted"
  | .rejected => "rejected"

def phaseName : Phase → String
  | .preparing => "preparing"
  | .ready => "ready"
  | .playing => "playing"
  | .closing => "closing"
  | .closed => "closed"

def playbackName : PlaybackResult → String
  | .notStarted => "not_started"
  | .inProgress => "in_progress"
  | .naturalEnd => "natural_end"
  | .cancelled => "cancelled"
  | .error => "error"

def evidenceName : EvidenceResult → String
  | .pending => "pending"
  | .inProgress => "in_progress"
  | .complete => "complete"
  | .incomplete => "incomplete"

def equivalenceName : EquivalenceResult → String
  | .unknown => "unknown"
  | .verified => "verified"
  | .incomplete => "incomplete"

end Names

section Tables

/-- A key that a document has only with its value. -/
def optionalNode (key : String) (value : Option String) : List (String × Toml) :=
  match value with
  | some value => [(key,.string value)]
  | none => []

/-- The table that `to_toml` prints of a request. -/
def requestTable (request : Request) : Toml :=
  .table ([("schema_version",Toml.integer 1),("schema_minor",.integer 0),("kind",.string "request"),
      ("request_id",.string request.requestId),("session_id",.string request.sessionId),
      ("conditions_id",.string request.conditionsId),("take_ids",.array (request.takeIds.map Toml.string)),
      ("admission",.string (admissionName request.admission))] ++
    (optionalNode "language" request.language ++ optionalNode "material_kind" request.materialKind))

/-- The table that `to_toml` prints of a run. -/
def runTable (run : Run) : Toml :=
  .table ([("schema_version",Toml.integer 1),("schema_minor",.integer 0),("kind",.string "run"),
      ("run_id",.string run.runId),("request_id",.string run.requestId),("take_id",.string run.takeId),
      ("phase",.string (phaseName run.phase)),("playback_result",.string (playbackName run.playbackResult)),
      ("evidence_result",.string (evidenceName run.evidenceResult)),
      ("equivalence_result",.string (equivalenceName run.equivalenceResult)),
      ("cessation_confirmed",.boolean run.cessationConfirmed)] ++
    (optionalNode "last_executed_frame" (run.lastExecutedFrame.map toString) ++
      optionalNode "last_durable_sample" (run.lastDurableSample.map toString)))

variable (library : DocumentLibrary)

def requestDocument (request : Request) : String := library.print (requestTable request)

def runDocument (run : Run) : String := library.print (runTable run)

def entryTable (entry : Entry) : Toml :=
  .table [("request_id",.string entry.request.requestId),
    ("request_document",.string (requestDocument library entry.request)),
    ("run_document",.string (runDocument library entry.run))]

/-- The table of `encode_ledger`. -/
def ledgerTable (ledger : RequestLedger) : Toml :=
  .table [("schema_version",.integer 1),("schema_minor",.integer 0),("kind",.string "request_ledger"),
    ("generation",.string (toString ledger.generation)),("entries",.array (ledger.entries.map (entryTable library)))]

def ledgerDocument (ledger : RequestLedger) : String := library.print (ledgerTable library ledger)

def DocumentLibrary.bytes : DocumentBytes where
  request := fun request => (requestDocument library request).utf8ByteSize
  run := fun run => (runDocument library run).utf8ByteSize
  ledger := fun ledger => (ledgerDocument library ledger).utf8ByteSize

end Tables

section Fields

/-- `document`: the version, the kind, and no key that the kind does not have. -/
def checkDocument (kind : String) (fields : List String) (table : Toml) : Bool :=
  table.number "schema_version" = some 1 && table.number "schema_minor" = some 0 && table.text "kind" = some kind &&
    match table with
    | .table entries => entries.all fun entry => entry.1 ∈ fields
    | _ => false

def identityField (key : String) (table : Toml) : Option String := (table.text key).filter identity

/-- `enum_field`, over the values of an enumeration. -/
def enumField {α : Type} (name : α → String) (values : List α) (key : String) (table : Toml) : Option α :=
  (table.text key).bind fun text => values.find? fun value => name value = text

/-- A number that may be absent, and is a text of digits. -/
def progress (key : String) (table : Toml) : Option (Option ℕ) :=
  match table.get key with
  | none => some none
  | some node => (node.asString.bind fun text => fromChars (2 ^ 64) text.toList).map some

/-- A text that may be absent, and is one of some names. -/
def optionalName (key : String) (names : List String) (table : Toml) : Option (Option String) :=
  match table.get key with
  | none => some none
  | some node => (node.asString.filter (· ∈ names)).map some

/-- The takes of a request, each an identity. -/
def takesField (table : Toml) : Option (List String) :=
  (table.rows "take_ids").bind fun nodes =>
    if nodes.isEmpty ∨ maxRequestTakes < nodes.length then none
    else nodes.mapM fun node => node.asString.filter identity

end Fields

section Reading

def requestFields : List String :=
  ["schema_version","schema_minor","kind","request_id","session_id","conditions_id","take_ids","admission","language",
    "material_kind"]

def runFields : List String :=
  ["schema_version","schema_minor","kind","run_id","request_id","take_id","phase","playback_result","evidence_result",
    "equivalence_result","last_executed_frame","last_durable_sample","cessation_confirmed"]

def parseRequest (table : Toml) : Option Request :=
  if checkDocument "request" requestFields table then do
    let language ← optionalName "language" ["es","en"] table
    let materialKind ← optionalName "material_kind" ["take","timeline"] table
    let requestId ← identityField "request_id" table
    let sessionId ← identityField "session_id" table
    let conditionsId ← identityField "conditions_id" table
    let admission ← enumField admissionName [.pending,.accepted,.rejected] "admission" table
    let takeIds ← takesField table
    some { requestId, sessionId, conditionsId, takeIds, admission, language, materialKind }
  else none

def parseRun (table : Toml) : Option Run :=
  if checkDocument "run" runFields table then do
    let runId ← identityField "run_id" table
    let requestId ← identityField "request_id" table
    let takeId ← identityField "take_id" table
    let phase ← enumField phaseName [.preparing,.ready,.playing,.closing,.closed] "phase" table
    let playbackResult ←
      enumField playbackName [.notStarted,.inProgress,.naturalEnd,.cancelled,.error] "playback_result" table
    let evidenceResult ← enumField evidenceName [.pending,.inProgress,.complete,.incomplete] "evidence_result" table
    let equivalenceResult ←
      enumField equivalenceName [.unknown,.verified,.incomplete] "equivalence_result" table
    let lastExecutedFrame ← progress "last_executed_frame" table
    let lastDurableSample ← progress "last_durable_sample" table
    let cessationConfirmed ← table.flag "cessation_confirmed"
    some {
      runId, requestId, takeId, phase, playbackResult, evidenceResult, equivalenceResult, lastExecutedFrame,
      lastDurableSample, cessationConfirmed }
  else none

inductive RequestLedgerError
  | invalidRoot | documentTooLarge | malformedDocument | incompatibleVersion | publishFailed | ioError
  deriving DecidableEq, Repr

variable (library : DocumentLibrary)

/-- `parse`: a document within its size. -/
def readDocument {α : Type} (decode : Toml → Option α) (text : String) : Option α :=
  if maxMetadataBytes < text.utf8ByteSize then none else (library.parse text).bind decode

/-- `request_from_toml` -/
def requestFromToml : String → Option Request := readDocument library parseRequest

/-- `run_from_toml` -/
def runFromToml : String → Option Run := readDocument library parseRun

def parseEntry (node : Toml) : Option Entry := do
  let requestId ← node.text "request_id"
  let request ← (node.text "request_document").bind (requestFromToml library)
  let run ← (node.text "run_document").bind (runFromToml library)
  if tableSize node = 3 ∧ request.requestId = requestId ∧ validPair library.bytes request run then
    some ⟨request,run⟩
  else none

/-- The entries of `decode_ledger`, each against those before it. -/
def decodeEntries : List Toml → List Entry → Option (List Entry)
  | [], entries => some entries
  | node :: nodes, entries =>
    (parseEntry library node).bind fun entry =>
      if entries.any fun other => other.request.requestId = entry.request.requestId ∨
          other.run.runId = entry.run.runId then none
      else decodeEntries nodes (entries ++ [entry])

def generationField (document : Toml) : Option ℕ :=
  ((document.text "generation").bind fun text => fromChars (2 ^ 64) text.toList).filter (· ≠ 0)

def entriesField (document : Toml) : Option (List Toml) :=
  (document.rows "entries").filter fun nodes => !nodes.isEmpty && nodes.length ≤ maxRegisteredRequests

def parseLedger (document : Toml) : Option RequestLedger :=
  if tableSize document = 5 ∧ document.text "kind" = some "request_ledger" then do
    let generation ← generationField document
    let nodes ← entriesField document
    let entries ← decodeEntries library nodes []
    some { generation, entries }
  else none

/-- `decode_ledger` -/
def decodeLedgerDocument (text : String) : Except RequestLedgerError RequestLedger :=
  if maxRequestLedgerBytes < text.utf8ByteSize then .error .documentTooLarge
  else
    match library.parse text with
    | none => .error .malformedDocument
    | some document =>
      if document.number "schema_version" ≠ some 1 ∨ document.number "schema_minor" ≠ some 0 then
        .error .incompatibleVersion
      else
        match parseLedger library document with
        | none => .error .malformedDocument
        | some ledger => .ok ledger

/-- `open_request_ledger`, of a destination whose file may be out of reach. -/
def openLedgerDocument (disk : Option String) (readable : Bool) : Except RequestLedgerError RequestLedger :=
  if !readable then .error .ioError
  else
    match disk with
    | none => .ok {}
    | some text => decodeLedgerDocument library text

end Reading
end AytherRuntime.Destination
