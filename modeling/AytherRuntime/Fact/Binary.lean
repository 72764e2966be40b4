import AytherRuntime.Fact.Model
import AytherRuntime.Library.Codec

/-! The binary form of a fact, `AQF4`: the facts with their texts as byte strings, what a well-formed one
is, and the writer and reader of their bytes. -/
namespace AytherRuntime.Binary
open Codec

structure Field (α : Type) where
  availability : Availability := .unknown
  value : Option α := none
  reasonCode : Bytes := []
  deriving DecidableEq

structure FactId where
  runId : Bytes
  producerId : Bytes
  producerSequence : UInt64
  deriving DecidableEq

inductive Cause
  | fact (id : FactId)
  | preexistingContext (contextId : Bytes)
  deriving DecidableEq

structure SharedStateOrder where
  stateId : Bytes
  sequence : UInt64
  deriving DecidableEq

/-- `FactFieldValue`; a `double` is its sixty-four bits. -/
inductive FactFieldValue
  | monostate
  | bool (value : Bool)
  | uint64 (value : UInt64)
  | int64 (value : Int64)
  | double (bits : UInt64)
  | text (value : Bytes)
  | factId (value : FactId)
  deriving DecidableEq

structure FactField where
  name : Bytes
  availability : Availability := .unknown
  unit : FactFieldUnit := .none
  value : FactFieldValue := .monostate
  unavailableReason : Bytes := []
  deriving DecidableEq

structure Fact where
  id : FactId
  kind : Bytes
  frameIndex : Field UInt64 := {}
  causeIds : List Cause := []
  decisionId : Field Bytes := {}
  assignmentId : Field Bytes := {}
  occurrenceId : Field Bytes := {}
  reasonCode : Field Bytes := {}
  sharedStateOrder : Field (List SharedStateOrder) := {}
  fields : List FactField := []
  deriving DecidableEq

section WellFormed

def maxFactCauses : ℕ := 256
def maxFactStateOrders : ℕ := 256
def maxFactFields : ℕ := 128
def maxFactFieldTextBytes : ℕ := 4096

def identifier (value : Bytes) : Bool := value ≠ [] ∧ value.length ≤ maxIdentityBytes

def consistentAvailability {α : Type} (field : Field α) : Bool :=
  if maxIdentityBytes < field.reasonCode.length then false
  else
    match field.availability with
    | .known => field.value.isSome
    | .notApplicable | .unknown => field.value.isNone

/-- `valid_field` of a text. -/
def validField (field : Field Bytes) : Bool :=
  consistentAvailability field && (match field.value with
    | some text => identifier text
    | none => true)

def validId (id : FactId) : Bool :=
  identifier id.runId && identifier id.producerId && id.producerSequence != 0

/-- `std::isfinite`: the exponent of the bits is not the one of infinities and NaNs. -/
def isFinite (bits : UInt64) : Bool := bits.toNat / 2 ^ 52 % 2 ^ 11 ≠ 2 ^ 11 - 1

def validObservationField (field : FactField) (runId : Bytes) : Bool :=
  if !identifier field.name || maxFactFieldTextBytes < field.unavailableReason.length then false
  else if (field.availability = .known) ≠ (field.value ≠ .monostate) then false
  else if field.availability = .known ∧ field.unavailableReason ≠ [] then false
  else if field.availability ≠ .known ∧ field.unavailableReason = [] then false
  else
    match field.value with
    | .text value => value.length ≤ maxFactFieldTextBytes
    | .double bits => isFinite bits
    | .factId id => validId id && id.runId = runId
    | _ => true

def validCause (id : FactId) : Cause → Bool
  | .fact cause => validId cause && cause.runId = id.runId && cause ≠ id
  | .preexistingContext contextId => identifier contextId

def validOrders (orders : List SharedStateOrder) : Bool :=
  orders ≠ [] && orders.length ≤ maxFactStateOrders &&
    orders.all (fun order => identifier order.stateId && order.sequence ≠ 0) &&
    (orders.map SharedStateOrder.stateId).Nodup

/-- `well_formed`; the names of the fields, the causes and the shared states do not repeat. -/
def wellFormed (fact : Fact) : Bool :=
  validId fact.id && identifier fact.kind && consistentAvailability fact.frameIndex &&
    validField fact.decisionId && validField fact.assignmentId && validField fact.occurrenceId &&
    validField fact.reasonCode && consistentAvailability fact.sharedStateOrder &&
    fact.causeIds.length ≤ maxFactCauses && fact.fields.length ≤ maxFactFields &&
    fact.fields.all (fun field => validObservationField field fact.id.runId) &&
    (fact.fields.map FactField.name).Nodup &&
    fact.causeIds.all (validCause fact.id) && fact.causeIds.Nodup &&
    (match fact.sharedStateOrder.value with
      | some orders => validOrders orders
      | none => true)

end WellFormed

section Writer

def availabilities : List Availability := [.known,.notApplicable,.unknown]

def units : List FactFieldUnit :=
  [.none,.emulationFrame,.sampleFrame,.bytes,.count,.linearGain,.framesPerSecond,.nanoseconds]

def writeAvailability (availability : Availability) : Bytes :=
  [UInt8.ofNat (availabilities.idxOf availability)]

def writeUnit (unit : FactFieldUnit) : Bytes := [UInt8.ofNat (units.idxOf unit)]

def writeFactId (id : FactId) : Bytes :=
  writeText id.runId ++ writeText id.producerId ++ writeLe 8 id.producerSequence.toNat

/-- The value of a field where it has one, after its availability and reason. -/
def writeField {α : Type} (write : α → Bytes) (field : Field α) : Bytes :=
  writeAvailability field.availability ++ writeText field.reasonCode ++
    (match field.value with
      | some value => write value
      | none => [])

def writeCause : Cause → Bytes
  | .fact id => 0 :: writeFactId id
  | .preexistingContext contextId => 1 :: writeText contextId

def writeOrder (order : SharedStateOrder) : Bytes :=
  writeText order.stateId ++ writeLe 8 order.sequence.toNat

/-- A count and as many elements. -/
def writeList {α : Type} (write : α → Bytes) (values : List α) : Bytes :=
  writeLe 4 values.length ++ values.flatMap write

/-- `field.value.index()` -/
def FactFieldValue.index : FactFieldValue → UInt8
  | .monostate => 0
  | .bool _ => 1
  | .uint64 _ => 2
  | .int64 _ => 3
  | .double _ => 4
  | .text _ => 5
  | .factId _ => 6

def writeValue : FactFieldValue → Bytes
  | .monostate => []
  | .bool value => [if value then 1 else 0]
  | .uint64 value => writeLe 8 value.toNat
  | .int64 value => writeLe 8 value.toUInt64.toNat
  | .double bits => writeLe 8 bits.toNat
  | .text value => writeText value
  | .factId id => writeFactId id

def writeBinaryField (field : FactField) : Bytes :=
  writeText field.name ++ writeAvailability field.availability ++ writeUnit field.unit ++
    [field.value.index] ++ writeText field.unavailableReason ++ writeValue field.value

def binaryFactMagic : Bytes := [65,81,70,52]

/-- The bytes of a fact after its magic, schema version and reserved bytes. -/
def writeFact (fact : Fact) : Bytes :=
  writeFactId fact.id ++ writeText fact.kind ++
    writeField (fun n => writeLe 8 n.toNat) fact.frameIndex ++ writeList writeCause fact.causeIds ++
    writeField writeText fact.decisionId ++ writeField writeText fact.assignmentId ++
    writeField writeText fact.occurrenceId ++ writeField writeText fact.reasonCode ++
    writeField (writeList writeOrder) fact.sharedStateOrder ++ writeList writeBinaryField fact.fields

def binaryFactHeader : Bytes := binaryFactMagic ++ [1,4] ++ writeLe 2 0

/-- `encode_binary_fact`; no text of a well-formed fact is too long for its length. -/
def encodeBinaryFact (fact : Fact) : Option Bytes :=
  if wellFormed fact then some (binaryFactHeader ++ writeFact fact) else none

end Writer

section Reader

def readFactId : Reader FactId := do
  let runId ← readText
  let producerId ← readText
  let producerSequence ← readUInt64
  pure { runId, producerId, producerSequence }

/-- A value follows where the availability is `known`. -/
def readField {α : Type} (read : Reader α) : Reader (Field α) := do
  let availability ← readEnum availabilities
  let reasonCode ← readText
  if availability = .known then
    let value ← read
    pure { availability, value := some value, reasonCode }
  else pure { availability, reasonCode }

def readCause : Reader Cause := do
  let type ← readByte
  if type = 0 then Cause.fact <$> readFactId
  else if type = 1 then Cause.preexistingContext <$> readText
  else failure

def readOrder : Reader SharedStateOrder := do
  let stateId ← readText
  let sequence ← readUInt64
  pure { stateId, sequence }

/-- A count within its bound and as many elements. -/
def readList {α : Type} (bound : ℕ) (read : Reader α) : Reader (List α) := do
  let count ← readLe 4
  if count ≤ bound then readMany read count else failure

/-- The value of a field, of the type that its index names. -/
def readValue (type : UInt8) : Reader FactFieldValue :=
  if type = 0 then pure .monostate
  else if type = 1 then do
    let value ← readByte
    if value ≤ 1 then pure (.bool (value ≠ 0)) else failure
  else if type = 2 then FactFieldValue.uint64 <$> readUInt64
  else if type = 3 then (fun n => FactFieldValue.int64 n.toInt64) <$> readUInt64
  else if type = 4 then FactFieldValue.double <$> readUInt64
  else if type = 5 then FactFieldValue.text <$> readText
  else if type = 6 then FactFieldValue.factId <$> readFactId
  else failure

def readBinaryField : Reader FactField := do
  let name ← readText
  let availability ← readEnum availabilities
  let unit ← readEnum units
  let type ← readByte
  let unavailableReason ← readText
  let value ← readValue type
  pure { name, availability, unit, value, unavailableReason }

def readFact : Reader Fact := do
  let id ← readFactId
  let kind ← readText
  let frameIndex ← readField readUInt64
  let causeIds ← readList maxFactCauses readCause
  let decisionId ← readField readText
  let assignmentId ← readField readText
  let occurrenceId ← readField readText
  let reasonCode ← readField readText
  let sharedStateOrder ← readField (readList maxFactStateOrders readOrder)
  let fields ← readList maxFactFields readBinaryField
  pure { id, kind, frameIndex, causeIds, decisionId, assignmentId, occurrenceId, reasonCode,
         sharedStateOrder, fields }

/-- `decode_binary_fact` -/
def decodeBinaryFact (bytes : Bytes) : Option Fact := do
  let (header,body) ← take binaryFactHeader.length bytes
  if header ≠ binaryFactHeader then none
  else
    let (fact,rest) ← readFact body
    if rest ≠ [] ∨ !wellFormed fact then none else some fact

end Reader
end AytherRuntime.Binary
