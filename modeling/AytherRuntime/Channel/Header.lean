import AytherRuntime.Library.Checked

/-! The header of a message of the channel between the supervisor and the Runtime: forty bytes with the type of
the message, the length of its payload, its channel and its sequence. -/
namespace AytherRuntime.Channel
open Codec Checked

section Header

def protocolHeaderBytes : ℕ := 40
def maxProtocolPayloadBytes : ℕ := 256 * 1024 - protocolHeaderBytes

inductive MessageType
  | capabilities | request | cancel | sessionStatus | factBatch | audioChunk | terminal | diagnostic | acknowledgement
  deriving DecidableEq, Repr

def MessageType.number : MessageType → ℕ
  | .capabilities => 1
  | .request => 2
  | .cancel => 3
  | .sessionStatus => 4
  | .factBatch => 5
  | .audioChunk => 6
  | .terminal => 7
  | .diagnostic => 8
  | .acknowledgement => 9

/-- `known_type`, with the type that it is. -/
def knownType (raw : ℕ) : Option MessageType :=
  [MessageType.capabilities,.request,.cancel,.sessionStatus,.factBatch,.audioChunk,.terminal,.diagnostic,
    .acknowledgement].find? fun type => type.number = raw

def channelFor : MessageType → ℕ
  | .request | .cancel | .acknowledgement => 1
  | _ => 2

structure ProtocolHeader where
  type : MessageType
  payloadBytes : ℕ
  channelId : ℕ
  channelSequence : ℕ
  deriving DecidableEq, Repr

inductive HeaderError
  | incomplete | invalidMagic | incompatibleVersion | invalidHeaderSize | unknownMessageType | unsupportedFlags
  | invalidPayloadLength | invalidChannel | invalidSequence | nonzeroReserved
  deriving DecidableEq, Repr

def magic : Bytes := [0x41,0x59,0x51,0x41]

def encodeProtocolHeader (header : ProtocolHeader) : Bytes :=
  magic ++ (writeLe 2 1 ++ (writeLe 2 0 ++ (writeLe 2 protocolHeaderBytes ++ (writeLe 2 header.type.number ++
    (writeLe 4 0 ++ (writeLe 4 header.payloadBytes ++ (writeLe 4 header.channelId ++
      (writeLe 8 header.channelSequence ++ writeLe 8 0))))))))

def decodeProtocolHeader (bytes : Bytes) (expectedChannel : ℕ) : Except HeaderError ProtocolHeader :=
  if bytes.length < protocolHeaderBytes then .error .incomplete
  else if bytes.take 4 ≠ magic then .error .invalidMagic
  else if field bytes 4 2 ≠ 1 ∨ field bytes 6 2 ≠ 0 then .error .incompatibleVersion
  else if field bytes 8 2 ≠ protocolHeaderBytes then .error .invalidHeaderSize
  else
    match knownType (field bytes 10 2) with
    | none => .error .unknownMessageType
    | some type =>
      if field bytes 12 4 ≠ 0 then .error .unsupportedFlags
      else if field bytes 16 4 = 0 ∨ maxProtocolPayloadBytes < field bytes 16 4 then .error .invalidPayloadLength
      else if (expectedChannel ≠ 1 ∧ expectedChannel ≠ 2) ∨ field bytes 20 4 ≠ expectedChannel ∨
          field bytes 20 4 ≠ channelFor type then .error .invalidChannel
      else if field bytes 24 8 = 0 then .error .invalidSequence
      else if field bytes 32 8 ≠ 0 then .error .nonzeroReserved
      else .ok ⟨type,field bytes 16 4,field bytes 20 4,field bytes 24 8⟩

end Header

section Decoding

/-- What a writer of messages puts into a header. -/
structure ProtocolHeader.Valid (header : ProtocolHeader) : Prop where
  payload : 0 < header.payloadBytes ∧ header.payloadBytes ≤ maxProtocolPayloadBytes
  channel : header.channelId = channelFor header.type
  sequence : 0 < header.channelSequence ∧ header.channelSequence < 2 ^ 64

@[simp] lemma length_encodeProtocolHeader (header : ProtocolHeader) :
    (encodeProtocolHeader header).length = protocolHeaderBytes := by
  simp [encodeProtocolHeader,magic,protocolHeaderBytes]

@[simp] lemma knownType_number (type : MessageType) : knownType type.number = some type := by
  cases type <;> decide

lemma number_lt (type : MessageType) : type.number < 256 ^ 2 := by cases type <;> decide

lemma channelFor_cases (type : MessageType) : channelFor type = 1 ∨ channelFor type = 2 := by
  cases type <;> decide

/-- A header that was written decodes to itself on its own channel. -/
theorem decodeProtocolHeader_encode {header : ProtocolHeader} (h : header.Valid) :
    decodeProtocolHeader (encodeProtocolHeader header) header.channelId = .ok header := by
  obtain ⟨⟨hpositive,hlimit⟩,hchannel,hsequence,hbound⟩ := h
  have hpayloadBound : header.payloadBytes < 256 ^ 4 := by
    have hmax : maxProtocolPayloadBytes < 256 ^ 4 := by decide
    omega
  have hchannelBound : header.channelId < 256 ^ 4 := by
    rcases channelFor_cases header.type with hone | htwo <;> omega
  have hmagic : (encodeProtocolHeader header).take 4 = magic := rfl
  have hversion : field (encodeProtocolHeader header) 4 2 = 1 := field_written magic rfl rfl (by decide)
  have hminor : field (encodeProtocolHeader header) 6 2 = 0 :=
    field_written (magic ++ writeLe 2 1) rfl rfl (by decide)
  have hsize : field (encodeProtocolHeader header) 8 2 = protocolHeaderBytes :=
    field_written (magic ++ writeLe 2 1 ++ writeLe 2 0) rfl rfl (by decide)
  have htype : field (encodeProtocolHeader header) 10 2 = header.type.number :=
    field_written (magic ++ writeLe 2 1 ++ writeLe 2 0 ++ writeLe 2 protocolHeaderBytes) rfl rfl
      (number_lt header.type)
  have hflags : field (encodeProtocolHeader header) 12 4 = 0 :=
    field_written (magic ++ writeLe 2 1 ++ writeLe 2 0 ++ writeLe 2 protocolHeaderBytes ++
      writeLe 2 header.type.number) rfl rfl (by decide)
  have hpayload : field (encodeProtocolHeader header) 16 4 = header.payloadBytes :=
    field_written (magic ++ writeLe 2 1 ++ writeLe 2 0 ++ writeLe 2 protocolHeaderBytes ++
      writeLe 2 header.type.number ++ writeLe 4 0) rfl rfl hpayloadBound
  have hid : field (encodeProtocolHeader header) 20 4 = header.channelId :=
    field_written (magic ++ writeLe 2 1 ++ writeLe 2 0 ++ writeLe 2 protocolHeaderBytes ++
      writeLe 2 header.type.number ++ writeLe 4 0 ++ writeLe 4 header.payloadBytes) rfl rfl hchannelBound
  have hnumber : field (encodeProtocolHeader header) 24 8 = header.channelSequence :=
    field_written (magic ++ writeLe 2 1 ++ writeLe 2 0 ++ writeLe 2 protocolHeaderBytes ++
      writeLe 2 header.type.number ++ writeLe 4 0 ++ writeLe 4 header.payloadBytes ++ writeLe 4 header.channelId)
      rfl rfl hbound
  have hreserved : field (encodeProtocolHeader header) 32 8 = 0 := by
    unfold field
    rw [show (encodeProtocolHeader header).drop 32 = writeLe 8 0 from rfl]
    decide
  unfold decodeProtocolHeader
  rw [length_encodeProtocolHeader,if_neg (lt_irrefl _),hmagic,if_neg (not_not.mpr rfl),hversion,hminor,
    if_neg (by decide),hsize,if_neg (not_not.mpr rfl),htype,knownType_number]
  dsimp only
  rw [hflags,if_neg (not_not.mpr rfl),hpayload,if_neg (by omega),hid,if_neg (by
    rcases channelFor_cases header.type with hone | htwo <;> omega),hnumber,if_neg (by omega),hreserved,
    if_neg (not_not.mpr rfl)]

end Decoding
end AytherRuntime.Channel
