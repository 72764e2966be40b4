import AytherRuntime.Library.Checked

/-! Save states: the file that a payload is written to, and the reading of such files and of older ones
without a header. -/
namespace AytherRuntime.Storage
open Codec Checked

section Source

inductive SaveStateStatus
  | saved | loaded | missing | invalid | unsupportedVersion | ioError | targetExists
  deriving DecidableEq, Repr

inductive SaveStateWriteFault
  | none | diskFull | beforePublish
  deriving DecidableEq, Repr

inductive RuntimeErrorCode
  | stateRestoreFailed | stateSaveFailed | persistenceIoFailed
  deriving DecidableEq, Repr

def saveStateFormatVersion : ℕ := 1

/-- A path as its components. -/
abbrev StatePath := List Bytes

structure SaveStateLoadResult where
  status : SaveStateStatus := .missing
  formatVersion : ℕ := 0
  bytes : Bytes := []
  error : RuntimeErrorCode := .stateRestoreFailed
  diagnostic : String := ""
  deriving DecidableEq, Repr

structure SaveStateWriteResult where
  status : SaveStateStatus := .ioError
  path : StatePath := []
  error : RuntimeErrorCode := .stateSaveFailed
  diagnostic : String := ""
  deriving DecidableEq, Repr

namespace SaveStateStore

/-- The letters `AYTHSTAT`. -/
def saveStateMagic : Bytes := [65,89,84,72,83,84,65,84]

def saveStateHeaderSize : ℕ := 8 + 4 + 8 + 4

/-- `checksum` -/
def checksum (bytes : Bytes) : UInt32 := Checked.multiplied 2166136261 16777619 bytes

/-- `encode_state`, as far as the vector can hold what it appends. -/
def encodeState (payload : Bytes) : Option ByteVector :=
  ByteVector.ofBytes (saveStateMagic ++ (writeLe 4 saveStateFormatVersion ++ (writeLe 8 payload.length ++
    (writeLe 4 (checksum payload).toNat ++ payload))))

/-- What the file system answers about a path. -/
inductive StateFile
  | absent
  | unknown (message : String)
  | unsized (message : String)
  | unreadable (size : ℕ)
  | content (file : ByteVector)

/-- The check of the size of a file before it is read. -/
def sizeAllowed (size : ℕ) : Bool := size ≠ 0 && size ≤ 2 ^ 64 - 1 && size ≤ 2 ^ 63 - 1

/-- The bytes of a file that has been read. -/
def loadBytes (bytes : Bytes) : SaveStateLoadResult :=
  if bytes.take 8 ≠ saveStateMagic then { status := .loaded, bytes }
  else if bytes.length < saveStateHeaderSize then
    { status := .invalid, diagnostic := "versioned state header is truncated" }
  else
    -- The header is complete, so that each field is inside the bytes.
    let version := field bytes 8 4
    if version ≠ saveStateFormatVersion then
      { status := .unsupportedVersion, formatVersion := version,
        diagnostic := "save-state format version is unsupported" }
    else if field bytes 12 8 ≠ bytes.length - saveStateHeaderSize then
      { status := .invalid, formatVersion := version, diagnostic := "save-state payload length is invalid" }
    else if (checksum (bytes.drop saveStateHeaderSize)).toNat ≠ field bytes 20 4 then
      { status := .invalid, formatVersion := version, diagnostic := "save-state checksum mismatch" }
    else { status := .loaded, formatVersion := version, bytes := bytes.drop saveStateHeaderSize }

/-- `load` -/
def load : StateFile → SaveStateLoadResult
  | .absent => { status := .missing, diagnostic := "state file does not exist" }
  | .unknown message => { status := .ioError, diagnostic := message }
  | .unsized message => { status := .invalid, diagnostic := message }
  | .unreadable size =>
    if sizeAllowed size then { status := .ioError, diagnostic := "could not read the complete state file" }
    else { status := .invalid, diagnostic := "state file has an invalid size" }
  | .content file =>
    if sizeAllowed file.bytes.length then loadBytes file.bytes
    else { status := .invalid, diagnostic := "state file has an invalid size" }

def text (s : String) : Bytes := s.toList.map fun c => UInt8.ofNat c.toNat

def isUpper (byte : UInt8) : Bool := 65 ≤ byte && byte ≤ 90
def isAlnum (byte : UInt8) : Bool := isUpper byte || 97 ≤ byte && byte ≤ 122 || 48 ≤ byte && byte ≤ 57
def toLower (byte : UInt8) : UInt8 := if isUpper byte then byte + 32 else byte

/-- `sanitize_component` -/
def sanitizeComponent (value : Bytes) : Bytes :=
  let sanitized := value.map fun byte => if isAlnum byte || byte = 45 || byte = 95 then byte else 95
  if sanitized = [] then text "sin_nombre" else sanitized

/-- The names that a save is asked for. -/
structure SaveNames where
  root : StatePath
  gameId : Bytes
  profile : Bytes
  romRevision : Bytes
  timestampUtc : Bytes := []

/-- What the clock and the file system answer during a save. -/
structure SaveAnswers where
  clock : Option Bytes
  createError : Option String
  existsError : Option String
  targetExists : Bool
  writes : Bool
  renameError : Option String

def orDefault (value : Bytes) (default : String) : Bytes := if value = [] then text default else value

/-- `current_timestamp` -/
def currentTimestamp (clock : Option Bytes) : Bytes := clock.getD (text "unknown-time")

def destination (names : SaveNames) (answers : SaveAnswers) : StatePath :=
  let revision := (sanitizeComponent (orDefault names.romRevision "sinrev")).map toLower
  let timestamp :=
    if names.timestampUtc = [] then currentTimestamp answers.clock else sanitizeComponent names.timestampUtc
  names.root ++ [sanitizeComponent (orDefault names.gameId "unknown"),
    sanitizeComponent (orDefault names.profile "original"),
    text "estado-" ++ timestamp ++ text "-" ++ revision ++ text ".bin"]

/-- The result of a save whose file was not published. -/
def unwritten (path : StatePath) (message : Option String) : SaveStateWriteResult where
  status := .ioError
  path := path
  error := .persistenceIoFailed
  diagnostic := message.getD "could not write the complete state file"

/-- The write to the temporary file and its publication at the destination. -/
def publish (fault : SaveStateWriteFault) (path : StatePath) (answers : SaveAnswers) (encoded : ByteVector) :
    SaveStateWriteResult × Option ByteVector :=
  if !answers.writes then (unwritten path answers.existsError,none)
  else if fault = .beforePublish then (unwritten path (some "Input/output error"),none)
  else match answers.renameError with
    | some message => (unwritten path (some message),none)
    | none => ({ status := .saved, path },some encoded)

/-- `save`, with the file that it leaves at the destination. -/
def save (fault : SaveStateWriteFault) (names : SaveNames) (bytes : Bytes) (answers : SaveAnswers) :
    Option (SaveStateWriteResult × Option ByteVector) :=
  if names.root = [] ∨ bytes = [] then
    some ({ status := .invalid, diagnostic := "save root and state bytes are required" },none)
  else if fault = .diskFull then
    some ({ status := .ioError, error := .persistenceIoFailed, diagnostic := "simulated storage exhaustion" },none)
  else match answers.createError with
    | some message =>
      some ({ status := .ioError, error := .persistenceIoFailed, diagnostic := message },none)
    | none =>
      let path := destination names answers
      if answers.existsError = none ∧ answers.targetExists then
        some ({ status := .targetExists, path, diagnostic := "state destination already exists" },none)
      else (encodeState bytes).map (publish fault path answers)

end SaveStateStore

end Source

namespace SaveStateStore

section Decode
variable {payload : Bytes} {file : ByteVector}

/-- What is checked of a file that begins with the magic. -/
structure Checks (bytes : Bytes) : Prop where
  header_le : saveStateHeaderSize ≤ bytes.length
  version_eq : field bytes 8 4 = saveStateFormatVersion
  size_eq : field bytes 12 8 = bytes.length - saveStateHeaderSize
  checksum_eq : (checksum (bytes.drop saveStateHeaderSize)).toNat = field bytes 20 4

/-- The result of a load that gives a payload of the current version. -/
def loadedAs (payload : Bytes) : SaveStateLoadResult where
  status := .loaded
  formatVersion := saveStateFormatVersion
  bytes := payload

lemma sizeAllowed_of_magic (h : file.bytes.take 8 = saveStateMagic) : sizeAllowed file.bytes.length = true := by
  have hsize := file.size_le
  have hlength := congrArg List.length h
  rw [List.length_take,show saveStateMagic.length = 8 from rfl] at hlength
  unfold maxVectorSize at hsize
  unfold sizeAllowed
  rw [Bool.and_eq_true,Bool.and_eq_true,decide_eq_true_eq,decide_eq_true_eq,decide_eq_true_eq]
  omega

/-- A file with the magic is loaded exactly when the checks hold, and then as the payload after its header. -/
lemma load_content (h : file.bytes.take 8 = saveStateMagic) :
    Checks file.bytes ∧ load (.content file) = loadedAs (file.bytes.drop saveStateHeaderSize) ∨
      ¬Checks file.bytes ∧ (load (.content file)).status ≠ .loaded ∧ (load (.content file)).bytes = [] := by
  unfold load
  dsimp only
  rw [if_pos (sizeAllowed_of_magic h)]
  unfold loadBytes
  rw [if_neg (not_not.mpr h)]
  dsimp only
  split_ifs with hheader hversion hsize hchecksum
  · exact .inr ⟨fun hchecks => absurd hchecks.header_le (Nat.not_le.mpr hheader),by simp,rfl⟩
  · exact .inr ⟨fun hchecks => hversion hchecks.version_eq,by simp,rfl⟩
  · exact .inr ⟨fun hchecks => hsize hchecks.size_eq,by simp,rfl⟩
  · exact .inr ⟨fun hchecks => hchecksum hchecks.checksum_eq,by simp,rfl⟩
  · rw [not_not] at hversion hsize hchecksum
    rw [hversion]
    exact .inl ⟨⟨Nat.not_lt.mp hheader,hversion,hsize,hchecksum⟩,rfl⟩

lemma loaded_iff_checks (h : file.bytes.take 8 = saveStateMagic) :
    (load (.content file)).status = .loaded ↔ Checks file.bytes := by
  rcases load_content h with ⟨hchecks,hload⟩ | ⟨hchecks,hstatus,-⟩
  · exact iff_of_true (by rw [hload]; rfl) hchecks
  · exact iff_of_false hstatus hchecks

/-- A file is the encoding of a payload exactly when it begins with the magic, the checks hold and the payload
follows the header. -/
lemma encodeState_iff : encodeState payload = some file ↔
    file.bytes.take 8 = saveStateMagic ∧ Checks file.bytes ∧
      file.bytes.drop saveStateHeaderSize = payload := by
  have hchecksum := (checksum payload).toNat_lt
  have hsize := file.size_le
  unfold maxVectorSize at hsize
  have hfields : saveStateHeaderSize ≤ file.bytes.length → payload.length < 2 ^ 64 →
      (encodeState payload = some file ↔ file.bytes.take 8 = saveStateMagic ∧
        field file.bytes 8 4 = saveStateFormatVersion ∧ field file.bytes 12 8 = payload.length ∧
          field file.bytes 20 4 = (checksum payload).toNat ∧
            file.bytes.drop saveStateHeaderSize = payload) := by
    intro hheader hpayload
    unfold saveStateHeaderSize at hheader
    unfold encodeState
    rw [ByteVector.ofBytes_eq_some_iff,eq_append_iff,show saveStateMagic.length = 8 from rfl,
      drop_eq_writeLe_append_iff (by omega) (by decide),
      drop_eq_writeLe_append_iff (by omega) (by simpa using hpayload),
      drop_eq_writeLe_append_iff (by omega) (by simpa using hchecksum)]
    rfl
  constructor
  · intro hencode
    have hlength := congrArg List.length (ByteVector.ofBytes_eq_some_iff.mp hencode)
    simp only [List.length_append,length_writeLe,show saveStateMagic.length = 8 from rfl] at hlength
    have hheader : saveStateHeaderSize ≤ file.bytes.length := by
      unfold saveStateHeaderSize
      omega
    obtain ⟨hmagic,hversion,hcount,hsum,hpayload⟩ := (hfields hheader (by omega)).mp hencode
    refine ⟨hmagic,⟨hheader,hversion,?_,?_⟩,hpayload⟩
    · rw [hcount,← hpayload,List.length_drop]
    · rw [hpayload,hsum]
  · rintro ⟨hmagic,hchecks,hpayload⟩
    have hlength := List.length_drop (i := saveStateHeaderSize) (l := file.bytes)
    rw [hpayload] at hlength
    refine (hfields hchecks.header_le (by omega)).mpr ⟨hmagic,hchecks.version_eq,?_,?_,hpayload⟩
    · rw [hchecks.size_eq,hlength]
    · rw [← hchecks.checksum_eq,hpayload]

/-- What is encoded is loaded. -/
lemma load_encodeState (h : encodeState payload = some file) : load (.content file) = loadedAs payload := by
  obtain ⟨hmagic,hchecks,hpayload⟩ := encodeState_iff.mp h
  rcases load_content hmagic with ⟨-,hload⟩ | ⟨hnot,-⟩
  · rw [hload,hpayload]
  · exact absurd hchecks hnot

/-- With the magic, a file is loaded exactly when it is the encoding of what is returned. -/
lemma loaded_iff_encodeState (h : file.bytes.take 8 = saveStateMagic) :
    (load (.content file)).status = .loaded ↔ encodeState (load (.content file)).bytes = some file := by
  rw [loaded_iff_checks h,encodeState_iff]
  rcases load_content h with ⟨hchecks,hload⟩ | ⟨hnot,-⟩
  · rw [hload]
    exact iff_of_true hchecks ⟨h,hchecks,rfl⟩
  · exact iff_of_false hnot fun hall => hnot hall.2.1

end Decode

section Corruption
variable {payload : Bytes} {file : ByteVector} {place count : ℕ} {byte : UInt8}

lemma not_checks_take (h : Checks file.bytes) (hcount : count < file.bytes.length) :
    ¬Checks (file.bytes.take count) := by
  intro htake
  have hheader := htake.header_le
  have hsize := htake.size_eq
  rw [List.length_take,Nat.min_eq_left (le_of_lt hcount)] at hheader hsize
  have hlength := h.size_eq
  unfold saveStateHeaderSize at hheader hsize hlength
  rw [field_take (by omega),hlength] at hsize
  omega

lemma not_checks_set (h : Checks file.bytes) (hmagic : 8 ≤ place) (hplace : place < file.bytes.length)
    (hne : file.bytes[place] ≠ byte) : ¬Checks (file.bytes.set place byte) := by
  intro hset
  have hversion := hset.version_eq
  have hsize := hset.size_eq
  have hchecksum := hset.checksum_eq
  rw [List.length_set] at hsize
  unfold saveStateHeaderSize at hchecksum
  rw [List.drop_set] at hchecksum
  by_cases hversionField : place < 8 + 4
  · -- The version is another one.
    exact field_set_ne hmagic hversionField hplace hne (hversion.trans h.version_eq.symm)
  by_cases hsizeField : place < 12 + 8
  · -- The length is another one, but the size of the file has stayed.
    exact field_set_ne (by omega) hsizeField hplace hne (hsize.trans h.size_eq.symm)
  by_cases hchecksumField : place < 20 + 4
  · -- The checksum is another one, but the payload has stayed.
    rw [if_pos (by omega)] at hchecksum
    exact field_set_ne (by omega) hchecksumField hplace hne (hchecksum.symm.trans h.checksum_eq)
  · -- The payload has another checksum.
    rw [if_neg (by omega),field_set_of_le (by omega)] at hchecksum
    have hinside : place - 24 < (file.bytes.drop 24).length := by
      rw [List.length_drop]
      omega
    have hbyte : (file.bytes.drop 24)[place - 24] ≠ byte := by
      rw [List.getElem_drop]
      intro hsame
      apply hne
      rw [← hsame]
      congr 1
      omega
    have hinverse : (16777619 : UInt32) * 899433627 = 1 := by decide
    exact Checked.multiplied_set_ne hinverse 2166136261 hinside hbyte
      (UInt32.toNat_inj.mp (hchecksum.trans h.checksum_eq.symm))

lemma take_keeps_magic (h : file.bytes.take 8 = saveStateMagic) (hcount : 8 ≤ count) :
    (file.take count).bytes.take 8 = saveStateMagic := by
  unfold ByteVector.take
  rw [List.take_take,Nat.min_eq_left hcount,h]

lemma set_keeps_magic (h : file.bytes.take 8 = saveStateMagic) (hplace : 8 ≤ place) :
    (file.set place byte).bytes.take 8 = saveStateMagic := by
  unfold ByteVector.set
  rw [List.take_set,List.set_eq_of_length_le,h]
  rw [List.length_take]
  omega

end Corruption

section Result

lemma publish_saved {fault : SaveStateWriteFault} {path : StatePath} {answers : SaveAnswers}
    {encoded : ByteVector} (h : (publish fault path answers encoded).1.status = .saved) :
    (publish fault path answers encoded).2 = some encoded := by
  unfold publish at h ⊢
  split_ifs at h ⊢
  · cases h
  · cases h
  · cases hrename : answers.renameError with
    | some message =>
      rw [hrename] at h
      cases h
    | none => rfl

/-- What a save publishes is the encoding of its payload. -/
lemma save_saved {fault : SaveStateWriteFault} {names : SaveNames} {payload : Bytes} {answers : SaveAnswers}
    {result : SaveStateWriteResult} {stored : Option ByteVector}
    (h : save fault names payload answers = some (result,stored)) (hsaved : result.status = .saved) :
    ∃ file, stored = some file ∧ encodeState payload = some file := by
  unfold save at h
  by_cases hrequired : names.root = [] ∨ payload = []
  · rw [if_pos hrequired] at h
    cases h
    cases hsaved
  by_cases hfull : fault = .diskFull
  · rw [if_neg hrequired,if_pos hfull] at h
    cases h
    cases hsaved
  rw [if_neg hrequired,if_neg hfull] at h
  cases hcreate : answers.createError with
  | some message =>
    rw [hcreate] at h
    cases h
    cases hsaved
  | none =>
    rw [hcreate] at h
    dsimp only at h
    split_ifs at h
    · cases h
      cases hsaved
    · obtain ⟨encoded,hencode,hpublish⟩ := Option.map_eq_some_iff.mp h
      obtain ⟨rfl,rfl⟩ := Prod.mk.inj hpublish
      exact ⟨encoded,publish_saved hsaved,hencode⟩

/-- What is saved is loaded again, a file with the magic is accepted exactly when it encodes what is returned,
and no truncation that keeps the magic and no change of a byte after it is accepted. -/
theorem save_state_kept_or_rejected :
    (∀ fault names payload answers result stored, save fault names payload answers = some (result,stored) →
      result.status = .saved → ∃ file, stored = some file ∧ load (.content file) = loadedAs payload) ∧
    (∀ file : ByteVector, file.bytes.take 8 = saveStateMagic →
      ((load (.content file)).status = .loaded ↔ encodeState (load (.content file)).bytes = some file)) ∧
    (∀ payload file count, encodeState payload = some file → 8 ≤ count → count < file.bytes.length →
      (load (.content (file.take count))).status ≠ .loaded) ∧
    ∀ payload file place byte, encodeState payload = some file → 8 ≤ place →
      (∃ old ∈ file.bytes[place]?, old ≠ byte) → (load (.content (file.set place byte))).status ≠ .loaded := by
  refine ⟨?_,fun file => loaded_iff_encodeState,?_,?_⟩
  · intro fault names payload answers result stored hsave hsaved
    obtain ⟨file,hstored,hencode⟩ := save_saved hsave hsaved
    exact ⟨file,hstored,load_encodeState hencode⟩
  · intro payload file count hencode hmagic hcount hloaded
    obtain ⟨hstart,hchecks,-⟩ := encodeState_iff.mp hencode
    exact not_checks_take hchecks hcount ((loaded_iff_checks (take_keeps_magic hstart hmagic)).mp hloaded)
  · rintro payload file place byte hencode hmagic ⟨old,hold,hne⟩ hloaded
    obtain ⟨hstart,hchecks,-⟩ := encodeState_iff.mp hencode
    obtain ⟨hplace,rfl⟩ := List.getElem?_eq_some_iff.mp hold
    exact not_checks_set hchecks hmagic hplace hne
      ((loaded_iff_checks (set_keeps_magic hstart hmagic)).mp hloaded)

/-- Three bytes are saved and loaded; the file without its last byte, or with another one at the start of its payload,
is not loaded. -/
theorem threeBytes_kept : ∃ result file,
    save .none ⟨[[1]],[2],[3],[4],[5]⟩ [1,2,3] ⟨none,none,none,false,true,none⟩ = some (result,some file) ∧
      load (.content file) = loadedAs [1,2,3] ∧ (load (.content (file.take 26))).status ≠ .loaded ∧
      (load (.content (file.set 24 9))).status ≠ .loaded := by
  have hstatus : (save .none ⟨[[1]],[2],[3],[4],[5]⟩ [1,2,3] ⟨none,none,none,false,true,none⟩).map (·.1.status) =
      some .saved := by decide
  obtain ⟨⟨result,stored⟩,hsave,hsaved⟩ := Option.map_eq_some_iff.mp hstatus
  obtain ⟨hkept,-,htruncated,hchanged⟩ := save_state_kept_or_rejected
  obtain ⟨file,rfl,hencode⟩ := save_saved hsave hsaved
  obtain ⟨_,⟨⟩,hload⟩ := hkept _ _ _ _ _ _ hsave hsaved
  have hbytes := ByteVector.ofBytes_eq_some_iff.mp hencode
  refine ⟨result,file,hsave,hload,htruncated _ _ 26 hencode (by decide) ?_,hchanged _ _ 24 9 hencode (by decide) ?_⟩
  · rw [hbytes]
    decide +kernel
  · rw [hbytes]
    exact ⟨1,by decide +kernel,by decide⟩

end Result

end SaveStateStore

end AytherRuntime.Storage
