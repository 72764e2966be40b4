import AytherRuntime.Library.Checked

/-! Where the parts of a recording stand: its fixed header, the lengths that follow it, and the layout that is
decoded from all of its bytes or from the first of them. -/
namespace AytherRuntime.Recording
open Codec Checked

section Source

def recordingFixedHeaderBytes : ℕ := 8
def oldestSupportedRecordingVersion : ℕ := 2
def currentRecordingVersion : ℕ := 10
def maxRecordingBytes : ℕ := 64 * 1024 * 1024
def maxRecordingStateBytes : ℕ := 64 * 1024 * 1024
def minRecordingFrames : ℕ := 1
def maxRecordingFrames : ℕ := 54000

inductive RecordingHeaderError
  | none | emptyTake | truncatedHeader | invalidMagic | unsupportedVersion
  deriving DecidableEq, Repr

structure RecordingHeader where
  version : ℕ := 0
  deriving DecidableEq, Repr

structure RecordingHeaderResult where
  error : RecordingHeaderError := .none
  header : RecordingHeader := {}
  deriving DecidableEq, Repr

structure RecordingByteRange where
  offset : ℕ := 0
  size : ℕ := 0
  deriving DecidableEq, Repr

structure RecordingLayout where
  header : RecordingHeader := {}
  gameId : RecordingByteRange := {}
  name : RecordingByteRange := {}
  frameCount : ℕ := 0
  rawStateBytes : ℕ := 0
  compressedState : RecordingByteRange := {}
  inputs : RecordingByteRange := {}
  deriving DecidableEq, Repr

inductive RecordingLayoutError
  | none | invalidHeader | takeTooLarge | truncatedContent | invalidFrameCount | emptyInitialState
  | initialStateTooLarge | emptyCompressedState
  deriving DecidableEq, Repr

structure RecordingLayoutResult where
  error : RecordingLayoutError := .none
  headerError : RecordingHeaderError := .none
  layout : RecordingLayout := {}
  deriving DecidableEq, Repr

/-- `has_bytes` -/
def hasBytes (offset count limit : ℕ) : Bool := offset ≤ limit && count ≤ limit - offset

/-- The letters `ARP1`. -/
def magic : Bytes := [0x41,0x52,0x50,0x31]

/-- A result, and the fields that were read for it by their places and widths. -/
abbrev Reading (α : Type) := α × List (ℕ × ℕ)

/-- A field is read before what follows. -/
def afterField {α : Type} (offset width : ℕ) (rest : Option (Reading α)) : Option (Reading α) :=
  rest.map fun p => (p.1,(offset,width) :: p.2)

/-- `decode_recording_header` -/
def decodeRecordingHeader (bytes : Bytes) : Option (Reading RecordingHeaderResult) :=
  if bytes = [] then some (⟨.emptyTake,{}⟩,[])
  else if bytes.length < recordingFixedHeaderBytes then some (⟨.truncatedHeader,{}⟩,[])
  else do
    let start ← slice bytes 0 4
    afterField 0 4 <|
      if start ≠ magic then some (⟨.invalidMagic,{}⟩,[])
      else do
        let version ← readAt bytes 4 4
        afterField 4 4 <|
          if version < oldestSupportedRecordingVersion ∨ currentRecordingVersion < version then
            some (⟨.unsupportedVersion,⟨version⟩⟩,[])
          else some (⟨.none,⟨version⟩⟩,[])

def refused (error : RecordingLayoutError) : Option (Reading RecordingLayoutResult) := some (⟨error,.none,{}⟩,[])

/-- `read_field`, and the end of the decoding where it fails. -/
def readField (headerBytes : Bytes) (totalBytes offset : ℕ) (next : ℕ → Option (Reading RecordingLayoutResult)) :
    Option (Reading RecordingLayoutResult) :=
  if !hasBytes offset 4 totalBytes || !hasBytes offset 4 headerBytes.length then refused .truncatedContent
  else do
    let value ← readAt headerBytes offset 4
    afterField offset 4 (next value)

/-- The check that a range is in the total and in the bytes at hand. -/
def withRange (headerBytes : Bytes) (totalBytes offset length : ℕ) (next : Option (Reading RecordingLayoutResult)) :
    Option (Reading RecordingLayoutResult) :=
  if !hasBytes offset length totalBytes || !hasBytes offset length headerBytes.length then
    refused .truncatedContent
  else next

/-- What is decided from the last three fields on. -/
def decodeCounts (header : RecordingHeader) (gameId name : RecordingByteRange)
    (totalBytes cursor frameCount rawStateBytes compressedStateBytes : ℕ) : Option (Reading RecordingLayoutResult) :=
  if frameCount < minRecordingFrames ∨ maxRecordingFrames < frameCount then refused .invalidFrameCount
  else if rawStateBytes = 0 then refused .emptyInitialState
  else if maxRecordingStateBytes < rawStateBytes then refused .initialStateTooLarge
  else if compressedStateBytes = 0 then refused .emptyCompressedState
  else if !hasBytes cursor compressedStateBytes totalBytes then refused .truncatedContent
  else do
    let inputsOffset ← add 64 cursor compressedStateBytes
    let inputBytes ← mul 64 frameCount 2
    if !hasBytes inputsOffset inputBytes totalBytes then refused .truncatedContent
    else
      some (⟨.none,.none,⟨header,gameId,name,frameCount,rawStateBytes,⟨cursor,compressedStateBytes⟩,
        ⟨inputsOffset,inputBytes⟩⟩⟩,[])

/-- What is decoded after the fixed header. -/
def decodeContent (header : RecordingHeader) (headerBytes : Bytes) (totalBytes : ℕ) :
    Option (Reading RecordingLayoutResult) :=
  let cursor := recordingFixedHeaderBytes
  readField headerBytes totalBytes cursor fun idLength => do
    let idOffset ← add 64 cursor 4
    withRange headerBytes totalBytes idOffset idLength do
      let cursor ← add 64 idOffset idLength
      readField headerBytes totalBytes cursor fun nameLength => do
        let nameOffset ← add 64 cursor 4
        withRange headerBytes totalBytes nameOffset nameLength do
          let cursor ← add 64 nameOffset nameLength
          readField headerBytes totalBytes cursor fun frameCount => do
            let rawOffset ← add 64 cursor 4
            readField headerBytes totalBytes rawOffset fun rawStateBytes => do
              let compressedOffset ← add 64 cursor (2 * 4)
              readField headerBytes totalBytes compressedOffset fun compressedStateBytes => do
                let cursor ← add 64 cursor (3 * 4)
                decodeCounts header ⟨idOffset,idLength⟩ ⟨nameOffset,nameLength⟩ totalBytes cursor frameCount
                  rawStateBytes compressedStateBytes

/-- `decode_recording_layout` of the first bytes of a recording and its size, with the fields it reads. -/
def decodeReading (headerBytes : Bytes) (totalBytes : ℕ) : Option (Reading RecordingLayoutResult) :=
  if maxRecordingBytes < totalBytes then refused .takeTooLarge
  else do
    let decoded ← decodeRecordingHeader headerBytes
    if decoded.1.error ≠ .none then some (⟨.invalidHeader,decoded.1.error,{}⟩,decoded.2)
    else do
      let result ← decodeContent decoded.1.header headerBytes totalBytes
      some (result.1,decoded.2 ++ result.2)

def decodeRecordingLayout (headerBytes : Bytes) (totalBytes : ℕ) : Option RecordingLayoutResult :=
  (decodeReading headerBytes totalBytes).map Prod.fst

/-- The fields that the decoding of a whole recording reads, by their places and widths. -/
def fieldsRead (recording : Bytes) : List (ℕ × ℕ) :=
  ((decodeReading recording recording.length).map Prod.snd).getD []

end Source

lemma hasBytes_iff {offset count limit : ℕ} : hasBytes offset count limit = true ↔ offset + count ≤ limit := by
  unfold hasBytes
  rw [Bool.and_eq_true,decide_eq_true_eq,decide_eq_true_eq]
  omega

section Accepted

/-- Where the parts of an accepted layout stand. -/
structure RecordingLayout.WellPlaced (layout : RecordingLayout) (headerSize totalBytes : ℕ) : Prop where
  version_le : oldestSupportedRecordingVersion ≤ layout.header.version ∧
    layout.header.version ≤ currentRecordingVersion
  gameId_offset : layout.gameId.offset = recordingFixedHeaderBytes + 4
  name_offset : layout.name.offset = layout.gameId.offset + layout.gameId.size + 4
  compressedState_offset : layout.compressedState.offset = layout.name.offset + layout.name.size + 3 * 4
  inputs_offset : layout.inputs.offset = layout.compressedState.offset + layout.compressedState.size
  inputs_size : layout.inputs.size = 2 * layout.frameCount
  fields_in_header : layout.compressedState.offset ≤ headerSize
  inputs_in_total : layout.inputs.offset + layout.inputs.size ≤ totalBytes
  total_le : totalBytes ≤ maxRecordingBytes
  frameCount_le : minRecordingFrames ≤ layout.frameCount ∧ layout.frameCount ≤ maxRecordingFrames
  rawStateBytes_le : 0 < layout.rawStateBytes ∧ layout.rawStateBytes ≤ maxRecordingStateBytes
  compressedState_size : 0 < layout.compressedState.size

/-- No read leaves the bytes, no sum or product wraps, an accepted layout is well placed and a refusal gives the
empty layout. -/
def Sound (headerSize totalBytes : ℕ) (decoded : Option (Reading RecordingLayoutResult)) : Prop :=
  ∃ result fields, decoded = some (result,fields) ∧
    (result.error = .none → result.layout.WellPlaced headerSize totalBytes) ∧
      (result.error ≠ .none → result.layout = {})

variable {headerBytes : Bytes} {totalBytes offset length : ℕ}

lemma sound_refused {headerSize : ℕ} {error : RecordingLayoutError} (h : error ≠ .none) :
    Sound headerSize totalBytes (refused error) := ⟨_,_,rfl,fun hnone => absurd hnone h,fun _ => rfl⟩

lemma Sound.after {headerSize width : ℕ} {rest : Option (Reading RecordingLayoutResult)}
    (h : Sound headerSize totalBytes rest) : Sound headerSize totalBytes (afterField offset width rest) := by
  obtain ⟨result,fields,rfl,hplaced⟩ := h
  exact ⟨result,(offset,width) :: fields,rfl,hplaced⟩

lemma Sound.of_add {headerSize a b : ℕ} {next : ℕ → Option (Reading RecordingLayoutResult)} (h : a + b < 2 ^ 64)
    (hnext : Sound headerSize totalBytes (next (a + b))) : Sound headerSize totalBytes (add 64 a b >>= next) := by
  rw [add_eq h]
  exact hnext

lemma sound_readField {headerSize : ℕ} {next : ℕ → Option (Reading RecordingLayoutResult)}
    (h : offset + 4 ≤ totalBytes → offset + 4 ≤ headerBytes.length →
      Sound headerSize totalBytes (next (field headerBytes offset 4))) :
    Sound headerSize totalBytes (readField headerBytes totalBytes offset next) := by
  unfold readField
  split_ifs with hfails
  · exact sound_refused (by simp)
  · rw [Bool.or_eq_true,not_or,Bool.not_eq_true',Bool.not_eq_true',Bool.not_eq_false,Bool.not_eq_false,
      hasBytes_iff,hasBytes_iff] at hfails
    rw [readAt_eq hfails.2]
    exact (h hfails.1 hfails.2).after

lemma sound_withRange {headerSize : ℕ} {next : Option (Reading RecordingLayoutResult)}
    (h : offset + length ≤ totalBytes → offset + length ≤ headerBytes.length → Sound headerSize totalBytes next) :
    Sound headerSize totalBytes (withRange headerBytes totalBytes offset length next) := by
  unfold withRange
  split_ifs with hfails
  · exact sound_refused (by simp)
  · rw [Bool.or_eq_true,not_or,Bool.not_eq_true',Bool.not_eq_true',Bool.not_eq_false,Bool.not_eq_false,
      hasBytes_iff,hasBytes_iff] at hfails
    exact h hfails.1 hfails.2

lemma sound_decodeCounts {header : RecordingHeader} {gameId name : RecordingByteRange}
    {headerSize cursor frameCount rawStateBytes compressedStateBytes : ℕ}
    (hversion : oldestSupportedRecordingVersion ≤ header.version ∧ header.version ≤ currentRecordingVersion)
    (hgameId : gameId.offset = recordingFixedHeaderBytes + 4)
    (hname : name.offset = gameId.offset + gameId.size + 4) (hcursor : cursor = name.offset + name.size + 3 * 4)
    (hheader : cursor ≤ headerSize) (htotal : totalBytes ≤ maxRecordingBytes) :
    Sound headerSize totalBytes (decodeCounts header gameId name totalBytes cursor frameCount rawStateBytes
      compressedStateBytes) := by
  unfold decodeCounts
  split_ifs with hframes hraw hlarge hempty hstate
  · exact sound_refused (by simp)
  · exact sound_refused (by simp)
  · exact sound_refused (by simp)
  · exact sound_refused (by simp)
  · exact sound_refused (by simp)
  rw [Bool.not_eq_true',Bool.not_eq_false,hasBytes_iff] at hstate
  rw [not_or,not_lt,not_lt] at hframes
  have hcount := hframes.2
  unfold maxRecordingFrames at hcount
  have hsize := htotal
  unfold maxRecordingBytes at hsize
  refine Sound.of_add (by omega) ?_
  rw [mul_eq (by omega),Option.bind_eq_bind,Option.bind_some]
  split_ifs with hinputs
  · exact sound_refused (by simp)
  rw [Bool.not_eq_true',Bool.not_eq_false,hasBytes_iff] at hinputs
  exact ⟨_,_,rfl,fun _ => ⟨hversion,hgameId,hname,hcursor,rfl,Nat.mul_comm _ _,hheader,hinputs,htotal,hframes,
    ⟨Nat.pos_of_ne_zero hraw,Nat.not_lt.mp hlarge⟩,Nat.pos_of_ne_zero hempty⟩,by simp⟩

lemma sound_decodeContent {header : RecordingHeader}
    (hversion : oldestSupportedRecordingVersion ≤ header.version ∧ header.version ≤ currentRecordingVersion)
    (htotal : totalBytes ≤ maxRecordingBytes) :
    Sound headerBytes.length totalBytes (decodeContent header headerBytes totalBytes) := by
  have hsize := htotal
  unfold maxRecordingBytes at hsize
  unfold decodeContent recordingFixedHeaderBytes
  refine sound_readField fun _ _ => Sound.of_add (by omega) ?_
  refine sound_withRange fun hid _ => Sound.of_add (by omega) ?_
  refine sound_readField fun hname _ => Sound.of_add (by omega) ?_
  refine sound_withRange fun hcontent _ => Sound.of_add (by omega) ?_
  refine sound_readField fun hframes _ => Sound.of_add (by omega) ?_
  refine sound_readField fun hraw _ => Sound.of_add (by omega) ?_
  refine sound_readField fun hcompressed hheader => Sound.of_add (by omega) ?_
  exact sound_decodeCounts hversion rfl rfl rfl (by omega) htotal

/-- The fixed header is decoded without a read outside, and accepted with its version when it is complete. -/
lemma decodeRecordingHeader_eq (bytes : Bytes) :
    ∃ result fields, decodeRecordingHeader bytes = some (result,fields) ∧ (result.error = .none →
      (oldestSupportedRecordingVersion ≤ result.header.version ∧
        result.header.version ≤ currentRecordingVersion) ∧ 8 ≤ bytes.length ∧ (4,4) ∈ fields) := by
  unfold decodeRecordingHeader recordingFixedHeaderBytes
  split_ifs with hempty hshort
  · exact ⟨_,_,rfl,by simp⟩
  · exact ⟨_,_,rfl,by simp⟩
  rw [slice_eq (by omega),Option.bind_eq_bind,Option.bind_some]
  split_ifs with hmagic
  · exact ⟨_,_,rfl,by simp⟩
  rw [readAt_eq (by omega),Option.bind_eq_bind,Option.bind_some]
  split_ifs with hversion
  · exact ⟨_,_,rfl,by simp⟩
  · rw [not_or,not_lt,not_lt] at hversion
    exact ⟨_,_,rfl,fun _ => ⟨hversion,Nat.not_lt.mp hshort,by simp⟩⟩

lemma sound_decodeReading (headerBytes : Bytes) (totalBytes : ℕ) :
    Sound headerBytes.length totalBytes (decodeReading headerBytes totalBytes) := by
  unfold decodeReading
  split_ifs with hlarge
  · exact sound_refused (by simp)
  obtain ⟨result,fields,hheader,haccepted⟩ := decodeRecordingHeader_eq headerBytes
  rw [hheader,Option.bind_eq_bind,Option.bind_some]
  dsimp only
  split_ifs with herror
  · exact ⟨_,_,rfl,by simp,fun _ => rfl⟩
  · obtain ⟨hversion,-,-⟩ := haccepted (not_not.mp herror)
    have hsound : Sound headerBytes.length totalBytes (decodeContent result.header headerBytes totalBytes) :=
      sound_decodeContent hversion (Nat.not_lt.mp hlarge)
    obtain ⟨content,contentFields,hcontent,hplaced⟩ := hsound
    rw [hcontent,Option.bind_eq_bind,Option.bind_some]
    exact ⟨_,_,rfl,hplaced⟩

/-- What a decoding answers, whether it accepts or refuses. -/
lemma decodeRecordingLayout_spec {result : RecordingLayoutResult}
    (h : decodeRecordingLayout headerBytes totalBytes = some result) :
    (result.error = .none → result.layout.WellPlaced headerBytes.length totalBytes) ∧
      (result.error ≠ .none → result.layout = {}) := by
  obtain ⟨sound,fields,hdecode,hspec⟩ := sound_decodeReading headerBytes totalBytes
  unfold decodeRecordingLayout at h
  rw [hdecode] at h
  cases h
  exact hspec

end Accepted

section Cut
variable {recording : Bytes} {count offset length : ℕ}

/-- A decoding of the first bytes is the one of the whole, or has ended at a field that the whole reads beyond. -/
def Agrees (count : ℕ) (cut whole : Option (Reading RecordingLayoutResult)) : Prop :=
  cut = whole ∨ (∃ fields, cut = some (⟨.truncatedContent,.none,{}⟩,fields)) ∧
    ∀ result fields, whole = some (result,fields) → ∃ place ∈ fields, count < place.1 + place.2

lemma Agrees.after {width : ℕ} {cut whole : Option (Reading RecordingLayoutResult)} (h : Agrees count cut whole) :
    Agrees count (afterField offset width cut) (afterField offset width whole) := by
  rcases h with rfl | ⟨⟨fields,rfl⟩,hbeyond⟩
  · exact .inl rfl
  · refine .inr ⟨⟨_,rfl⟩,fun result fields hwhole => ?_⟩
    obtain ⟨⟨inner,innerFields⟩,hinner,hafter⟩ := Option.map_eq_some_iff.mp hwhole
    obtain ⟨rfl,rfl⟩ := Prod.mk.inj hafter
    obtain ⟨place,hplace,hlt⟩ := hbeyond _ _ hinner
    exact ⟨place,List.mem_cons_of_mem _ hplace,hlt⟩

lemma Agrees.of_add {a b : ℕ} {cut whole : ℕ → Option (Reading RecordingLayoutResult)}
    (h : Agrees count (cut (a + b)) (whole (a + b))) :
    Agrees count (add 64 a b >>= cut) (add 64 a b >>= whole) := by
  unfold add
  split_ifs
  · exact h
  · exact .inl rfl

lemma readField_refused {headerBytes : Bytes} {totalBytes : ℕ} {next : ℕ → Option (Reading RecordingLayoutResult)}
    (h : ¬(offset + 4 ≤ totalBytes ∧ offset + 4 ≤ headerBytes.length)) :
    readField headerBytes totalBytes offset next = refused .truncatedContent := by
  unfold readField
  rw [if_pos]
  rw [Bool.or_eq_true,Bool.not_eq_true',Bool.not_eq_true',← Bool.not_eq_true,← Bool.not_eq_true,hasBytes_iff,
    hasBytes_iff]
  exact not_and_or.mp h

lemma readField_reads {headerBytes : Bytes} {totalBytes : ℕ} {next : ℕ → Option (Reading RecordingLayoutResult)}
    (htotal : offset + 4 ≤ totalBytes) (hheader : offset + 4 ≤ headerBytes.length) :
    readField headerBytes totalBytes offset next = afterField offset 4 (next (field headerBytes offset 4)) := by
  unfold readField
  rw [if_neg,readAt_eq hheader]
  · rfl
  · rw [hasBytes_iff.mpr htotal,hasBytes_iff.mpr hheader]
    simp

lemma agrees_readField {cut whole : ℕ → Option (Reading RecordingLayoutResult)}
    (h : ∀ value, Agrees count (cut value) (whole value)) :
    Agrees count (readField (recording.take count) recording.length offset cut)
      (readField recording recording.length offset whole) := by
  by_cases hwhole : offset + 4 ≤ recording.length
  · rw [readField_reads hwhole hwhole]
    by_cases hcut : offset + 4 ≤ count
    · rw [readField_reads hwhole (by rw [List.length_take]; omega),field_take hcut]
      exact (h _).after
    · rw [readField_refused (by rw [List.length_take]; omega)]
      refine .inr ⟨⟨_,rfl⟩,fun result fields hread => ?_⟩
      obtain ⟨inner,-,hafter⟩ := Option.map_eq_some_iff.mp hread
      obtain ⟨rfl,rfl⟩ := Prod.mk.inj hafter
      exact ⟨(offset,4),List.mem_cons_self,Nat.lt_of_not_le hcut⟩
  · rw [readField_refused fun hfits => hwhole hfits.1,readField_refused fun hfits => hwhole hfits.1]
    exact .inl rfl

lemma withRange_eq {headerBytes : Bytes} {totalBytes : ℕ} {next : Option (Reading RecordingLayoutResult)} :
    withRange headerBytes totalBytes offset length next =
      if offset + length ≤ totalBytes ∧ offset + length ≤ headerBytes.length then next
      else refused .truncatedContent := by
  unfold withRange
  rw [← ite_not]
  refine if_congr ?_ rfl rfl
  rw [Bool.or_eq_true,Bool.not_eq_true',Bool.not_eq_true',← Bool.not_eq_true,← Bool.not_eq_true,hasBytes_iff,
    hasBytes_iff,not_or,not_not,not_not]

/-- A range is not read, but the field that follows it is. -/
lemma agrees_withRange {cut whole : ℕ → ℕ → Option (Reading RecordingLayoutResult)}
    (h : ∀ cursor value, Agrees count (cut cursor value) (whole cursor value)) :
    Agrees count
      (withRange (recording.take count) recording.length offset length do
        let cursor ← add 64 offset length
        readField (recording.take count) recording.length cursor (cut cursor))
      (withRange recording recording.length offset length do
        let cursor ← add 64 offset length
        readField recording recording.length cursor (whole cursor)) := by
  rw [withRange_eq,withRange_eq]
  by_cases hwhole : offset + length ≤ recording.length
  · rw [if_pos (And.intro hwhole hwhole)]
    by_cases hcut : offset + length ≤ (recording.take count).length
    · rw [if_pos ⟨hwhole,hcut⟩]
      exact Agrees.of_add (agrees_readField (h _))
    · rw [if_neg fun hfits => hcut hfits.2]
      rw [List.length_take] at hcut
      unfold add
      split_ifs with hwrap
      · dsimp only [Option.bind_eq_bind,Option.bind_some]
        by_cases hfield : offset + length + 4 ≤ recording.length
        · rw [readField_reads hfield hfield]
          refine .inr ⟨⟨_,rfl⟩,fun result fields hread => ?_⟩
          obtain ⟨inner,-,hafter⟩ := Option.map_eq_some_iff.mp hread
          obtain ⟨rfl,rfl⟩ := Prod.mk.inj hafter
          refine ⟨(offset + length,4),List.mem_cons_self,?_⟩
          dsimp only
          omega
        · rw [readField_refused fun hfits => hfield hfits.1]
          exact .inl rfl
      · exact .inr ⟨⟨_,rfl⟩,fun result fields hnone => absurd hnone (by simp)⟩
  · rw [if_neg fun hfits => hwhole hfits.1,if_neg fun hfits => hwhole hfits.1]
    exact .inl rfl

lemma agrees_decodeContent (recording : Bytes) (count : ℕ) (header : RecordingHeader) : Agrees count
    (decodeContent header (recording.take count) recording.length)
    (decodeContent header recording recording.length) := by
  unfold decodeContent recordingFixedHeaderBytes
  refine agrees_readField fun idLength => Agrees.of_add ?_
  refine agrees_withRange fun cursor nameLength => Agrees.of_add ?_
  refine agrees_withRange fun cursor frameCount => Agrees.of_add ?_
  refine agrees_readField fun rawStateBytes => Agrees.of_add ?_
  exact agrees_readField fun compressedStateBytes => .inl rfl

lemma decodeRecordingHeader_take (h : min 8 recording.length ≤ count) :
    decodeRecordingHeader (recording.take count) = decodeRecordingHeader recording := by
  by_cases hall : recording.length ≤ count
  · rw [List.take_of_length_le hall]
  have hcount : 8 ≤ count := by omega
  unfold decodeRecordingHeader recordingFixedHeaderBytes
  have hcutEmpty : recording.take count ≠ [] := List.ne_nil_of_length_pos (by rw [List.length_take]; omega)
  have hwholeEmpty : recording ≠ [] := List.ne_nil_of_length_pos (by omega)
  rw [if_neg hcutEmpty,if_neg hwholeEmpty,if_neg (by rw [List.length_take]; omega),if_neg (by omega),
    slice_take (by omega),readAt_take (by omega)]

/-- Fewer bytes than the fixed header has are refused. -/
lemma decodeRecordingHeader_short {bytes : Bytes} (h : bytes.length < 8) :
    ∃ result, decodeRecordingHeader bytes = some (result,[]) ∧ result.error ≠ .none := by
  unfold decodeRecordingHeader recordingFixedHeaderBytes
  split_ifs with hempty
  · exact ⟨_,rfl,by simp⟩
  · exact ⟨_,rfl,by simp⟩

/-- How the decoding of the first bytes with the size of the whole relates to the one of all bytes. -/
inductive CutResult (recording : Bytes) (count : ℕ) : RecordingLayoutResult → RecordingLayoutResult → Prop
  | same (result) : CutResult recording count result result
  | truncated {result} (beyond : ∃ place ∈ fieldsRead recording, count < place.1 + place.2) :
      CutResult recording count ⟨.truncatedContent,.none,{}⟩ result
  | header {cutError wholeError} (short : count < min 8 recording.length) :
      CutResult recording count ⟨.invalidHeader,cutError,{}⟩ ⟨.invalidHeader,wholeError,{}⟩
  | headerField {cutError result} (beyond : ∃ place ∈ fieldsRead recording, count < place.1 + place.2) :
      CutResult recording count ⟨.invalidHeader,cutError,{}⟩ result

lemma fieldsRead_eq {result : RecordingLayoutResult} {fields : List (ℕ × ℕ)}
    (h : decodeReading recording recording.length = some (result,fields)) : fieldsRead recording = fields := by
  unfold fieldsRead
  rw [h]
  rfl

lemma decodeReading_of_header {headerBytes : Bytes} {totalBytes : ℕ} {decoded : Reading RecordingHeaderResult}
    (hsize : totalBytes ≤ maxRecordingBytes) (h : decodeRecordingHeader headerBytes = some decoded) :
    decodeReading headerBytes totalBytes =
      if decoded.1.error ≠ .none then some (⟨.invalidHeader,decoded.1.error,{}⟩,decoded.2)
      else (decodeContent decoded.1.header headerBytes totalBytes).bind fun result =>
        some (result.1,decoded.2 ++ result.2) := by
  unfold decodeReading
  rw [if_neg (Nat.not_lt.mpr hsize),h]
  rfl

lemma cutResult_of_decoded {cut whole : RecordingLayoutResult}
    (hcutDecoded : decodeRecordingLayout (recording.take count) recording.length = some cut)
    (hwholeDecoded : decodeRecordingLayout recording recording.length = some whole) :
    CutResult recording count cut whole := by
  obtain ⟨⟨cut,cutFields⟩,hcut,rfl⟩ := Option.map_eq_some_iff.mp hcutDecoded
  obtain ⟨⟨whole,fields⟩,hwhole,rfl⟩ := Option.map_eq_some_iff.mp hwholeDecoded
  dsimp only
  have hfields := fieldsRead_eq hwhole
  by_cases hsize : maxRecordingBytes < recording.length
  · unfold decodeReading at hcut hwhole
    rw [if_pos hsize] at hcut hwhole
    cases hcut
    cases hwhole
    exact .same _
  have hsize := Nat.not_lt.mp hsize
  obtain ⟨header,headerFields,hheader,haccepted⟩ := decodeRecordingHeader_eq recording
  rw [decodeReading_of_header hsize hheader] at hwhole
  dsimp only at hwhole
  by_cases hcount : min 8 recording.length ≤ count
  · rw [decodeReading_of_header hsize ((decodeRecordingHeader_take hcount).trans hheader)] at hcut
    dsimp only at hcut
    by_cases herror : header.error ≠ .none
    · rw [if_pos herror] at hcut hwhole
      cases hcut
      cases hwhole
      exact .same _
    rw [if_neg herror] at hcut hwhole
    rcases agrees_decodeContent recording count header.header with hsame | ⟨⟨contentFields,htruncated⟩,hbeyond⟩
    · rw [hsame,hwhole] at hcut
      cases hcut
      exact .same _
    · rw [htruncated] at hcut
      cases hcut
      obtain ⟨content,hcontent,hresult⟩ := Option.bind_eq_some_iff.mp hwhole
      obtain ⟨place,hplace,hlt⟩ := hbeyond _ _ hcontent
      refine .truncated ⟨place,?_,hlt⟩
      cases hresult
      rw [hfields]
      exact List.mem_append_right _ hplace
  · rw [not_le] at hcount
    have hfew : (recording.take count).length < 8 := by
      rw [List.length_take]
      omega
    obtain ⟨short,hshort,hrefused⟩ := decodeRecordingHeader_short hfew
    rw [decodeReading_of_header hsize hshort,if_pos hrefused] at hcut
    cases hcut
    by_cases herror : header.error ≠ .none
    · rw [if_pos herror] at hwhole
      cases hwhole
      exact .header hcount
    · rw [if_neg herror] at hwhole
      obtain ⟨content,-,hresult⟩ := Option.bind_eq_some_iff.mp hwhole
      refine .headerField ⟨(4,4),?_,by dsimp only; omega⟩
      cases hresult
      rw [hfields]
      exact List.mem_append_left _ (haccepted (not_not.mp herror)).2.2

/-- Nothing is read outside the bytes and nothing wraps; an accepted layout is well placed; the first bytes of a
recording with its size are never accepted with another result than all of them; and they give the same error and
the same layout when they hold the fields that the whole decoding reads, and with the fixed header, or all of a
shorter recording, also the same error of the header. -/
theorem decodeRecordingLayout_placed_and_stable :
    (∀ headerBytes totalBytes, ∃ result, decodeRecordingLayout headerBytes totalBytes = some result ∧
      (result.error = .none → result.layout.WellPlaced headerBytes.length totalBytes)) ∧
    ∀ recording count cut whole,
      decodeRecordingLayout (recording.take count) recording.length = some cut →
      decodeRecordingLayout recording recording.length = some whole →
        (cut.error = .none → cut = whole) ∧
        ((∀ place ∈ fieldsRead recording, place.1 + place.2 ≤ count) →
          (cut.error = whole.error ∧ cut.layout = whole.layout) ∧
            (min recordingFixedHeaderBytes recording.length ≤ count → cut = whole)) := by
  constructor
  · intro headerBytes totalBytes
    obtain ⟨result,fields,hdecode,hplaced,-⟩ := sound_decodeReading headerBytes totalBytes
    refine ⟨result,?_,hplaced⟩
    unfold decodeRecordingLayout
    rw [hdecode]
    rfl
  · intro recording count cut whole hcut hwhole
    cases cutResult_of_decoded hcut hwhole with
    | same => exact ⟨fun _ => rfl,fun _ => ⟨⟨rfl,rfl⟩,fun _ => rfl⟩⟩
    | header short => exact ⟨by simp,fun _ => ⟨⟨rfl,rfl⟩,fun hheader => absurd hheader (Nat.not_le.mpr short)⟩⟩
    | truncated beyond | headerField beyond =>
      obtain ⟨place,hplace,hlt⟩ := beyond
      exact ⟨by simp,fun hfields => absurd (hfields place hplace) (Nat.not_le.mpr hlt)⟩

/-- Eight bytes without the letters are refused for them, and the first four of them for their number. -/
theorem short_cut_other_header_error :
    let recording : Bytes := List.replicate 8 0
    (∀ place ∈ fieldsRead recording, place.1 + place.2 ≤ 4) ∧
      decodeRecordingLayout (recording.take 4) recording.length ≠
        decodeRecordingLayout recording recording.length := by
  decide

end Cut

end AytherRuntime.Recording
