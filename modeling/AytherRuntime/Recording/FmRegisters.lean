import AytherRuntime.Fact.RoundTrip
import AytherRuntime.Library.Walks
import AytherRuntime.Recording.Layout

/-! The shadow of the FM registers at the end of a recording, behind all the sections that its version has. -/
namespace AytherRuntime.Recording
open Codec Walks

section Source

def recordingFmRegistersVersion : ℕ := 9
def recordingFmRegisterBytes : ℕ := 0x200
def takeIdRecordingVersion : ℕ := 10
def takeIdBytes : ℕ := 8

inductive RecordingFmRegistersError
  | none | invalidLayout | truncatedContent | invalidSection | invalidSize | trailingContent
  deriving DecidableEq, Repr

structure RecordingFmRegistersResult where
  error : RecordingFmRegistersError := .none
  registers : Bytes := []
  deriving DecidableEq, Repr

abbrev TailWalk (α : Type) := Walk RecordingFmRegistersError α

/-- `read_u32` of the cursor, and the end of the decoding where it fails. -/
def readU32 (recording : Bytes) : TailWalk ℕ := number recording .truncatedContent 4

/-- `skip` of the cursor, and the end of the decoding where it fails. -/
def skipBytes (recording : Bytes) (count : ℕ) : TailWalk Unit := skip recording .truncatedContent count

/-- `skip_hash_history` -/
def skipHashHistory (recording : Bytes) (frames : ℕ) : TailWalk Unit := do
  let total ← readU32 recording
  let hashBytes ← computed (Checked.mul 64 total 8)
  skipBytes recording hashBytes
  let countBytes ← computed (Checked.mul 64 frames 4)
  skipBytes recording countBytes

/-- One turn of the loop over the keyframes. -/
def skipKeyframe (recording : Bytes) (frames : ℕ) : TailWalk Unit := do
  let frame ← readU32 recording
  let rawSize ← readU32 recording
  let compressedSize ← readU32 recording
  if frames < frame ∨ rawSize = 0 then stop .invalidSection
  else skipBytes recording compressedSize

/-- The place of the shadow, which is there and is skipped. -/
def markShadow (recording : Bytes) (size : ℕ) : TailWalk ℕ := do
  require recording .truncatedContent size
  let start ← place
  skip recording .truncatedContent size
  pure start

def skipTakeId (recording : Bytes) (version : ℕ) : TailWalk Unit :=
  if takeIdRecordingVersion ≤ version then skipBytes recording takeIdBytes else pure ()

/-- The end of the recording, and the copy of the shadow from its place. -/
def finish (recording : Bytes) (start size : ℕ) : TailWalk Bytes := do
  let offset ← place
  if offset ≠ recording.length then stop .trailingContent
  else computed (Checked.slice recording start size)

/-- The walk of the cursor over the sections behind the inputs, to the place and the size of the shadow. -/
def walkSections (recording : Bytes) (version frames : ℕ) : TailWalk (ℕ × ℕ) := do
  skipBytes recording 8
  let statBytes ← computed (Checked.mul 64 frames 12)
  skipBytes recording statBytes
  skipHashHistory recording frames
  let keyframeCount ← readU32 recording
  let most ← computed (Checked.add 32 frames 1)
  if most < keyframeCount then stop .invalidSection
  else do
    walkMany (skipKeyframe recording frames) keyframeCount
    skipHashHistory recording frames
    skipBytes recording 4
    let size ← readU32 recording
    if size ≠ 0 ∧ size ≠ recordingFmRegisterBytes then stop .invalidSize
    else do
      let start ← markShadow recording size
      skipTakeId recording version
      pure (start,size)

/-- The walk to the end, and the shadow. -/
def walkTail (recording : Bytes) (version frames : ℕ) : TailWalk Bytes := do
  let shadow ← walkSections recording version frames
  finish recording shadow.1 shadow.2

/-- `decode_recording_fm_registers` -/
def decodeRecordingFmRegisters (recording : Bytes) (layout : RecordingLayout) :
    Option RecordingFmRegistersResult :=
  if layout.header.version < recordingFmRegistersVersion then some {}
  else if recording.length < layout.inputs.offset ∨ recording.length - layout.inputs.offset < layout.inputs.size then
    some { error := .invalidLayout }
  else do
    let offset ← Checked.add 64 layout.inputs.offset layout.inputs.size
    let walked ← walkTail recording layout.header.version layout.frameCount offset
    match walked with
    | .error error => some { error }
    | .ok (registers,_) => some { registers }

end Source

section Grammar

/-- A number of hashes, the hashes of eight bytes and a count of four bytes per frame. -/
structure HashHistory where
  total : ℕ
  hashes : Bytes
  counts : Bytes
  deriving DecidableEq, Repr

structure Keyframe where
  frame : ℕ
  rawSize : ℕ
  state : Bytes
  deriving DecidableEq, Repr

/-- What follows the inputs of a recording. -/
structure RecordingTail where
  trimMarks : Bytes
  frameStats : Bytes
  spriteHistory : HashHistory
  keyframes : List Keyframe
  audioHistory : HashHistory
  algorithm : Bytes
  shadow : Bytes
  takeId : Bytes
  deriving DecidableEq, Repr

def HashHistory.write (history : HashHistory) : Bytes :=
  writeLe 4 history.total ++ (history.hashes ++ history.counts)

def Keyframe.write (keyframe : Keyframe) : Bytes :=
  writeLe 4 keyframe.frame ++ (writeLe 4 keyframe.rawSize ++ writeText keyframe.state)

def RecordingTail.write (tail : RecordingTail) : Bytes :=
  tail.trimMarks ++ (tail.frameStats ++ (tail.spriteHistory.write ++
    (Binary.writeList Keyframe.write tail.keyframes ++ (tail.audioHistory.write ++
      (tail.algorithm ++ (writeText tail.shadow ++ tail.takeId))))))

structure HashHistory.Valid (frames : ℕ) (history : HashHistory) : Prop where
  total_lt : history.total < 2 ^ 32
  hashes_length : history.hashes.length = history.total * 8
  counts_length : history.counts.length = frames * 4

structure Keyframe.Valid (frames : ℕ) (keyframe : Keyframe) : Prop where
  frame_le : keyframe.frame ≤ frames
  rawSize_pos : keyframe.rawSize ≠ 0
  frame_lt : keyframe.frame < 2 ^ 32
  rawSize_lt : keyframe.rawSize < 2 ^ 32
  state_lt : keyframe.state.length < 2 ^ 32

structure RecordingTail.Valid (version frames : ℕ) (tail : RecordingTail) : Prop where
  trimMarks_length : tail.trimMarks.length = 8
  frameStats_length : tail.frameStats.length = frames * 12
  spriteHistory_valid : tail.spriteHistory.Valid frames
  keyframes_length : tail.keyframes.length ≤ frames + 1
  keyframes_valid : ∀ keyframe ∈ tail.keyframes, keyframe.Valid frames
  audioHistory_valid : tail.audioHistory.Valid frames
  algorithm_length : tail.algorithm.length = 4
  shadow_length : tail.shadow.length = 0 ∨ tail.shadow.length = recordingFmRegisterBytes
  takeId_length : tail.takeId.length = if takeIdRecordingVersion ≤ version then takeIdBytes else 0

def readHistory (frames : ℕ) : Reader HashHistory := do
  let total ← readLe 4
  let hashes ← take (total * 8)
  let counts ← take (frames * 4)
  pure ⟨total,hashes,counts⟩

def readKeyframe (frames : ℕ) : Reader Keyframe := do
  let frame ← readLe 4
  let rawSize ← readLe 4
  let size ← readLe 4
  if frame ≤ frames ∧ rawSize ≠ 0 then do
    let state ← take size
    pure ⟨frame,rawSize,state⟩
  else failure

def readTail (version frames : ℕ) : Reader RecordingTail := do
  let trimMarks ← take 8
  let frameStats ← take (frames * 12)
  let spriteHistory ← readHistory frames
  let keyframes ← Binary.readList (frames + 1) (readKeyframe frames)
  let audioHistory ← readHistory frames
  let algorithm ← take 4
  let size ← readLe 4
  if size = 0 ∨ size = recordingFmRegisterBytes then do
    let shadow ← take size
    let takeId ← take (if takeIdRecordingVersion ≤ version then takeIdBytes else 0)
    pure ⟨trimMarks,frameStats,spriteHistory,keyframes,audioHistory,algorithm,shadow,takeId⟩
  else failure

lemma codes_history (frames : ℕ) :
    Codes (readHistory frames) HashHistory.write (HashHistory.Valid frames) := by
  intro bytes history rest
  unfold readHistory HashHistory.write
  constructor
  · intro h
    obtain ⟨total,_,htotal,h⟩ := bind_eq_some.mp h
    obtain ⟨hashes,_,hhashes,h⟩ := bind_eq_some.mp h
    obtain ⟨counts,_,hcounts,h⟩ := bind_eq_some.mp h
    obtain ⟨rfl,rfl⟩ := pure_eq_some.mp h
    obtain ⟨hlt,rfl⟩ := (codes_le 4 _ _ _).mp htotal
    obtain ⟨hhashesLength,rfl⟩ := (codes_take _ _ _ _).mp hhashes
    obtain ⟨hcountsLength,rfl⟩ := (codes_take _ _ _ _).mp hcounts
    exact ⟨⟨by simpa using hlt,hhashesLength,hcountsLength⟩,by simp⟩
  · rintro ⟨hvalid,rfl⟩
    rw [List.append_assoc,List.append_assoc]
    exact bind_eq_some.mpr ⟨_,_,(codes_le 4).read_write (by simpa using hvalid.total_lt) _,
      bind_eq_some.mpr ⟨_,_,(codes_take _).read_write hvalid.hashes_length _,
        bind_eq_some.mpr ⟨_,_,(codes_take _).read_write hvalid.counts_length _,pure_eq_some.mpr ⟨rfl,rfl⟩⟩⟩⟩

lemma codes_keyframe (frames : ℕ) : Codes (readKeyframe frames) Keyframe.write (Keyframe.Valid frames) := by
  intro bytes keyframe rest
  unfold readKeyframe Keyframe.write writeText
  constructor
  · intro h
    obtain ⟨frame,_,hframe,h⟩ := bind_eq_some.mp h
    obtain ⟨rawSize,_,hrawSize,h⟩ := bind_eq_some.mp h
    obtain ⟨size,_,hsize,h⟩ := bind_eq_some.mp h
    obtain ⟨⟨hle,hpos⟩,h⟩ := guard_eq_some.mp h
    obtain ⟨state,_,hstate,h⟩ := bind_eq_some.mp h
    obtain ⟨rfl,rfl⟩ := pure_eq_some.mp h
    obtain ⟨hframeLt,rfl⟩ := (codes_le 4 _ _ _).mp hframe
    obtain ⟨hrawLt,rfl⟩ := (codes_le 4 _ _ _).mp hrawSize
    obtain ⟨hsizeLt,rfl⟩ := (codes_le 4 _ _ _).mp hsize
    obtain ⟨rfl,rfl⟩ := (codes_take _ _ _ _).mp hstate
    exact ⟨⟨hle,hpos,by simpa using hframeLt,by simpa using hrawLt,by simpa using hsizeLt⟩,by simp⟩
  · rintro ⟨hvalid,rfl⟩
    rw [List.append_assoc,List.append_assoc,List.append_assoc]
    exact bind_eq_some.mpr ⟨_,_,(codes_le 4).read_write (by simpa using hvalid.frame_lt) _,
      bind_eq_some.mpr ⟨_,_,(codes_le 4).read_write (by simpa using hvalid.rawSize_lt) _,
        bind_eq_some.mpr ⟨_,_,(codes_le 4).read_write (by simpa using hvalid.state_lt) _,
          guard_eq_some.mpr ⟨⟨hvalid.frame_le,hvalid.rawSize_pos⟩,
            bind_eq_some.mpr ⟨_,_,(codes_take _).read_write rfl _,pure_eq_some.mpr ⟨rfl,rfl⟩⟩⟩⟩⟩⟩

/-- The reader of the tail accepts the valid tails, each as it is written. -/
lemma codes_tail {version frames : ℕ} (hframes : frames + 1 < 2 ^ 32) :
    Codes (readTail version frames) RecordingTail.write (RecordingTail.Valid version frames) := by
  have hkeyframes := Binary.codes_list (codes_keyframe frames) hframes
  intro bytes tail rest
  unfold readTail RecordingTail.write writeText
  constructor
  · intro h
    obtain ⟨trimMarks,_,htrim,h⟩ := bind_eq_some.mp h
    obtain ⟨frameStats,_,hstats,h⟩ := bind_eq_some.mp h
    obtain ⟨spriteHistory,_,hsprites,h⟩ := bind_eq_some.mp h
    obtain ⟨keyframes,_,hlist,h⟩ := bind_eq_some.mp h
    obtain ⟨audioHistory,_,haudio,h⟩ := bind_eq_some.mp h
    obtain ⟨algorithm,_,halgorithm,h⟩ := bind_eq_some.mp h
    obtain ⟨size,_,hsize,h⟩ := bind_eq_some.mp h
    obtain ⟨hallowed,h⟩ := guard_eq_some.mp h
    obtain ⟨shadow,_,hshadow,h⟩ := bind_eq_some.mp h
    obtain ⟨takeId,_,htakeId,h⟩ := bind_eq_some.mp h
    obtain ⟨rfl,rfl⟩ := pure_eq_some.mp h
    obtain ⟨htrimLength,rfl⟩ := (codes_take _ _ _ _).mp htrim
    obtain ⟨hstatsLength,rfl⟩ := (codes_take _ _ _ _).mp hstats
    obtain ⟨hspritesValid,rfl⟩ := (codes_history _ _ _ _).mp hsprites
    obtain ⟨⟨hcount,hlistValid⟩,rfl⟩ := (hkeyframes _ _ _).mp hlist
    obtain ⟨haudioValid,rfl⟩ := (codes_history _ _ _ _).mp haudio
    obtain ⟨halgorithmLength,rfl⟩ := (codes_take _ _ _ _).mp halgorithm
    obtain ⟨-,rfl⟩ := (codes_le 4 _ _ _).mp hsize
    obtain ⟨rfl,rfl⟩ := (codes_take _ _ _ _).mp hshadow
    obtain ⟨htakeIdLength,rfl⟩ := (codes_take _ _ _ _).mp htakeId
    exact ⟨⟨htrimLength,hstatsLength,hspritesValid,hcount,hlistValid,haudioValid,halgorithmLength,hallowed,
      htakeIdLength⟩,by simp⟩
  · rintro ⟨hvalid,rfl⟩
    have hshadow : tail.shadow.length < 2 ^ 32 := by
      have := hvalid.shadow_length
      unfold recordingFmRegisterBytes at this
      omega
    simp only [List.append_assoc]
    exact bind_eq_some.mpr ⟨_,_,(codes_take _).read_write hvalid.trimMarks_length _,
      bind_eq_some.mpr ⟨_,_,(codes_take _).read_write hvalid.frameStats_length _,
        bind_eq_some.mpr ⟨_,_,(codes_history _).read_write hvalid.spriteHistory_valid _,
          bind_eq_some.mpr ⟨_,_,hkeyframes.read_write ⟨hvalid.keyframes_length,hvalid.keyframes_valid⟩ _,
            bind_eq_some.mpr ⟨_,_,(codes_history _).read_write hvalid.audioHistory_valid _,
              bind_eq_some.mpr ⟨_,_,(codes_take _).read_write hvalid.algorithm_length _,
                bind_eq_some.mpr ⟨_,_,(codes_le 4).read_write (by simpa using hshadow) _,
                  guard_eq_some.mpr ⟨hvalid.shadow_length,
                    bind_eq_some.mpr ⟨_,_,(codes_take _).read_write rfl _,
                      bind_eq_some.mpr ⟨_,_,(codes_take _).read_write hvalid.takeId_length _,
                        pure_eq_some.mpr ⟨rfl,rfl⟩⟩⟩⟩⟩⟩⟩⟩⟩⟩⟩

end Grammar

section Refinement
variable {recording : Bytes} {version frames : ℕ}

lemma follows_history (hbytes : recording.length < 2 ^ 64) (hframes : frames ≤ maxRecordingFrames) :
    Follows recording (· ≠ .none) (skipHashHistory recording frames) (readHistory frames) fun _ _ => True := by
  unfold maxRecordingFrames at hframes
  unfold skipHashHistory readHistory
  refine (follows_number hbytes (by simp)).bind ?_
  rintro _ total ⟨rfl,htotal⟩
  refine Follows.computed (Checked.mul_eq (by omega)) ?_
  refine (follows_skip hbytes (by simp)).bind fun hashes _ _ => ?_
  refine Follows.computed (Checked.mul_eq (by omega)) ?_
  exact (follows_skip hbytes (by simp)).readMap fun _ _ _ => trivial

lemma follows_keyframe (hbytes : recording.length < 2 ^ 64) :
    Follows recording (· ≠ .none) (skipKeyframe recording frames) (readKeyframe frames) fun _ _ => True := by
  unfold skipKeyframe readKeyframe
  refine (follows_number hbytes (by simp)).bind ?_
  rintro _ frame ⟨rfl,-⟩
  refine (follows_number hbytes (by simp)).bind ?_
  rintro _ rawSize ⟨rfl,-⟩
  refine (follows_number hbytes (by simp)).bind ?_
  rintro _ size ⟨rfl,-⟩
  by_cases hbad : frames < frame ∨ rawSize = 0
  · rw [if_pos hbad,if_neg (by omega)]
    exact follows_stop (by simp)
  · rw [if_neg hbad,if_pos (by omega)]
    exact (follows_skip hbytes (by simp)).readMap fun _ _ _ => trivial

/-- The take id is skipped where the version has one. -/
lemma follows_takeId (hbytes : recording.length < 2 ^ 64) :
    Follows recording (· ≠ .none) (skipTakeId recording version)
      (take (if takeIdRecordingVersion ≤ version then takeIdBytes else 0)) fun _ _ => True := by
  unfold skipTakeId
  split_ifs
  · exact follows_skip hbytes (by simp)
  · intro offset hoffset
    unfold take
    rw [if_pos (Nat.zero_le _)]
    refine ⟨?_,by simp⟩
    rintro b rest ⟨⟩
    exact ⟨(),offset,rfl,hoffset,List.drop_zero,trivial⟩

/-- The reader of what is left, which has to be nothing. -/
def readEnd : Reader Unit := fun bytes => if bytes = [] then some ((),[]) else none

lemma follows_finish {start size : ℕ} {shadow : Bytes} (h : Checked.slice recording start size = some shadow) :
    Follows recording (· ≠ .none) (finish recording start size) (readEnd >>= fun _ => pure shadow)
      fun expected registers => registers = expected := by
  intro offset hoffset
  unfold finish
  have hplace : (place : TailWalk ℕ) offset = some (.ok (offset,offset)) := rfl
  rw [bind_ok hplace]
  by_cases hend : offset = recording.length
  · have hnothing : recording.drop offset = [] := List.drop_of_length_le (le_of_eq hend.symm)
    rw [if_neg (not_not.mpr hend),h,hnothing]
    refine ⟨?_,fun hnone => ?_⟩
    · rintro b rest ⟨⟩
      exact ⟨shadow,offset,rfl,hoffset,hnothing.symm,rfl⟩
    · cases hnone
  · have hsome : recording.drop offset ≠ [] := by
      rw [Ne,List.drop_eq_nil_iff]
      omega
    have hread : (readEnd >>= fun _ => pure shadow : Reader Bytes) (recording.drop offset) = none := by
      change (readEnd (recording.drop offset)).bind _ = none
      unfold readEnd
      rw [if_neg hsome]
      rfl
    rw [if_pos hend,hread]
    exact ⟨by simp,fun _ => ⟨.trailingContent,by simp,rfl⟩⟩

/-- The walk over the sections goes where the reader of the tail goes. -/
lemma follows_walkSections (hbytes : recording.length < 2 ^ 64) (hframes : frames ≤ maxRecordingFrames) :
    Follows recording (· ≠ .none) (walkSections recording version frames) (readTail version frames)
      fun tail shadow => Checked.slice recording shadow.1 shadow.2 = some tail.shadow := by
  have hfew := hframes
  unfold maxRecordingFrames at hfew
  unfold walkSections readTail
  refine (follows_skip hbytes (by simp)).bind fun trimMarks _ _ => ?_
  refine Follows.computed (Checked.mul_eq (by omega)) ?_
  refine (follows_skip hbytes (by simp)).bind fun frameStats _ _ => ?_
  refine (follows_history hbytes hframes).bind fun spriteHistory _ _ => ?_
  unfold Binary.readList
  rw [bind_assoc]
  refine (follows_number hbytes (by simp)).bind ?_
  rintro _ keyframeCount ⟨rfl,-⟩
  refine Follows.computed (Checked.add_eq (by omega)) ?_
  by_cases hmany : frames + 1 < keyframeCount
  · rw [if_pos hmany,if_neg (Nat.not_le.mpr hmany)]
    exact follows_stop (by simp)
  rw [if_neg hmany,if_pos (Nat.not_lt.mp hmany)]
  refine ((follows_keyframe hbytes).many keyframeCount).bind fun keyframes _ _ => ?_
  refine (follows_history hbytes hframes).bind fun audioHistory _ _ => ?_
  refine (follows_skip hbytes (by simp)).bind fun algorithm _ _ => ?_
  refine (follows_number hbytes (by simp)).bind ?_
  rintro _ size ⟨rfl,-⟩
  by_cases hsize : size ≠ 0 ∧ size ≠ recordingFmRegisterBytes
  · rw [if_pos hsize,if_neg (by omega)]
    exact follows_stop (by simp)
  rw [if_neg hsize,if_pos (by omega)]
  refine (follows_marked hbytes (by simp)).bind fun shadow start hshadow => ?_
  exact (follows_takeId hbytes).bind fun takeId _ _ => follows_pure hshadow

lemma follows_walkTail (hbytes : recording.length < 2 ^ 64) (hframes : frames ≤ maxRecordingFrames) :
    Follows recording (· ≠ .none) (walkTail recording version frames)
      (readTail version frames >>= fun tail => readEnd >>= fun _ => pure tail.shadow)
      fun expected registers => registers = expected :=
  (follows_walkSections hbytes hframes).bind fun _ _ hshadow => follows_finish hshadow

/-- What is left is read to its end exactly when it is a valid tail and nothing else. -/
lemma readTail_readEnd_iff (hframes : frames ≤ maxRecordingFrames) {bytes shadow rest : Bytes} :
    (readTail version frames >>= fun tail => readEnd >>= fun _ => pure tail.shadow) bytes = some (shadow,rest) ↔
      rest = [] ∧ ∃ tail : RecordingTail, tail.Valid version frames ∧ bytes = tail.write ∧ shadow = tail.shadow := by
  have hcodes : Codes (readTail version frames) RecordingTail.write (RecordingTail.Valid version frames) := by
    unfold maxRecordingFrames at hframes
    exact codes_tail (by omega)
  rw [bind_eq_some]
  constructor
  · rintro ⟨tail,mid,htail,hend⟩
    obtain ⟨hvalid,rfl⟩ := (hcodes _ _ _).mp htail
    obtain ⟨_,last,hnothing,hpure⟩ := bind_eq_some.mp hend
    obtain ⟨rfl,rfl⟩ := pure_eq_some.mp hpure
    unfold readEnd at hnothing
    split_ifs at hnothing with hempty
    cases hnothing
    exact ⟨rfl,tail,hvalid,by rw [hempty,List.append_nil],rfl⟩
  · rintro ⟨rfl,tail,hvalid,rfl,rfl⟩
    have hread := hcodes.read_write hvalid []
    rw [List.append_nil] at hread
    exact ⟨tail,[],hread,bind_eq_some.mpr ⟨(),[],rfl,pure_eq_some.mpr ⟨rfl,rfl⟩⟩⟩

end Refinement

section Result

/-- For the layout that is decoded from a recording nothing is read outside its bytes and nothing wraps; from
version 9 on the registers are decoded exactly when what follows the inputs is a valid tail, and then they are
its shadow. -/
theorem decodeRecordingFmRegisters_reads_tail (recording : Bytes) (decoded : RecordingLayoutResult)
    (h : decodeRecordingLayout recording recording.length = some decoded) :
    ∃ result, decodeRecordingFmRegisters recording decoded.layout = some result ∧
      (recordingFmRegistersVersion ≤ decoded.layout.header.version →
        let behind := recording.drop (decoded.layout.inputs.offset + decoded.layout.inputs.size)
        let valid := RecordingTail.Valid decoded.layout.header.version decoded.layout.frameCount
        (result.error = .none ↔ ∃ tail, valid tail ∧ behind = tail.write) ∧
          ∀ tail, valid tail → behind = tail.write → result.registers = tail.shadow) := by
  obtain ⟨hplaced,hempty⟩ := decodeRecordingLayout_spec h
  unfold decodeRecordingFmRegisters
  by_cases hold : decoded.layout.header.version < recordingFmRegistersVersion
  · rw [if_pos hold]
    exact ⟨_,rfl,fun hnew => absurd hnew (Nat.not_le.mpr hold)⟩
  have haccepted : decoded.error = .none := by
    by_contra hrefused
    rw [hempty hrefused] at hold
    exact hold (by decide)
  have hlayout := hplaced haccepted
  have hinside := hlayout.inputs_in_total
  have htotal := hlayout.total_le
  unfold maxRecordingBytes at htotal
  rw [if_neg hold,if_neg (by omega),Checked.add_eq (by omega),Option.bind_eq_bind,Option.bind_some]
  have hframes := hlayout.frameCount_le.2
  have hfollows : Follows recording (· ≠ .none)
      (walkTail recording decoded.layout.header.version decoded.layout.frameCount)
      _ _ := follows_walkTail (by omega) hframes
  obtain ⟨hsome,hnone⟩ := hfollows (decoded.layout.inputs.offset + decoded.layout.inputs.size) hinside
  cases hread : (readTail decoded.layout.header.version decoded.layout.frameCount >>= fun tail =>
      readEnd >>= fun _ => pure tail.shadow)
        (recording.drop (decoded.layout.inputs.offset + decoded.layout.inputs.size)) with
  | none =>
    obtain ⟨error,herror,hwalk⟩ := hnone hread
    have hnotTail : ¬∃ tail : RecordingTail,
        tail.Valid decoded.layout.header.version decoded.layout.frameCount ∧
          recording.drop (decoded.layout.inputs.offset + decoded.layout.inputs.size) = tail.write := by
      rintro ⟨tail,hvalid,hwrite⟩
      rw [(readTail_readEnd_iff hframes).mpr ⟨rfl,tail,hvalid,hwrite,rfl⟩] at hread
      cases hread
    rw [hwalk]
    exact ⟨_,rfl,fun _ => ⟨iff_of_false herror hnotTail,fun tail hvalid hwrite =>
      absurd ⟨tail,hvalid,hwrite⟩ hnotTail⟩⟩
  | some p =>
    obtain ⟨registers,next,hwalk,-,-,rfl⟩ := hsome p.1 p.2 hread
    obtain ⟨-,tail,hvalid,hwrite,hshadow⟩ := (readTail_readEnd_iff hframes).mp hread
    rw [hwalk]
    refine ⟨_,rfl,fun _ => ⟨iff_of_true rfl ⟨tail,hvalid,hwrite⟩,fun tail' hvalid' hwrite' => ?_⟩⟩
    rw [(readTail_readEnd_iff hframes).mpr ⟨rfl,tail',hvalid',hwrite',rfl⟩] at hread
    cases hread
    rfl

/-- The tail of a recording of two frames with its histories, a keyframe and the shadow. -/
def keyedTail : RecordingTail where
  trimMarks := [0,0,0,0,2,0,0,0]
  frameStats := List.replicate 24 3
  spriteHistory := ⟨1,[8,7,6,5,4,3,2,1],[1,0,0,0,0,0,0,0]⟩
  keyframes := [⟨0,5,[7,7,7]⟩,⟨2,5,[9,9]⟩]
  audioHistory := ⟨2,List.replicate 16 6,[1,0,0,0,1,0,0,0]⟩
  algorithm := [1,0,0,0]
  shadow := List.replicate 511 0 ++ [40]
  takeId := [1,2,3,4,5,6,7,8]

/-- A recording of version ten with two frames, the names of its game and of itself, and that tail. -/
def keyedRecording : Bytes :=
  magic ++ writeLe 4 10 ++ writeText [103] ++ writeText [110,111] ++ writeLe 4 2 ++ writeLe 4 5 ++ writeLe 4 3 ++
    [7,7,7] ++
    [1,0,2,0] ++ keyedTail.write

def keyedDecoded : RecordingLayoutResult where
  layout := ⟨⟨10⟩,⟨12,1⟩,⟨17,2⟩,2,5,⟨31,3⟩,⟨34,4⟩⟩

theorem keyedRecording_registers : ∃ result,
    decodeRecordingFmRegisters keyedRecording keyedDecoded.layout = some result ∧ result.error = .none ∧
      result.registers = List.replicate 511 0 ++ [40] := by
  obtain ⟨result,hdecode,hregisters⟩ :=
    decodeRecordingFmRegisters_reads_tail keyedRecording keyedDecoded (by decide +kernel)
  have hvalid : keyedTail.Valid keyedDecoded.layout.header.version keyedDecoded.layout.frameCount :=
    ⟨by decide,by decide,⟨by decide,by decide,by decide⟩,by decide,fun keyframe hkeyframe => ?_,
      ⟨by decide,by decide,by decide⟩,by decide,by decide +kernel,by decide⟩
  · obtain ⟨herror,hshadow⟩ := hregisters (by decide)
    have hwrite : keyedRecording.drop (keyedDecoded.layout.inputs.offset + keyedDecoded.layout.inputs.size) =
        keyedTail.write := by
      decide +kernel
    exact ⟨result,hdecode,herror.mpr ⟨keyedTail,hvalid,hwrite⟩,hshadow keyedTail hvalid hwrite⟩
  · obtain rfl | rfl := List.mem_pair.mp hkeyframe
    · constructor <;> decide
    · constructor <;> decide

end Result

end AytherRuntime.Recording
