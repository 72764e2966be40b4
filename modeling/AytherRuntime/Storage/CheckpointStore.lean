import AytherRuntime.Check.Request
import AytherRuntime.Storage.DurableFile

/-! The checkpoint of a run: its document, the artifacts that it lists, and the publication that replaces the
one before it under an increasing sequence. -/
namespace AytherRuntime.Storage
open Check (Toml)

section Document

def maxCheckpointArtifacts : ℕ := 65536
def maxMetadataBytes : ℕ := 256 * 1024

/-- The SHA-256 and the size of a content. -/
structure ContentIdentity where
  sha256 : List UInt8
  byteSize : UInt64
  sized : sha256.length = 32
  deriving DecidableEq, Repr

inductive CheckpointArtifactKind
  | factFragment | pcmBlock
  deriving DecidableEq, Repr

def kindName : CheckpointArtifactKind → String
  | .factFragment => "fact_fragment"
  | .pcmBlock => "pcm_block"

def kindValue (name : String) : Option CheckpointArtifactKind :=
  [CheckpointArtifactKind.factFragment,.pcmBlock].find? fun kind => kindName kind = name

structure CheckpointArtifact where
  kind : CheckpointArtifactKind
  relativePath : String
  sequence : UInt64
  identity : ContentIdentity
  deriving DecidableEq, Repr

structure EvidenceCheckpoint where
  checkpointId : String
  sequence : UInt64
  artifacts : List CheckpointArtifact
  deriving DecidableEq, Repr

structure StoredCheckpoint where
  path : Path
  documentIdentity : ContentIdentity
  checkpoint : EvidenceCheckpoint
  deriving DecidableEq, Repr

inductive CheckpointStoreError
  | invalidCheckpoint | documentTooLarge | artifactOutsideRun | artifactInvalid | artifactChanged
  | nonIncreasingSequence | existingCheckpointInvalid | publishFailed | ioError | malformedDocument
  | incompatibleVersion
  deriving DecidableEq, Repr

/-- `identifier` -/
def identifier (value : String) : Bool :=
  value ≠ "" && value.utf8ByteSize ≤ maxIdentityBytes && value ≠ "." && value ≠ ".." &&
    value.toList.all fun c => c.isAlphanum || c = '-' || c = '_' || c = '.'

/-- The components of a path that is written with separators. -/
def pathComponents (path : String) : Path := (path.toList.splitOn '/').map String.ofList

/-- `safe_relative_path` -/
def safeRelativePath (path : String) : Bool :=
  path ≠ "" && (pathComponents path).head? ≠ some "" &&
    (pathComponents path).all fun component => component ≠ "." && component ≠ ".."

/-- A path that is its own generic text has no separator twice. -/
def genericPath (path : String) : Bool := (pathComponents path).dropLast.all (· ≠ "")

def hexDigits : List Char := "0123456789abcdef".toList

/-- `hex` -/
def hex (bytes : List UInt8) : String :=
  String.ofList (bytes.flatMap fun byte =>
    [hexDigits.getD (byte.toNat / 16) '0',hexDigits.getD (byte.toNat % 16) '0'])

def hexValue (c : Char) : Option ℕ :=
  (hexDigits.idxOf? c).or ("0123456789ABCDEF".toList.idxOf? c)

/-- The bytes of a text of pairs of hexadecimal digits. -/
def hexBytes : List Char → Option (List UInt8)
  | [] => some []
  | high :: low :: rest => do
    let high ← hexValue high
    let low ← hexValue low
    let bytes ← hexBytes rest
    some (UInt8.ofNat (16 * high + low) :: bytes)
  | [_] => none

/-- `decimal` -/
def decimal (text : String) : Option UInt64 := (fromChars (2 ^ 64) text.toList).map UInt64.ofNat

/-- Neither a kind with its sequence nor a path comes twice. -/
def distinctArtifacts : List CheckpointArtifact → Bool
  | [] => true
  | artifact :: artifacts =>
    artifacts.all (fun other => !(other.kind = artifact.kind && other.sequence = artifact.sequence) &&
      other.relativePath ≠ artifact.relativePath) && distinctArtifacts artifacts

def formatArtifact (artifact : CheckpointArtifact) : Toml :=
  .table [("kind",.string (kindName artifact.kind)),("relative_path",.string artifact.relativePath),
    ("sequence",.string (toString artifact.sequence.toNat)),("sha256",.string (hex artifact.identity.sha256)),
    ("byte_size",.string (toString artifact.identity.byteSize.toNat))]

def formatCheckpoint (checkpoint : EvidenceCheckpoint) : Toml :=
  .table [("schema_version",.integer 1),("schema_minor",.integer 0),
    ("checkpoint_id",.string checkpoint.checkpointId),
    ("sequence",.string (toString checkpoint.sequence.toNat)),
    ("artifacts",.array (checkpoint.artifacts.map formatArtifact))]

/-- `table.size()` -/
def tableSize : Toml → ℕ
  | .table entries => entries.length
  | _ => 0

def parseArtifact (row : Toml) : Option CheckpointArtifact := do
  let kind ← (row.text "kind").bind kindValue
  let relativePath ← row.text "relative_path"
  let sequence ← (row.text "sequence").bind decimal
  let sha256 ← (row.text "sha256").bind fun text => hexBytes text.toList
  let byteSize ← (row.text "byte_size").bind decimal
  if sized : sha256.length = 32 then
    if tableSize row = 5 ∧ sequence ≠ 0 ∧ safeRelativePath relativePath ∧ genericPath relativePath then
      some { kind, relativePath, sequence, identity := ⟨sha256,byteSize,sized⟩ }
    else none
  else none

/-- `decode_checkpoint`, from the document that the library reads. -/
def decodeCheckpoint (document : Option Toml) : Except CheckpointStoreError EvidenceCheckpoint :=
  match document with
  | none => .error .malformedDocument
  | some table =>
    if table.number "schema_version" ≠ some 1 ∨ table.number "schema_minor" ≠ some 0 then
      .error .incompatibleVersion
    else
      let parsed : Option EvidenceCheckpoint := do
        let checkpointId ← (table.text "checkpoint_id").filter identifier
        let sequence ← (table.text "sequence").bind decimal
        let artifacts ← (table.rows "artifacts").bind fun rows => rows.mapM parseArtifact
        if tableSize table = 5 ∧ sequence ≠ 0 ∧ artifacts ≠ [] ∧ artifacts.length ≤ maxCheckpointArtifacts ∧
            distinctArtifacts artifacts then
          some { checkpointId, sequence, artifacts }
        else none
      match parsed with
      | some checkpoint => .ok checkpoint
      | none => .error .malformedDocument

end Document

section Store

/-- What the store calls: the hash of a content, the readers of the artifacts, which give the sequence and the
identity of a document, and the TOML library. -/
structure CheckpointLibrary where
  identifyContent : List UInt8 → ContentIdentity
  readArtifact : CheckpointArtifactKind → List UInt8 → Option (UInt64 × ContentIdentity)
  print : Toml → List UInt8
  parse : List UInt8 → Option Toml

/-- The library reads back the documents that it writes. -/
def CheckpointLibrary.Inverse (library : CheckpointLibrary) : Prop :=
  ∀ document, library.parse (library.print document) = some document

/-- An artifact that was published under a name. -/
structure DurableArtifactPublication where
  kind : CheckpointArtifactKind
  sequence : UInt64
  publication : DurablePublishedFile ContentIdentity

/-- The outcomes of the calls that read the disk. -/
structure ReadCalls where
  existsStatus : Bool := true
  readable : Path → Bool := fun _ => true

/-- One call of `write_checkpoint`, with the outcome of every system call that it makes. -/
structure CheckpointWrite where
  checkpointId : String
  sequence : UInt64
  artifacts : List DurableArtifactPublication
  limits : DurablePublicationLimits := {}
  reads : ReadCalls := {}
  directoryStatus : Bool := true
  createDirectory : Bool := true
  publish : SystemCalls

def Disk.makeDirectory (disk : Disk) (path : Path) : Disk := Function.update disk path (some .directory)

/-- The content of a file, where it can be read. -/
def readContent (reads : ReadCalls) (disk : Disk) (path : Path) : Option (List UInt8) :=
  match disk path with
  | some (.regular content) => if reads.readable path then some content else none
  | _ => none

variable (library : CheckpointLibrary) (reads : ReadCalls) (disk : Disk)

/-- `read_fact_fragment`, `read_pcm_block` -/
def readStored (kind : CheckpointArtifactKind) (path : Path) : Option (UInt64 × ContentIdentity) :=
  (readContent reads disk path).bind (library.readArtifact kind)

/-- The directory of the artifacts of a kind. -/
def artifactParent : CheckpointArtifactKind → String
  | .factFragment => "fragments"
  | .pcmBlock => "audio"

/-- `validate_artifact` -/
def validateArtifact (directory : Path) (artifact : DurableArtifactPublication) :
    Except CheckpointStoreError CheckpointArtifact :=
  let path := artifact.publication.path
  let relative := path.drop directory.length
  if artifact.sequence = 0 then .error .artifactInvalid
  else if ¬directory <+: path ∨ !safeRelativePath ("/".intercalate relative) then .error .artifactOutsideRun
  else if relative.dropLast ≠ [artifactParent artifact.kind] then .error .artifactInvalid
  else
    match readStored library reads disk artifact.kind path with
    | none => .error .artifactInvalid
    | some (sequence,observed) =>
      if sequence ≠ artifact.sequence then .error .artifactInvalid
      else if observed ≠ artifact.publication.identity then .error .artifactChanged
      else .ok ⟨artifact.kind,"/".intercalate relative,artifact.sequence,observed⟩

/-- `encode_checkpoint` -/
def encodeCheckpoint (checkpoint : EvidenceCheckpoint) : Except CheckpointStoreError (List UInt8) :=
  if !identifier checkpoint.checkpointId ∨ checkpoint.sequence = 0 ∨ checkpoint.artifacts = [] ∨
      maxCheckpointArtifacts < checkpoint.artifacts.length then .error .invalidCheckpoint
  else if !distinctArtifacts checkpoint.artifacts ∨ checkpoint.artifacts.any (fun artifact =>
      artifact.sequence = 0 || !safeRelativePath artifact.relativePath) then .error .invalidCheckpoint
  else
    let text := library.print (formatCheckpoint checkpoint)
    if text = [] ∨ maxMetadataBytes < text.length then .error .documentTooLarge else .ok text

/-- `verify_stored_artifact`, without an error. -/
def verifyStoredArtifact (directory : Path) (artifact : CheckpointArtifact) : Option CheckpointStoreError :=
  match readStored library reads disk artifact.kind (directory ++ pathComponents artifact.relativePath) with
  | none => some .artifactInvalid
  | some (sequence,observed) =>
    if sequence ≠ artifact.sequence then some .artifactInvalid
    else if observed ≠ artifact.identity then some .artifactChanged
    else none

/-- `read_checkpoint`: the document, and each of its artifacts until one is not as it says. -/
def readCheckpoint (path : Path) : Except CheckpointStoreError StoredCheckpoint :=
  match readContent reads disk path with
  | none => .error .ioError
  | some text =>
    if maxMetadataBytes < text.length then .error .documentTooLarge
    else
      match decodeCheckpoint (library.parse text) with
      | .error error => .error error
      | .ok checkpoint =>
        match checkpoint.artifacts.findSome? (verifyStoredArtifact library reads disk path.dropLast.dropLast) with
        | some error => .error error
        | none => .ok ⟨path,library.identifyContent text,checkpoint⟩

def checkpointDirectory (directory : Path) : Path := directory ++ ["checkpoints"]

/-- Where a checkpoint is published. -/
def currentPath (directory : Path) : Path := checkpointDirectory directory ++ ["current.toml"]

/-- `ensure_checkpoint_directory`, with the disk that it leaves. -/
def ensureCheckpointDirectory (write : CheckpointWrite) (path : Path) : Disk × Bool :=
  if write.directoryStatus = true ∧ (disk path).isSome then (disk,disk path = some .directory)
  else if write.createDirectory = true ∧ disk path = none then (disk.makeDirectory path,true)
  else (disk,false)

/-- The sequence of a new checkpoint is above that of the one that is there. -/
def checkPrevious (sequence : UInt64) (path : Path) : Option CheckpointStoreError :=
  if reads.existsStatus = false then some .ioError
  else if (disk path).isNone then none
  else
    match readCheckpoint library reads disk path with
    | .error _ => some .existingCheckpointInvalid
    | .ok stored => if sequence ≤ stored.checkpoint.sequence then some .nonIncreasingSequence else none

/-- The publication of a checkpoint whose document was encoded. -/
def publishCheckpoint (directory : Path) (write : CheckpointWrite) (checkpoint : EvidenceCheckpoint)
    (text : List UInt8) : Disk × Except CheckpointStoreError StoredCheckpoint :=
  let path := currentPath directory
  match ensureCheckpointDirectory disk write (checkpointDirectory directory) with
  | (disk,false) => (disk,.error .ioError)
  | (disk,true) =>
    match checkPrevious library write.reads disk write.sequence path with
    | some error => (disk,.error error)
    | none =>
      match publishDurableFile library.identifyContent write.publish disk path text write.limits with
      | (disk,.error _) => (disk,.error .publishFailed)
      | (disk,.ok file) => (disk,.ok ⟨path,file.identity,checkpoint⟩)

/-- `write_checkpoint` -/
def writeCheckpoint (directory : Path) (write : CheckpointWrite) :
    Disk × Except CheckpointStoreError StoredCheckpoint :=
  if !identifier write.checkpointId ∨ write.sequence = 0 ∨ write.artifacts = [] ∨
      maxCheckpointArtifacts < write.artifacts.length then (disk,.error .invalidCheckpoint)
  else
    match write.artifacts.mapM (validateArtifact library write.reads disk directory) with
    | .error error => (disk,.error error)
    | .ok artifacts =>
      let checkpoint : EvidenceCheckpoint := ⟨write.checkpointId,write.sequence,artifacts⟩
      match encodeCheckpoint library checkpoint with
      | .error error => (disk,.error error)
      | .ok text => publishCheckpoint library disk directory write checkpoint text

/-- The calls of a run one after another: what they leave, and what each of them published. -/
def writeCheckpoints (directory : Path) : Disk → List CheckpointWrite → Disk × List EvidenceCheckpoint
  | disk, [] => (disk,[])
  | disk, write :: writes =>
    let written := writeCheckpoint library disk directory write
    let rest := writeCheckpoints directory written.1 writes
    (rest.1,(match written.2 with
      | .ok stored => [stored.checkpoint]
      | .error _ => []) ++ rest.2)

end Store

section Writes
variable {library : CheckpointLibrary} {disk : Disk} {directory : Path} {write : CheckpointWrite}

lemma currentPath_ne_checkpointDirectory (directory : Path) :
    currentPath directory ≠ checkpointDirectory directory := by
  intro hsame
  simpa [currentPath] using congrArg List.length hsame

lemma decimal_toString (n : UInt64) : decimal (toString n.toNat) = some n := by
  unfold decimal
  rw [fromChars_toString,if_pos n.toNat_lt]
  simp

/-- A file that reads as a checkpoint holds a document that decodes to it. -/
lemma readCheckpoint_decodes {reads : ReadCalls} {path : Path} {stored : StoredCheckpoint}
    (h : readCheckpoint library reads disk path = .ok stored) :
    ∃ content, disk path = some (.regular content) ∧
      decodeCheckpoint (library.parse content) = .ok stored.checkpoint := by
  unfold readCheckpoint at h
  split at h
  · cases h
  · rename_i content hcontent
    split_ifs at h
    split at h
    · cases h
    · rename_i checkpoint hdecoded
      split at h
      · cases h
      · cases h
        refine ⟨content,?_,hdecoded⟩
        unfold readContent at hcontent
        split at hcontent
        · rename_i found hentry
          split_ifs at hcontent
          cases hcontent
          exact hentry
        · cases hcontent

/-- The document of a checkpoint decodes to its sequence, or to nothing. -/
lemma decodeCheckpoint_format {checkpoint decoded : EvidenceCheckpoint}
    (h : decodeCheckpoint (some (formatCheckpoint checkpoint)) = .ok decoded) :
    decoded.sequence = checkpoint.sequence := by
  have htext : (formatCheckpoint checkpoint).text "sequence" = some (toString checkpoint.sequence.toNat) := rfl
  unfold decodeCheckpoint at h
  dsimp only at h
  split_ifs at h
  split at h
  · rename_i found hparsed
    cases h
    rw [htext] at hparsed
    simp only [Option.bind_eq_bind,Option.bind_eq_some_iff,Option.some.injEq] at hparsed
    obtain ⟨checkpointId,-,sequence,⟨text,rfl,hsequence⟩,artifacts,-,hfound⟩ := hparsed
    rw [decimal_toString] at hsequence
    cases hsequence
    split_ifs at hfound
    cases hfound
    rfl
  · cases h

/-- The directory of the checkpoints is the only entry that preparing it can add. -/
lemma ensureCheckpointDirectory_eq (disk : Disk) (write : CheckpointWrite) {path other : Path} (hother : other ≠ path) :
    (ensureCheckpointDirectory disk write path).1 other = disk other := by
  unfold ensureCheckpointDirectory
  split_ifs
  · rfl
  · exact Function.update_of_ne hother _ _
  · rfl

lemma checkPrevious_none {reads : ReadCalls} {sequence : UInt64} {path : Path}
    (h : checkPrevious library reads disk sequence path = none) :
    disk path = none ∨ ∃ content checkpoint, disk path = some (.regular content) ∧
      decodeCheckpoint (library.parse content) = .ok checkpoint ∧ checkpoint.sequence < sequence := by
  unfold checkPrevious at h
  split_ifs at h with hstatus hnone
  · exact Or.inl (Option.isNone_iff_eq_none.mp hnone)
  · split at h
    · cases h
    · rename_i stored hread
      split_ifs at h with hsequence
      obtain ⟨content,hcontent,hdecoded⟩ := readCheckpoint_decodes hread
      exact Or.inr ⟨content,stored.checkpoint,hcontent,hdecoded,UInt64.not_le.mp hsequence⟩

lemma encodeCheckpoint_ok {checkpoint : EvidenceCheckpoint} {text : List UInt8}
    (h : encodeCheckpoint library checkpoint = .ok text) : text = library.print (formatCheckpoint checkpoint) := by
  unfold encodeCheckpoint at h
  dsimp only at h
  split_ifs at h
  cases h
  rfl

/-- The file of the checkpoint was replaced by one that is above what it held. -/
structure Replaced (library : CheckpointLibrary) (directory : Path) (before : Disk) (checkpoint : EvidenceCheckpoint)
    (after : Disk) : Prop where
  current : after (currentPath directory) = some (.regular (library.print (formatCheckpoint checkpoint)))
  above : before (currentPath directory) = none ∨ ∃ content previous,
    before (currentPath directory) = some (.regular content) ∧
      decodeCheckpoint (library.parse content) = .ok previous ∧ previous.sequence < checkpoint.sequence

/-- What a call leaves of the run and what it answers: the checkpoint that was there with an error, or a new one
above it. Besides it only the directory of the checkpoints can be new. -/
structure Leaves (library : CheckpointLibrary) (directory : Path) (before : Disk)
    (written : Disk × Except CheckpointStoreError StoredCheckpoint) : Prop where
  others : ∀ path, path ≠ checkpointDirectory directory → path ≠ currentPath directory →
    written.1 path = before path
  current : (written.1 (currentPath directory) = before (currentPath directory) ∧
      ∃ error, written.2 = .error error) ∨
    ∃ checkpoint, Replaced library directory before checkpoint written.1 ∧
      ∀ stored, written.2 = .ok stored → stored.checkpoint = checkpoint

lemma Leaves.refused (error : CheckpointStoreError) : Leaves library directory disk (disk,.error error) :=
  ⟨fun _ _ _ => rfl,Or.inl ⟨rfl,error,rfl⟩⟩

lemma publishCheckpoint_leaves {checkpoint : EvidenceCheckpoint} (hsequence : checkpoint.sequence = write.sequence) :
    Leaves library directory disk (publishCheckpoint library disk directory write checkpoint
      (library.print (formatCheckpoint checkpoint))) := by
  have hothers : ∀ path, path ≠ checkpointDirectory directory →
      (ensureCheckpointDirectory disk write (checkpointDirectory directory)).1 path = disk path :=
    fun path hpath => ensureCheckpointDirectory_eq disk write hpath
  have hcurrent := hothers _ (currentPath_ne_checkpointDirectory directory)
  unfold publishCheckpoint
  dsimp only
  split
  · rename_i ensured hensured
    rw [hensured] at hothers hcurrent
    exact ⟨fun path hpath _ => hothers path hpath,Or.inl ⟨hcurrent,_,rfl⟩⟩
  rename_i ensured hensured
  rw [hensured] at hothers hcurrent
  dsimp only at hothers hcurrent
  split
  · exact ⟨fun path hpath _ => hothers path hpath,Or.inl ⟨hcurrent,_,rfl⟩⟩
  rename_i hprevious
  have habove := checkPrevious_none hprevious
  rw [hcurrent,← hsequence] at habove
  rcases publishDurableFile_cases library.identifyContent write.publish ensured (currentPath directory)
      (library.print (formatCheckpoint checkpoint)) write.limits with ⟨error,hpublish⟩ | ⟨result,hpublish⟩
  · rw [hpublish]
    exact ⟨fun path hpath _ => hothers path hpath,Or.inl ⟨hcurrent,_,rfl⟩⟩
  · rw [hpublish]
    have hreplaced : Replaced library directory disk checkpoint
        (ensured.write (currentPath directory) (library.print (formatCheckpoint checkpoint))) :=
      ⟨Function.update_self ..,habove⟩
    have hkept : ∀ path, path ≠ checkpointDirectory directory → path ≠ currentPath directory →
        ensured.write (currentPath directory) (library.print (formatCheckpoint checkpoint)) path = disk path :=
      fun path hpath hother => (Function.update_of_ne hother _ _).trans (hothers path hpath)
    cases result with
    | error error => exact ⟨hkept,Or.inr ⟨checkpoint,hreplaced,fun stored hstored => by cases hstored⟩⟩
    | ok file =>
      refine ⟨hkept,Or.inr ⟨checkpoint,hreplaced,fun stored hstored => ?_⟩⟩
      cases hstored
      rfl

lemma writeCheckpoint_leaves (library : CheckpointLibrary) (disk : Disk) (directory : Path) (write : CheckpointWrite) :
    Leaves library directory disk (writeCheckpoint library disk directory write) := by
  unfold writeCheckpoint
  split_ifs
  · exact .refused _
  split
  · exact .refused _
  dsimp only
  split
  · exact .refused _
  · rename_i text hencoded
    rw [encodeCheckpoint_ok hencoded]
    exact publishCheckpoint_leaves rfl

/-- A call whose steps all succeed publishes its checkpoint. -/
lemma writeCheckpoint_ok (library : CheckpointLibrary) (disk : Disk) (directory : Path) (write : CheckpointWrite)
    {artifacts : List CheckpointArtifact} {text : List UInt8} {prepared : Disk}
    {published : Disk × Except DurablePublishError (DurablePublishedFile ContentIdentity)}
    {file : DurablePublishedFile ContentIdentity}
    (hrequest : identifier write.checkpointId = true ∧ write.sequence ≠ 0 ∧ write.artifacts ≠ [] ∧
      write.artifacts.length ≤ maxCheckpointArtifacts)
    (hartifacts : write.artifacts.mapM (validateArtifact library write.reads disk directory) = .ok artifacts)
    (hencoded : encodeCheckpoint library ⟨write.checkpointId,write.sequence,artifacts⟩ = .ok text)
    (hprepared : ensureCheckpointDirectory disk write (checkpointDirectory directory) = (prepared,true))
    (hprevious : checkPrevious library write.reads prepared write.sequence (currentPath directory) = none)
    (hpublished : publishDurableFile library.identifyContent write.publish prepared (currentPath directory) text
      write.limits = published)
    (hfile : published.2 = .ok file) :
    writeCheckpoint library disk directory write =
      (published.1,.ok ⟨currentPath directory,file.identity,write.checkpointId,write.sequence,artifacts⟩) := by
  obtain ⟨hid,hsequence,hsome,hlength⟩ := hrequest
  obtain ⟨after,result⟩ := published
  cases hfile
  unfold writeCheckpoint
  rw [if_neg (by simp [hid,hsequence,hsome,hlength]),hartifacts]
  dsimp only
  rw [hencoded]
  dsimp only
  unfold publishCheckpoint
  rw [hprepared]
  dsimp only
  rw [hprevious]
  dsimp only
  rw [hpublished]

end Writes

section Sequences
variable {library : CheckpointLibrary} {directory : Path}

/-- There is a file, and a checkpoint that it decodes to is not below the sequence. -/
def AtLeast (library : CheckpointLibrary) (directory : Path) (sequence : UInt64) (disk : Disk) : Prop :=
  ∃ content, disk (currentPath directory) = some (.regular content) ∧
    ∀ checkpoint, decodeCheckpoint (library.parse content) = .ok checkpoint → sequence ≤ checkpoint.sequence

lemma Replaced.atLeast (hinverse : library.Inverse) {before after : Disk} {checkpoint : EvidenceCheckpoint}
    (h : Replaced library directory before checkpoint after) :
    AtLeast library directory checkpoint.sequence after := by
  refine ⟨_,h.current,fun decoded hdecoded => ?_⟩
  rw [hinverse] at hdecoded
  rw [decodeCheckpoint_format hdecoded]
  exact UInt64.le_refl _

/-- A new checkpoint is above every sequence that the one before it reached. -/
lemma Replaced.lt {before after : Disk} {checkpoint : EvidenceCheckpoint} {sequence : UInt64}
    (h : Replaced library directory before checkpoint after) (hbefore : AtLeast library directory sequence before) :
    sequence < checkpoint.sequence := by
  obtain ⟨content,hcontent,hleast⟩ := hbefore
  obtain hnone | ⟨found,previous,hfound,hdecoded,hlt⟩ := h.above
  · rw [hcontent] at hnone
    cases hnone
  · rw [hcontent] at hfound
    cases hfound
    exact UInt64.lt_of_le_of_lt (hleast previous hdecoded) hlt

lemma AtLeast.mono {sequence other : UInt64} {disk : Disk} (h : AtLeast library directory sequence disk)
    (hother : other ≤ sequence) : AtLeast library directory other disk := by
  obtain ⟨content,hcontent,hleast⟩ := h
  exact ⟨content,hcontent,fun checkpoint hdecoded => UInt64.le_trans hother (hleast checkpoint hdecoded)⟩

/-- The sequences of the checkpoints that a run publishes increase, above every sequence that was reached. -/
lemma writeCheckpoints_increasing (hinverse : library.Inverse) (disk : Disk) (writes : List CheckpointWrite) :
    ((writeCheckpoints library directory disk writes).2.map EvidenceCheckpoint.sequence).IsChain (· < ·) ∧
      ∀ sequence, AtLeast library directory sequence disk →
        (sequence :: (writeCheckpoints library directory disk writes).2.map
          EvidenceCheckpoint.sequence).IsChain (· < ·) := by
  induction writes generalizing disk with
  | nil => simp [writeCheckpoints]
  | cons write writes ih =>
    obtain ⟨hchain,hleast⟩ := ih (writeCheckpoint library disk directory write).1
    have hleaves := writeCheckpoint_leaves library disk directory write
    unfold writeCheckpoints
    dsimp only
    rcases hleaves.current with ⟨hkept,error,herror⟩ | ⟨checkpoint,hreplaced,hstored⟩
    · rw [herror]
      refine ⟨hchain,fun sequence hsequence => hleast sequence ?_⟩
      unfold AtLeast at hsequence ⊢
      rwa [hkept]
    · have hafter := hreplaced.atLeast hinverse
      cases hresult : (writeCheckpoint library disk directory write).2 with
      | error error =>
        exact ⟨hchain,fun sequence hsequence => hleast sequence
          (hafter.mono (UInt64.le_of_lt (hreplaced.lt hsequence)))⟩
      | ok stored =>
        rw [← hstored stored hresult] at hafter hreplaced
        exact ⟨hleast _ hafter,fun sequence hsequence =>
          List.IsChain.cons_cons (hreplaced.lt hsequence) (hleast _ hafter)⟩

end Sequences
end AytherRuntime.Storage
