import AytherRuntime.Fact.Persisted
import AytherRuntime.Storage.DurableFile

/-! The files of the evidence that are created once: their directory is made for the first of them, and no later write
replaces one. -/
namespace AytherRuntime.Storage
open Binary.Streaming (ExclusiveFileWriteResult)

section Source

/-- What the system answers to the write of one file. -/
structure ExclusiveCalls extends SystemCalls where
  directoryStatus : Bool := true
  createDirectory : Bool := true

/-- `write_exclusive_file` -/
def writeExclusiveFile (calls : ExclusiveCalls) (disk : Disk) (path : Path) (bytes : List UInt8) :
    Disk × ExclusiveFileWriteResult :=
  if calls.create 0 = .denied then (disk,.ioError)
  else if calls.create 0 = .exists_ ∨ (disk path).isSome then (disk,.alreadyExists)
  else
    match writeBytes calls.toSystemCalls bytes none path 0 0 (disk.write path []) with
    | (disk,.error _) => (disk,.ioError)
    | (disk,.ok ()) => if !calls.close then (disk.remove path,.ioError) else (disk,.written)

/-- `ensure_fragment_directory`, `ensure_audio_directory` -/
def ensureEvidenceDirectory (calls : ExclusiveCalls) (disk : Disk) (path : Path) : Disk × Bool :=
  if calls.directoryStatus = true ∧ (disk path).isSome then (disk,disk path = some .directory)
  else if calls.createDirectory = true ∧ disk path = none then
    (Function.update disk path (some .directory),true)
  else (disk,false)

/-- The write of a file whose directory may have to be made. -/
def writeEvidenceFile (calls : ExclusiveCalls) (disk : Disk) (path : Path) (bytes : List UInt8) :
    Disk × ExclusiveFileWriteResult :=
  match ensureEvidenceDirectory calls disk path.dropLast with
  | (disk,false) => (disk,.ioError)
  | (disk,true) => writeExclusiveFile calls disk path bytes

/-- A file as the readers find it. -/
inductive StoredFile
  | unsized
  | unreadable (size : ℕ)
  | content (bytes : List UInt8)
  deriving DecidableEq, Repr

/-- The file at a path, which may not be readable. -/
def Disk.file (disk : Disk) (readable : Path → Bool) (path : Path) : StoredFile :=
  match disk path with
  | some (.regular bytes) => if readable path then .content bytes else .unreadable bytes.length
  | _ => .unsized

/-- A number with leading zeros up to twenty digits. -/
def twentyDigits (number : UInt64) : String :=
  let digits := toString number.toNat
  String.ofList (List.replicate (20 - digits.length) '0') ++ digits

end Source

section Specification
variable (calls : ExclusiveCalls) (disk : Disk) (path : Path) (bytes : List UInt8)

/-- The directory is there or is made, the path is free, and all bytes are written. -/
structure ExclusiveCalls.Writes : Prop where
  directory : calls.directoryStatus = true ∧ disk path.dropLast = some .directory ∨
    calls.createDirectory = true ∧ disk path.dropLast = none
  created : calls.create 0 = .opened
  free : disk path = none
  writes : calls.toSystemCalls.Writes bytes none 0 0
  close : calls.close = true

lemma writeExclusiveFile_eq : writeExclusiveFile calls disk path bytes =
      (disk.write path bytes,.written) ∧ calls.create 0 = .opened ∧ disk path = none ∧
        calls.toSystemCalls.Writes bytes none 0 0 ∧ calls.close = true ∨
    (writeExclusiveFile calls disk path bytes).1 = disk ∧
      (writeExclusiveFile calls disk path bytes).2 ≠ .written ∧
        ¬(calls.create 0 = .opened ∧ disk path = none ∧ calls.toSystemCalls.Writes bytes none 0 0 ∧
          calls.close = true) := by
  unfold writeExclusiveFile
  by_cases hdenied : calls.create 0 = .denied
  · rw [if_pos hdenied]
    refine Or.inr ⟨rfl,by simp,fun h => ?_⟩
    rw [hdenied] at h
    exact nomatch h.1
  rw [if_neg hdenied]
  by_cases htaken : calls.create 0 = .exists_ ∨ (disk path).isSome
  · rw [if_pos htaken]
    refine Or.inr ⟨rfl,by simp,?_⟩
    rintro ⟨hopened,hfree,-⟩
    rw [hopened,hfree] at htaken
    simp at htaken
  rw [if_neg htaken]
  rw [not_or,Option.not_isSome_iff_eq_none] at htaken
  have hopened : calls.create 0 = .opened := by
    cases hcreate : calls.create 0 with
    | opened => rfl
    | exists_ => exact absurd hcreate htaken.1
    | denied => exact absurd hcreate hdenied
  have hwritten := writeBytes_spec calls.toSystemCalls disk htaken.2 bytes none 0 0
  rw [List.take_zero] at hwritten
  obtain ⟨hfails,error,hresult⟩ | ⟨hwrites,hresult⟩ := hwritten
  · rw [hresult]
    exact Or.inr ⟨rfl,by simp,fun h => hfails h.2.2.1⟩
  · rw [hresult]
    dsimp only
    cases hclose : calls.close with
    | true => exact Or.inl ⟨rfl,hopened,htaken.2,hwrites,rfl⟩
    | false =>
      refine Or.inr ⟨?_,by simp,fun h => nomatch h.2.2.2⟩
      exact disk.remove_write htaken.2 bytes

lemma ensureEvidenceDirectory_eq (calls : ExclusiveCalls) (disk : Disk) (path : Path) :
    ensureEvidenceDirectory calls disk path = (Function.update disk path (some .directory),true) ∧
        (calls.directoryStatus = true ∧ disk path = some .directory ∨
          calls.createDirectory = true ∧ disk path = none) ∨
      ensureEvidenceDirectory calls disk path = (disk,false) ∧
        ¬(calls.directoryStatus = true ∧ disk path = some .directory ∨
          calls.createDirectory = true ∧ disk path = none) := by
  unfold ensureEvidenceDirectory
  split_ifs with hthere hmade
  · obtain ⟨hstatus,hsome⟩ := hthere
    by_cases hdirectory : disk path = some .directory
    · have hsame : Function.update disk path (some .directory) = disk := by
        rw [← hdirectory,Function.update_eq_self]
      rw [hsame,decide_eq_true hdirectory]
      exact Or.inl ⟨rfl,Or.inl ⟨hstatus,hdirectory⟩⟩
    · right
      rw [decide_eq_false hdirectory]
      refine ⟨rfl,?_⟩
      rintro (⟨-,h⟩ | ⟨-,h⟩)
      · exact hdirectory h
      · rw [h] at hsome
        exact nomatch hsome
  · exact Or.inl ⟨rfl,Or.inr hmade⟩
  · refine Or.inr ⟨rfl,?_⟩
    rintro (⟨hstatus,h⟩ | h)
    · exact hthere ⟨hstatus,by rw [h]; rfl⟩
    · exact hmade h

/-- A file is written exactly where its path is free and the system does what it is asked for, and then it is there. -/
lemma writeEvidenceFile_written {path : Path} (hpath : path ≠ []) :
    ((writeEvidenceFile calls disk path bytes).2 = .written ↔ calls.Writes disk path bytes) ∧
      ((writeEvidenceFile calls disk path bytes).2 = .written →
        (writeEvidenceFile calls disk path bytes).1 path = some (.regular bytes)) := by
  have hparent : path ≠ path.dropLast := by
    intro hsame
    have hlength := congrArg List.length hsame
    have hpositive := List.length_pos_iff.mpr hpath
    rw [List.length_dropLast] at hlength
    omega
  unfold writeEvidenceFile
  obtain ⟨hensured,hdirectory⟩ | ⟨hensured,hdirectory⟩ := ensureEvidenceDirectory_eq calls disk path.dropLast
  · rw [hensured]
    dsimp only
    obtain ⟨hwritten,hopened,hfree,hwrites,hclose⟩ | ⟨-,hfailed,hcause⟩ := writeExclusiveFile_eq calls
      (Function.update disk path.dropLast (some .directory)) path bytes
    · rw [Function.update_of_ne hparent] at hfree
      rw [hwritten]
      exact ⟨iff_of_true rfl ⟨hdirectory,hopened,hfree,hwrites,hclose⟩,fun _ => Function.update_self ..⟩
    · rw [Function.update_of_ne hparent] at hcause
      exact ⟨iff_of_false hfailed fun h => hcause ⟨h.created,h.free,h.writes,h.close⟩,fun h => absurd h hfailed⟩
  · rw [hensured]
    exact ⟨iff_of_false (by simp) fun h => hdirectory h.directory,fun h => nomatch h⟩

/-- What is there stays as it is. -/
lemma writeEvidenceFile_keeps {disk : Disk} {kept : Path} {entry : Entry} (h : disk kept = some entry) :
    (writeEvidenceFile calls disk path bytes).1 kept = some entry := by
  unfold writeEvidenceFile
  obtain ⟨hensured,hdirectory⟩ | ⟨hensured,-⟩ := ensureEvidenceDirectory_eq calls disk path.dropLast
  · have hkept : Function.update disk path.dropLast (some .directory) kept = some entry := by
      by_cases hsame : kept = path.dropLast
      · subst hsame
        rw [Function.update_self,← h]
        obtain ⟨-,h⟩ | ⟨-,hnone⟩ := hdirectory
        · exact h.symm
        · rw [hnone] at h
          exact nomatch h
      · rw [Function.update_of_ne hsame,h]
    rw [hensured]
    dsimp only
    obtain ⟨hwritten,-,hfree,-⟩ | ⟨hsame,-⟩ := writeExclusiveFile_eq calls
      (Function.update disk path.dropLast (some .directory)) path bytes
    · rw [hwritten]
      have hother : kept ≠ path := by
        rintro rfl
        rw [hfree] at hkept
        exact nomatch hkept
      exact (Function.update_of_ne hother ..).trans hkept
    · rw [hsame,hkept]
  · rw [hensured]
    exact h

end Specification
end AytherRuntime.Storage
