import Mathlib.Algebra.BigOperators.Group.Finset.Basic
import Mathlib.Algebra.Order.BigOperators.Group.Finset
import Mathlib.Data.Finset.Range
import Mathlib.Logic.Function.Basic
import Mathlib.Tactic.SplitIfs

/-! The durable publication of a file on POSIX: an exclusive temporary is written, flushed, closed
and renamed over the target, and then the parent directory is flushed. -/
namespace AytherRuntime.Storage

/-- An absolute path by its components. -/
abbrev Path := List String

inductive Entry
  | regular (content : List UInt8)
  | directory
  | symlink
  deriving DecidableEq, Repr

abbrev Disk := Path → Option Entry

/-- `temporary_path`. -/
def temporaryPath (parent : Path) (process sequence : UInt64) : Path :=
  parent ++ [".ayther-durable-" ++ toString process.toNat ++ "-" ++ toString sequence.toNat ++ ".tmp"]

inductive DurablePublishError
  | invalidTarget | temporaryCollision | writeFailed | flushFailed | publishFailed
  | storageExhausted | interruptedBeforeFlush | interruptedAfterFlush
  deriving DecidableEq, Repr

inductive DurablePublicationStop
  | none | beforeFlush | afterFlush
  deriving DecidableEq, Repr

structure DurablePublicationLimits where
  writableBytes : Option ℕ := none
  stop : DurablePublicationStop := .none
  deriving DecidableEq, Repr

structure DurablePublishedFile (Identity : Type) where
  path : Path
  identity : Identity
  deriving DecidableEq, Repr

/-- What one exclusive creation answers where no entry has the name. -/
inductive CreateOutcome
  | opened | exists_ | denied
  deriving DecidableEq, Repr

/-- The outcome of every system call of one publication. -/
structure SystemCalls where
  process : UInt64
  /-- The sequence each attempt takes from the counter, which all the threads share. -/
  sequence : ℕ → UInt64
  parentStatus : Bool := true
  targetStatus : Bool := true
  create : ℕ → CreateOutcome := fun _ => .opened
  /-- The value of each write; more than was asked for is never written. -/
  write : ℕ → ℤ
  fsync : Bool := true
  close : Bool := true
  rename : Bool := true
  parentOpen : Bool := true
  parentFsync : Bool := true
  parentClose : Bool := true

def maxTemporaryAttempts : ℕ := 64

/-- `valid_target`. -/
def validTarget (sys : SystemCalls) (disk : Disk) (target : Path) : Bool :=
  target ≠ [] ∧ target.getLast? ≠ some "" ∧
    sys.parentStatus ∧ disk target.dropLast = some .directory ∧
    sys.targetStatus ∧ disk target ≠ some .directory ∧ disk target ≠ some .symlink

def Disk.remove (disk : Disk) (path : Path) : Disk := Function.update disk path none

def Disk.write (disk : Disk) (path : Path) (content : List UInt8) : Disk :=
  Function.update disk path (some (.regular content))

/-- Renaming over a regular file replaces it; a path renamed to itself stays. -/
def Disk.rename (disk : Disk) (source target : Path) : Disk :=
  if source = target then disk
  else Function.update (Function.update disk target (disk source)) source none

/-- `create_temporary`, with `attempts` left of the sixty-four. -/
def createTemporary (sys : SystemCalls) (disk : Disk) (parent : Path) :
    (attempts attempt : ℕ) → Disk × Except DurablePublishError Path
  | 0, _ => (disk, .error .temporaryCollision)
  | attempts + 1, attempt =>
    let path := temporaryPath parent sys.process (sys.sequence attempt)
    if sys.create attempt = .denied then (disk, .error .writeFailed)
    else if sys.create attempt = .exists_ ∨ (disk path).isSome then
      createTemporary sys disk parent attempts (attempt + 1)
    else (disk.write path [], .ok path)

/-- The most that one write is asked for, within the limit. -/
def remainingBytes (size offset : ℕ) : Option ℕ → ℕ
  | some limit => min (size - offset) (limit - offset)
  | none => size - offset

/-- The write loop: `offset` bytes are in the temporary and `call` writes have been made. -/
def writeBytes (sys : SystemCalls) (bytes : List UInt8) (writable : Option ℕ) (temporary : Path)
    (offset call : ℕ) (disk : Disk) : Disk × Except DurablePublishError Unit :=
  if offset < bytes.length then
    if writable.any (· ≤ offset) then (disk.remove temporary, .error .storageExhausted)
    else
      let remaining := remainingBytes bytes.length offset writable
      if sys.write call ≤ 0 then (disk.remove temporary, .error .writeFailed)
      else
        let written := min (sys.write call).toNat remaining
        writeBytes sys bytes writable temporary (offset + written) (call + 1)
          (disk.write temporary (bytes.take (offset + written)))
  else (disk, .ok ())
termination_by bytes.length - offset
decreasing_by
  cases writable with
  | none => dsimp only [written,remaining,remainingBytes]; omega
  | some limit => simp [remainingBytes] at *; omega

variable {Identity : Type} (identifyContent : List UInt8 → Identity)

/-- `publish_posix`. -/
def publishPosix (sys : SystemCalls) (disk : Disk) (target : Path) (bytes : List UInt8)
    (limits : DurablePublicationLimits) :
    Disk × Except DurablePublishError (DurablePublishedFile Identity) :=
  match createTemporary sys disk target.dropLast maxTemporaryAttempts 0 with
  | (disk, .error error) => (disk, .error error)
  | (disk, .ok temporary) =>
    match writeBytes sys bytes limits.writableBytes temporary 0 0 disk with
    | (disk, .error error) => (disk, .error error)
    | (disk, .ok ()) =>
      if limits.stop = .beforeFlush then (disk.remove temporary, .error .interruptedBeforeFlush)
      else if ¬sys.fsync then (disk.remove temporary, .error .flushFailed)
      else if ¬sys.close then (disk.remove temporary, .error .flushFailed)
      else if limits.stop = .afterFlush then
        (disk.remove temporary, .error .interruptedAfterFlush)
      else if ¬sys.rename then (disk.remove temporary, .error .publishFailed)
      else
        let disk := disk.rename temporary target
        if ¬sys.parentOpen ∨ ¬sys.parentFsync then (disk, .error .flushFailed)
        else if ¬sys.parentClose then (disk, .error .flushFailed)
        else (disk, .ok { path := target, identity := identifyContent bytes })

/-- `publish_durable_file`. -/
def publishDurableFile (sys : SystemCalls) (disk : Disk) (target : Path) (bytes : List UInt8)
    (limits : DurablePublicationLimits := {}) :
    Disk × Except DurablePublishError (DurablePublishedFile Identity) :=
  if ¬validTarget sys disk target then (disk, .error .invalidTarget)
  else publishPosix identifyContent sys disk target bytes limits

section Disk
variable (disk : Disk) {path : Path}

@[simp] lemma Disk.write_write (path : Path) (first second : List UInt8) :
    (disk.write path first).write path second = disk.write path second :=
  Function.update_idem _ _ _

/-- Removing a created file gives the disk it was created on. -/
lemma Disk.remove_write (hnew : disk path = none) (content : List UInt8) :
    (disk.write path content).remove path = disk := by
  rw [write,remove,Function.update_idem,← hnew,Function.update_eq_self]

lemma Disk.rename_write (hnew : disk path = none) (content : List UInt8) (target : Path) :
    (disk.write path content).rename path target = disk.write target content := by
  unfold rename write
  split_ifs with hsame
  · rw [hsame]
  · rw [Function.update_self,Function.update_comm (Ne.symm hsame),Function.update_idem,← hnew,
      Function.update_eq_self]

end Disk

section Specification
variable (sys : SystemCalls) (disk : Disk)

/-- The name that an attempt of the publication proposes. -/
def SystemCalls.temporary (parent : Path) (attempt : ℕ) : Path :=
  temporaryPath parent sys.process (sys.sequence attempt)

/-- The attempt finds its name taken, and the next one is made. -/
def SystemCalls.Collides (parent : Path) (attempt : ℕ) : Prop :=
  sys.create attempt ≠ .denied ∧
    (sys.create attempt = .exists_ ∨ disk (sys.temporary parent attempt) ≠ none)

/-- One of the attempts from `first` on creates its temporary after collisions alone. -/
def SystemCalls.Opens (parent : Path) (attempts first : ℕ) : Prop :=
  ∃ i < attempts, (∀ j < i, sys.Collides disk parent (first + j)) ∧
    sys.create (first + i) = .opened ∧ disk (sys.temporary parent (first + i)) = none

/-- The limit admits the bytes and, from the call `first` on, positive writes complete them. -/
def SystemCalls.Writes (bytes : List UInt8) (writable : Option ℕ) (offset first : ℕ) : Prop :=
  (∀ limit ∈ writable, bytes.length ≤ max offset limit) ∧
    ∃ calls, (∀ i < calls, 0 < sys.write (first + i)) ∧
      bytes.length ≤ offset + ∑ i ∈ Finset.range calls, (sys.write (first + i)).toNat

lemma SystemCalls.opens_collides {parent : Path} {attempts first : ℕ}
    (hcollides : sys.Collides disk parent first) :
    sys.Opens disk parent (attempts + 1) first ↔ sys.Opens disk parent attempts (first + 1) := by
  constructor
  · rintro ⟨i,hi,hbefore,hopened,hfree⟩
    cases i with
    | zero =>
      rcases hcollides.2 with hexists | htaken
      · simp [hexists] at hopened
      · exact absurd hfree htaken
    | succ i =>
      have hshift : ∀ k, first + 1 + k = first + (k + 1) := by omega
      exact ⟨i,by omega,fun j hj => hshift j ▸ hbefore (j+1) (by omega),hshift i ▸ hopened,
        hshift i ▸ hfree⟩
  · rintro ⟨i,hi,hbefore,hopened,hfree⟩
    have hshift : ∀ k, first + (k + 1) = first + 1 + k := by omega
    refine ⟨i+1,by omega,?_,hshift i ▸ hopened,hshift i ▸ hfree⟩
    intro j hj
    cases j with
    | zero => exact hcollides
    | succ j => exact hshift j ▸ hbefore j (by omega)

/-- The creation leaves the disk alone or adds one new empty file. -/
lemma createTemporary_spec (parent : Path) (attempts first : ℕ) :
    (¬sys.Opens disk parent attempts first ∧
      ∃ error, createTemporary sys disk parent attempts first = (disk,.error error)) ∨
    (sys.Opens disk parent attempts first ∧ ∃ path, disk path = none ∧
      createTemporary sys disk parent attempts first = (disk.write path [],.ok path)) := by
  induction attempts generalizing first with
  | zero => exact Or.inl ⟨fun ⟨i,hi,_⟩ => by omega,_,rfl⟩
  | succ attempts ih =>
    unfold createTemporary
    dsimp only
    split_ifs with hdenied htaken
    · refine Or.inl ⟨?_,_,rfl⟩
      rintro ⟨i,hi,hbefore,hopened,hfree⟩
      cases i with
      | zero => simp [hdenied] at hopened
      | succ i => exact (hbefore 0 (by omega)).1 hdenied
    · have hcollides : sys.Collides disk parent first :=
        ⟨hdenied,htaken.imp_right Option.isSome_iff_ne_none.mp⟩
      rw [sys.opens_collides disk hcollides]
      exact ih (first+1)
    · rw [not_or,Option.not_isSome_iff_eq_none] at htaken
      have hopened : sys.create first = .opened := by
        cases hcreate : sys.create first with
        | opened => rfl
        | exists_ => exact absurd hcreate htaken.1
        | denied => exact absurd hcreate hdenied
      exact Or.inr ⟨⟨0,by omega,fun j hj => by omega,hopened,htaken.2⟩,_,htaken.2,rfl⟩

lemma SystemCalls.writes_next {bytes : List UInt8} {writable : Option ℕ} {offset first : ℕ}
    (hoffset : offset < bytes.length) (hroom : ∀ limit ∈ writable, offset < limit)
    (hpositive : 0 < sys.write first) :
    sys.Writes bytes writable offset first ↔
      sys.Writes bytes writable
        (offset + min (sys.write first).toNat (remainingBytes bytes.length offset writable))
        (first + 1) := by
  have hshift : ∀ k, first + (k + 1) = first + 1 + k := by omega
  have hlimit : (∀ limit ∈ writable, bytes.length ≤ max offset limit) ↔ ∀ limit ∈ writable,
      bytes.length ≤ max (offset + min (sys.write first).toNat
        (remainingBytes bytes.length offset writable)) limit := by
    cases writable with
    | none => simp
    | some limit =>
      have := hroom limit rfl
      simp only [Option.mem_def,Option.some.injEq,forall_eq',remainingBytes] at *
      omega
  have hsplit : ∀ n, ∑ i ∈ Finset.range (n+1), (sys.write (first + i)).toNat =
      (∑ i ∈ Finset.range n, (sys.write (first + 1 + i)).toNat) + (sys.write first).toNat := by
    intro n
    rw [Finset.sum_range_succ',Nat.add_zero]
    exact congrArg (· + _) (Finset.sum_congr rfl fun i _ => by rw [hshift])
  unfold Writes
  rw [hlimit]
  refine and_congr_right fun hfits => ?_
  have hremaining : remainingBytes bytes.length offset writable = bytes.length - offset := by
    cases writable with
    | none => rfl
    | some limit =>
      have := hlimit.mpr hfits limit rfl
      have := hroom limit rfl
      simp only [remainingBytes]
      omega
  constructor
  · rintro ⟨calls,hcalls,hsum⟩
    cases calls with
    | zero => simp at hsum; omega
    | succ calls =>
      refine ⟨calls,fun i hi => hshift i ▸ hcalls (i+1) (by omega),?_⟩
      rw [hsplit] at hsum
      omega
  · rintro ⟨calls,hcalls,hsum⟩
    refine ⟨calls+1,?_,?_⟩
    · intro i hi
      cases i with
      | zero => exact hpositive
      | succ i => exact hshift i ▸ hcalls i (by omega)
    · rw [hsplit]
      omega

/-- The write loop leaves the whole content in the temporary, or no temporary at all. -/
lemma writeBytes_spec {path : Path} (hnew : disk path = none) (bytes : List UInt8)
    (writable : Option ℕ) (offset call : ℕ) :
    (¬sys.Writes bytes writable offset call ∧ ∃ error,
      writeBytes sys bytes writable path offset call (disk.write path (bytes.take offset)) =
        (disk,.error error)) ∨
    (sys.Writes bytes writable offset call ∧
      writeBytes sys bytes writable path offset call (disk.write path (bytes.take offset)) =
        (disk.write path bytes,.ok ())) := by
  induction hleft : bytes.length - offset using Nat.strong_induction_on generalizing offset call with
  | _ left ih =>
    unfold writeBytes
    split_ifs with hmore hfull hfailed
    · refine Or.inl ⟨?_,_,by rw [disk.remove_write hnew]⟩
      rintro ⟨hlimit,-⟩
      obtain ⟨limit,hl,hle⟩ : ∃ limit, writable = some limit ∧ limit ≤ offset := by
        cases writable with
        | none => simp at hfull
        | some limit => exact ⟨limit,rfl,by simpa using hfull⟩
      have := hlimit limit hl
      omega
    · refine Or.inl ⟨?_,_,by rw [disk.remove_write hnew]⟩
      rintro ⟨-,calls,hcalls,hsum⟩
      cases calls with
      | zero => simp at hsum; omega
      | succ calls => exact absurd (hcalls 0 (by omega)) (by simpa using hfailed)
    · have hroom : ∀ limit ∈ writable, offset < limit := by
        rintro limit rfl
        simpa using hfull
      have hpositive : 0 < remainingBytes bytes.length offset writable := by
        cases writable with
        | none => simp only [remainingBytes]; omega
        | some limit => have := hroom limit rfl; simp only [remainingBytes]; omega
      dsimp only
      rw [Disk.write_write,sys.writes_next hmore hroom (Int.not_le.mp hfailed)]
      exact ih _ (by omega) _ _ rfl
    · rw [List.take_of_length_le (by omega)]
      exact Or.inr ⟨⟨fun limit _ => by omega,0,by omega,by omega⟩,rfl⟩

variable (target : Path) (bytes : List UInt8) (limits : DurablePublicationLimits)

/-- The temporary is created, written whole, flushed, closed and renamed, with no stop asked for. -/
structure SystemCalls.Replaces : Prop where
  opens : sys.Opens disk target.dropLast maxTemporaryAttempts 0
  writes : sys.Writes bytes limits.writableBytes 0 0
  stop : limits.stop = .none
  fsync : sys.fsync = true
  close : sys.close = true
  rename : sys.rename = true

/-- The parent directory is opened, flushed and closed. -/
def SystemCalls.FlushesParent : Prop :=
  sys.parentOpen = true ∧ sys.parentFsync = true ∧ sys.parentClose = true

lemma publishPosix_spec :
    (¬sys.Replaces disk target bytes limits ∧
      ∃ error, publishPosix identifyContent sys disk target bytes limits = (disk,.error error)) ∨
    (sys.Replaces disk target bytes limits ∧ ∃ result,
      publishPosix identifyContent sys disk target bytes limits =
        (disk.write target bytes,result) ∧
      ((∃ file, result = .ok file) ↔ sys.FlushesParent)) := by
  unfold publishPosix
  rcases createTemporary_spec sys disk target.dropLast maxTemporaryAttempts 0 with
    ⟨hopens,error,hcreate⟩ | ⟨hopens,path,hnew,hcreate⟩
  · rw [hcreate]
    exact Or.inl ⟨fun h => hopens h.opens,_,rfl⟩
  rw [hcreate]
  have hwritten := writeBytes_spec sys disk hnew bytes limits.writableBytes 0 0
  rw [List.take_zero] at hwritten
  dsimp only
  rcases hwritten with ⟨hwrites,error,hwrite⟩ | ⟨hwrites,hwrite⟩
  · rw [hwrite]
    exact Or.inl ⟨fun h => hwrites h.writes,_,rfl⟩
  rw [hwrite]
  dsimp only
  rw [disk.remove_write hnew,disk.rename_write hnew]
  -- The remaining calls, in the order the publication makes them.
  split_ifs with hbefore hfsync hclose hafter hrename hparent hparentClose
  · exact Or.inl ⟨fun h => by simp [h.stop] at hbefore,_,rfl⟩
  · exact Or.inl ⟨fun h => by simp [h.stop] at hafter,_,rfl⟩
  rotate_left 3
  · exact Or.inl ⟨fun h => hrename h.rename,_,rfl⟩
  · exact Or.inl ⟨fun h => hclose h.close,_,rfl⟩
  · exact Or.inl ⟨fun h => hfsync h.fsync,_,rfl⟩
  all_goals
    have hstop : limits.stop = .none := by
      cases hs : limits.stop with
      | none => rfl
      | beforeFlush => exact absurd hs hbefore
      | afterFlush => exact absurd hs hafter
    refine Or.inr ⟨⟨hopens,hwrites,hstop,hfsync,hclose,hrename⟩,_,rfl,?_⟩
    unfold SystemCalls.FlushesParent
  · exact ⟨fun ⟨_,h⟩ => (nomatch h),fun h => (hparent.elim (· h.1) (· h.2.1)).elim⟩
  · rw [not_or,not_not,not_not] at hparent
    exact ⟨fun _ => ⟨hparent.1,hparent.2,hparentClose⟩,fun _ => ⟨_,rfl⟩⟩
  · exact ⟨fun ⟨_,h⟩ => (nomatch h),fun h => absurd h.2.2 hparentClose⟩

end Specification

/-- A publication leaves the disk as it was and fails, or it leaves the bytes under the target. -/
lemma publishDurableFile_cases (sys : SystemCalls) (disk : Disk) (target : Path) (bytes : List UInt8)
    (limits : DurablePublicationLimits) :
    (∃ error, publishDurableFile identifyContent sys disk target bytes limits = (disk,.error error)) ∨
      ∃ result, publishDurableFile identifyContent sys disk target bytes limits =
        (disk.write target bytes,result) := by
  unfold publishDurableFile
  split_ifs
  · rcases publishPosix_spec identifyContent sys disk target bytes limits with
      ⟨-,error,hresult⟩ | ⟨-,result,hresult,-⟩
    · exact Or.inl ⟨error,hresult⟩
    · exact Or.inr ⟨result,hresult⟩
  · exact Or.inl ⟨_,rfl⟩

/-- What a publication owes its caller: after an error the target is as it was and no temporary
of the publication is new; after a success the target holds exactly the bytes. -/
def Honoured (sys : SystemCalls) (target : Path) (bytes : List UInt8) (before : Disk) :
    Disk × Except DurablePublishError (DurablePublishedFile Identity) → Prop
  | (after,.error _) => after target = before target ∧
      ∀ attempt, after (sys.temporary target.dropLast attempt) =
        before (sys.temporary target.dropLast attempt)
  | (after,.ok _) => after target = some (.regular bytes)

/-- A publication honours its contract exactly when the parent directory is flushed whenever the
rename has replaced another content. -/
theorem publish_honoured_iff (sys : SystemCalls) (disk : Disk) (target : Path)
    (bytes : List UInt8) (limits : DurablePublicationLimits) :
    Honoured sys target bytes disk (publishDurableFile identifyContent sys disk target bytes limits) ↔
      (validTarget sys disk target = true → sys.Replaces disk target bytes limits →
        disk target ≠ some (.regular bytes) → sys.FlushesParent) := by
  unfold publishDurableFile
  split_ifs with hvalid
  rotate_left
  · exact ⟨fun _ h => absurd h hvalid,fun _ => ⟨rfl,fun _ => rfl⟩⟩
  rcases publishPosix_spec identifyContent sys disk target bytes limits with
    ⟨hkept,error,hresult⟩ | ⟨hreplaces,result,hresult,hflushed⟩
  · rw [hresult]
    exact ⟨fun _ _ h => absurd h hkept,fun _ => ⟨rfl,fun _ => rfl⟩⟩
  rw [hresult]
  have hwritten : disk.write target bytes target = some (.regular bytes) := Function.update_self ..
  cases result with
  | ok file => exact ⟨fun _ _ _ _ => hflushed.mp ⟨file,rfl⟩,fun _ => hwritten⟩
  | error error =>
    have hunflushed : ¬sys.FlushesParent := fun h => nomatch hflushed.mpr h
    constructor
    · rintro ⟨htarget,-⟩ - - hother
      exact absurd (htarget.symm.trans hwritten) hother
    · intro hsame
      have hheld : disk target = some (.regular bytes) := by
        by_contra hother
        exact hunflushed (hsame hvalid hreplaces hother)
      have hdisk : disk.write target bytes = disk := by
        rw [Disk.write,← hheld,Function.update_eq_self]
      exact ⟨by rw [hdisk],fun _ => by rw [hdisk]⟩

/-- A directory with the previous content of its ledger. -/
def ledgerDisk : Disk := fun path =>
  if path = ["runs"] then some .directory
  else if path = ["runs","ledger.toml"] then some (.regular [1]) else none

/-- Every call succeeds but the flush of the parent directory. -/
def unflushedParent : SystemCalls :=
  { process := 7, sequence := fun _ => 1, write := fun _ => 9, parentFsync := false }

/-- The parent directory cannot be flushed after the rename: the publication fails and the target
holds the new content. -/
theorem unflushed_parent_replaces :
    validTarget unflushedParent ledgerDisk ["runs","ledger.toml"] = true ∧
      ¬Honoured unflushedParent ["runs","ledger.toml"] [2,3] ledgerDisk
        (publishDurableFile List.length unflushedParent ledgerDisk ["runs","ledger.toml"] [2,3]) := by
  have hvalid : validTarget unflushedParent ledgerDisk ["runs","ledger.toml"] = true := by decide
  have hfree : ledgerDisk (temporaryPath ["runs"] 7 1) = none := by decide
  refine ⟨hvalid,?_⟩
  have hcreate : createTemporary unflushedParent ledgerDisk ["runs"] maxTemporaryAttempts 0 =
      (ledgerDisk.write (temporaryPath ["runs"] 7 1) [],.ok (temporaryPath ["runs"] 7 1)) := by
    simp [createTemporary,maxTemporaryAttempts,unflushedParent,hfree]
  have hresult : publishDurableFile List.length unflushedParent ledgerDisk ["runs","ledger.toml"] [2,3] =
      (ledgerDisk.write ["runs","ledger.toml"] [2,3],.error .flushFailed) := by
    simp [publishDurableFile,hvalid,publishPosix,hcreate]
    simp [writeBytes,remainingBytes,unflushedParent,Disk.rename_write,hfree]
  rw [hresult]
  rintro ⟨htarget,-⟩
  exact absurd htarget (by decide)

end AytherRuntime.Storage
