import AytherRuntime.Library.Codec
import AytherRuntime.Player.Config
import Mathlib.Data.List.Basic

/-! Two savers that move the old file aside, the new one into its place and then clean up. -/
namespace AytherRuntime.Storage
open Codec

section Files
variable {γ ρ : Type}

/-- A file with the temporary and the backup beside it. -/
structure Slot (γ : Type) where
  target : Option γ := none
  temporary : Option γ := none
  backup : Option γ := none
  deriving DecidableEq, Repr

namespace Slot
variable (slot : Slot γ)

def removeTemporary : Slot γ := { slot with temporary := none }

def removeBackup : Slot γ := { slot with backup := none }

def setAside : Slot γ := { slot with target := none, backup := slot.target }

def publish : Slot γ := { slot with target := slot.temporary, temporary := none }

def rollBack : Slot γ := { slot with target := slot.backup, backup := none }

end Slot

/-- What comes of an operation: a failed one has no effect, and a crash stops the saver before it. -/
inductive Outcome
  | done | failed | crashed
  deriving DecidableEq, Repr

/-- The outcome of every operation of one save. -/
structure SaveCalls (γ : Type) where
  directories : Outcome := .done
  removeLeftover : Outcome := .done
  opened : Outcome := .done
  written : Outcome := .done
  /-- What is in the temporary where its writing failed or was cut. -/
  left : Option γ := none
  readBack : Outcome := .done
  queried : Outcome := .done
  removeBackup : Outcome := .done
  setAside : Outcome := .done
  publish : Outcome := .done
  rollBack : Outcome := .done
  cleanUp : Outcome := .done
  removeOld : Outcome := .done
  /-- The saver comes to its return after its last operation. -/
  returns : Bool := true
  deriving DecidableEq, Repr

/-- The files after a save, and what it returned unless it crashed. -/
abbrev Saving (γ ρ : Type) := Slot γ × Option ρ

/-- An operation, and what the saver does next. -/
def Outcome.run (outcome : Outcome) (slot : Slot γ) (effect : Slot γ → Slot γ)
    (next : Bool → Slot γ → Saving γ ρ) : Saving γ ρ :=
  match outcome with
  | .done => next true (effect slot)
  | .failed => next false slot
  | .crashed => (slot,none)

/-- The writing of the temporary, from its opening to its closing. -/
def SaveCalls.write (calls : SaveCalls γ) (content : γ) (slot : Slot γ)
    (next : Bool → Slot γ → Saving γ ρ) : Saving γ ρ :=
  match calls.written with
  | .done => next true { slot with temporary := some content }
  | .failed => next false { slot with temporary := calls.left }
  | .crashed => ({ slot with temporary := calls.left },none)

/-- The end of a save that failed: the temporary is removed. -/
def SaveCalls.fail (calls : SaveCalls γ) (slot : Slot γ) : Saving γ Bool :=
  calls.cleanUp.run slot Slot.removeTemporary fun _ slot => (slot,some false)

/-- The new file goes into its place, or else the old one back into it. -/
def SaveCalls.publishTemporary (calls : SaveCalls γ) (always hadPrevious : Bool) (slot : Slot γ) : Saving γ Bool :=
  calls.publish.run slot Slot.publish fun published slot =>
    if published then
      if always || hadPrevious then calls.removeOld.run slot Slot.removeBackup fun _ slot => (slot,some true)
      else (slot,some true)
    else if hadPrevious then calls.rollBack.run slot Slot.rollBack fun _ slot => calls.fail slot
    else calls.fail slot

/-- The old file goes aside, where there is one. -/
def SaveCalls.replace (calls : SaveCalls γ) (always hadPrevious : Bool) (slot : Slot γ) : Saving γ Bool :=
  if hadPrevious then
    calls.setAside.run slot Slot.setAside fun aside slot =>
      if aside then calls.publishTemporary always hadPrevious slot else calls.fail slot
  else calls.publishTemporary always hadPrevious slot

/-- The temporary takes the place of the target. A backup is removed before, `always` or only where it is needed. -/
def SaveCalls.replaceTarget (calls : SaveCalls γ) (always : Bool) (slot : Slot γ) : Saving γ Bool :=
  let hadPrevious := slot.target.isSome
  if always || hadPrevious then
    calls.removeBackup.run slot Slot.removeBackup fun _ slot => calls.replace always hadPrevious slot
  else calls.replace always hadPrevious slot

end Files

section Music

structure MusicStateBundle where
  gameState : Bytes := []
  hdState : Bytes := []
  packRevision : Bytes := []
  deriving DecidableEq, Repr

inductive MusicStateBundleStatus
  | saved | loaded | missing | invalid | unsupportedVersion | ioError
  deriving DecidableEq, Repr

inductive MusicStateBundleFault
  | none | diskFull | beforePublish
  deriving DecidableEq, Repr

structure MusicStateBundleResult where
  status : MusicStateBundleStatus := .invalid
  bundle : MusicStateBundle := {}
  deriving DecidableEq, Repr

namespace MusicStateBundle

def version : ℕ := 1

/-- "AYMUSICS" -/
def magic : Bytes := [65,89,77,85,83,73,67,83]

def checksum (bytes : Bytes) : UInt32 :=
  bytes.foldl (fun value byte => (value ^^^ byte.toUInt32) * 16777619) 2166136261

def encode (bundle : MusicStateBundle) : Bytes :=
  let payload := bundle.gameState ++ bundle.hdState ++ bundle.packRevision
  magic ++ writeLe 4 version ++ writeLe 8 bundle.gameState.length ++
    writeLe 8 bundle.hdState.length ++ writeLe 4 bundle.packRevision.length ++
    writeLe 4 (checksum payload).toNat ++ payload

/-- `read` of a number of some bytes at an offset. -/
def readAt (width offset : ℕ) (bytes : Bytes) : ℕ := fromLe ((bytes.drop offset).take width)

def decode (bytes : Bytes) : MusicStateBundleResult :=
  let header := 8 + 4 + 8 + 8 + 4 + 4
  if bytes.length < header ∨ bytes.take 8 ≠ magic then { status := .invalid }
  else if readAt 4 8 bytes ≠ version then { status := .unsupportedVersion }
  else
    let gameSize := readAt 8 12 bytes
    let hdSize := readAt 8 20 bytes
    let packSize := readAt 4 28 bytes
    let payload := bytes.drop header
    if (gameSize + hdSize + packSize) % 2 ^ 64 ≠ bytes.length - header then { status := .invalid }
    else if (checksum payload).toNat ≠ readAt 4 32 bytes then { status := .invalid }
    else
      ⟨.loaded,payload.take gameSize,(payload.drop gameSize).take hdSize,
        (payload.drop (gameSize + hdSize)).take packSize⟩

end MusicStateBundle

/-- `MusicStateBundleStore::load`, of a file that can be read. -/
def musicStateLoad (slot : Slot Bytes) : MusicStateBundleResult :=
  match slot.target with
  | none => { status := .missing }
  | some bytes => MusicStateBundle.decode bytes

/-- `MusicStateBundleStore::save` -/
def musicStateSave (fault : MusicStateBundleFault) (calls : SaveCalls Bytes) (bundle : MusicStateBundle)
    (slot : Slot Bytes) :
    Saving Bytes MusicStateBundleStatus :=
  if fault = .diskFull ∨ bundle.gameState = [] ∨ bundle.hdState = [] ∨ bundle.packRevision = [] then
    (slot,some (if fault = .diskFull then .ioError else .invalid))
  else
    calls.directories.run slot id fun created slot =>
      if !created then (slot,some .ioError)
      else
        let replaced := calls.write bundle.encode slot fun written slot =>
          if !written ∨ fault = .beforePublish then calls.fail slot
          else
            calls.readBack.run slot id fun read slot =>
              if !read ∨ (MusicStateBundle.decode bundle.encode).status ≠ .loaded then calls.fail slot
              else
                match calls.queried with
                -- `exists` throws here.
                | .failed | .crashed => (slot,none)
                | .done => calls.replaceTarget true slot
        (replaced.1,replaced.2.map fun saved => if saved then .saved else .ioError)

end Music

section Player
open Player
variable {F : Type} (format : FloatText F)

/-- `player_config_load_checked`, of a file that can be read. -/
def playerConfigLoad (slot : Slot (List Char)) : PlayerConfigLoadResult F :=
  match slot.target with
  | none => playerConfigLoadChecked format .absent
  | some text => playerConfigLoadChecked format (.content text false)

/-- `player_config_save`, of a file with a parent path or without one. -/
def playerConfigSave (fault : PlayerConfigSaveFault) (hasParent : Bool) (calls : SaveCalls (List Char))
    (config : PlayerConfig F) (slot : Slot (List Char)) : Saving (List Char) Bool :=
  if config.busGain.toList.any (!format.inUnit ·) ∨ fault = .diskFull then (slot,some false)
  else
    let save := fun slot : Slot (List Char) =>
      calls.removeLeftover.run slot Slot.removeTemporary fun _ slot =>
        calls.opened.run slot id fun opened slot =>
          if !opened then (slot,some false)
          else
            calls.write (configText format config) slot fun written slot =>
              if !written ∨ fault = .beforePublish then calls.fail slot
              else
                calls.queried.run slot id fun queried slot =>
                  if !queried then calls.fail slot else calls.replaceTarget false slot
    if hasParent then
      calls.directories.run slot id fun created slot => if !created then (slot,some false) else save slot
    else save slot

end Player
end AytherRuntime.Storage
