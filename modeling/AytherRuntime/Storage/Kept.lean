import AytherRuntime.Library.Machine
import AytherRuntime.Storage.Savers
import Mathlib.Tactic.SplitIfs

/-! The version that a load finds after any saves, failed or cut by a crash: the last one that was saved, or one that
was being saved since. -/
namespace AytherRuntime.Storage
open Codec Machine

section Replacement
variable {γ : Type} {calls : SaveCalls γ} {slot : Slot γ} {content : γ} {always : Bool}

/-- The target after a save that left a file there: the new content where the save succeeded, the old one where it
failed, and one of the two after a crash. -/
def Swapped (before : Option γ) (content : γ) (result : Saving γ Bool) : Prop :=
  match result.2 with
  | some true => result.1.target = some content
  | some false => result.1.target = before
  | none => result.1.target = before ∨ result.1.target = some content

/-- Once the old file is aside, the new one goes into its place, or the old one back. -/
def SaveCalls.Uncut (calls : SaveCalls γ) : Prop :=
  calls.publish ≠ .crashed ∧ (calls.publish = .failed → calls.rollBack = .done)

/-- The save moves an old file aside. -/
def SaveCalls.MovesAside (calls : SaveCalls γ) (slot : Slot γ) : Prop :=
  slot.target ≠ none ∧ calls.removeBackup ≠ .crashed ∧ calls.setAside = .done

lemma fail_swapped (calls : SaveCalls γ) (content : γ) (slot : Slot γ) :
    Swapped slot.target content (calls.fail slot) := by
  unfold SaveCalls.fail Outcome.run
  split
  · exact rfl
  · exact rfl
  · exact Or.inl rfl

lemma publishTemporary_swapped {before : Option γ} {hadPrevious : Bool} (htemporary : slot.temporary = some content)
    (hold : (if hadPrevious then slot.backup else slot.target) = before)
    (huncut : hadPrevious = true → calls.Uncut) :
    Swapped before content (calls.publishTemporary always hadPrevious slot) := by
  have hpublished : slot.publish.target = some content := htemporary
  unfold SaveCalls.publishTemporary
  cases hpublish : calls.publish with
  | done =>
    dsimp only [Outcome.run]
    rw [if_pos rfl]
    split_ifs
    · split
      · exact hpublished
      · exact hpublished
      · exact Or.inr hpublished
    · exact hpublished
  | failed =>
    dsimp only [Outcome.run]
    rw [if_neg (by decide)]
    split_ifs with hprevious
    · rw [if_pos hprevious] at hold
      rw [(huncut hprevious).2 hpublish,← hold]
      exact fail_swapped calls content slot.rollBack
    · rw [if_neg hprevious] at hold
      rw [← hold]
      exact fail_swapped calls content slot
  | crashed =>
    dsimp only [Outcome.run]
    by_cases hprevious : hadPrevious = true
    · exact absurd hpublish (huncut hprevious).1
    · rw [if_neg hprevious] at hold
      exact Or.inl hold

lemma replace_swapped (htemporary : slot.temporary = some content)
    (huncut : slot.target ≠ none → calls.setAside = .done → calls.Uncut) :
    Swapped slot.target content (calls.replace always slot.target.isSome slot) := by
  unfold SaveCalls.replace
  by_cases hprevious : slot.target.isSome = true
  · rw [if_pos hprevious]
    cases haside : calls.setAside with
    | done =>
      dsimp only [Outcome.run]
      rw [if_pos rfl]
      refine publishTemporary_swapped htemporary ?_ fun _ => huncut (Option.isSome_iff_ne_none.mp hprevious) haside
      rw [if_pos hprevious]
      rfl
    | failed => exact fail_swapped calls content slot
    | crashed => exact Or.inl rfl
  · rw [if_neg hprevious]
    refine publishTemporary_swapped htemporary ?_ fun hprevious' => absurd hprevious' hprevious
    rw [if_neg hprevious]

lemma replaceTarget_swapped (htemporary : slot.temporary = some content)
    (huncut : calls.MovesAside slot → calls.Uncut) :
    Swapped slot.target content (calls.replaceTarget always slot) := by
  unfold SaveCalls.replaceTarget
  dsimp only
  split_ifs with hremoves
  · cases hremove : calls.removeBackup with
    | done =>
      refine @replace_swapped _ calls slot.removeBackup content always htemporary fun hprevious haside => ?_
      exact huncut ⟨hprevious,by rw [hremove]; decide,haside⟩
    | failed =>
      refine replace_swapped htemporary fun hprevious haside => ?_
      exact huncut ⟨hprevious,by rw [hremove]; decide,haside⟩
    | crashed => exact Or.inl rfl
  · refine replace_swapped htemporary fun hprevious haside => ?_
    simp only [Bool.or_eq_true,not_or,Option.isSome_iff_ne_none] at hremoves
    exact absurd hprevious hremoves.2

end Replacement

section Bundle

/-- A number of any size is read as what fits into its width. -/
lemma fromLe_writeLe_mod (width n : ℕ) : fromLe (writeLe width n) = n % 256 ^ width := by
  induction width generalizing n with
  | zero => rw [pow_zero,Nat.mod_one]; rfl
  | succ width ih =>
    rw [writeLe,fromLe,ih,UInt8.toNat_ofNat',pow_succ' 256 width,Nat.mod_mul]

lemma readAt_append {front rest : Bytes} {width offset n : ℕ} (hfront : front.length = offset) :
    MusicStateBundle.readAt width offset (front ++ (writeLe width n ++ rest)) = n % 256 ^ width := by
  unfold MusicStateBundle.readAt
  rw [← hfront,List.drop_left,List.take_left' (length_writeLe width n),fromLe_writeLe_mod]

/-- A bundle whose bytes can be loaded is loaded whole. -/
lemma decode_encode {bundle : MusicStateBundle} (h : (MusicStateBundle.decode bundle.encode).status = .loaded) :
    MusicStateBundle.decode bundle.encode = ⟨.loaded,bundle⟩ := by
  obtain ⟨game,hd,pack⟩ := bundle
  generalize hpayload : game ++ hd ++ pack = payload
  have hbytes : MusicStateBundle.encode ⟨game,hd,pack⟩ = MusicStateBundle.magic ++ writeLe 4 MusicStateBundle.version ++
      writeLe 8 game.length ++ writeLe 8 hd.length ++ writeLe 4 pack.length ++
        writeLe 4 (MusicStateBundle.checksum payload).toNat ++ payload := by
    rw [← hpayload]
    rfl
  have hlength : (MusicStateBundle.encode ⟨game,hd,pack⟩).length = 36 + payload.length := by
    rw [hbytes]
    simp [MusicStateBundle.magic]
    omega
  have hgame : MusicStateBundle.readAt 8 12 (MusicStateBundle.encode ⟨game,hd,pack⟩) = game.length % 2 ^ 64 := by
    rw [hbytes]
    simp only [List.append_assoc]
    rw [← List.append_assoc MusicStateBundle.magic]
    exact readAt_append (by simp [MusicStateBundle.magic])
  have hhd : MusicStateBundle.readAt 8 20 (MusicStateBundle.encode ⟨game,hd,pack⟩) = hd.length % 2 ^ 64 := by
    rw [hbytes,List.append_assoc,List.append_assoc,List.append_assoc]
    exact readAt_append (by simp [MusicStateBundle.magic])
  have hpack : MusicStateBundle.readAt 4 28 (MusicStateBundle.encode ⟨game,hd,pack⟩) = pack.length % 2 ^ 32 := by
    rw [hbytes,List.append_assoc,List.append_assoc]
    exact readAt_append (by simp [MusicStateBundle.magic])
  have hdrop : (MusicStateBundle.encode ⟨game,hd,pack⟩).drop 36 = payload := by
    rw [hbytes]
    exact List.drop_left' (by simp [MusicStateBundle.magic])
  have htotal : payload.length = game.length + hd.length + pack.length := by
    rw [← hpayload,List.length_append,List.length_append]
  unfold MusicStateBundle.decode at h ⊢
  dsimp only at h ⊢
  rw [hgame,hhd,hpack,hdrop,hlength,htotal] at h ⊢
  split_ifs at h ⊢ with hheader hversion hsize hsum
  -- The sizes agree with the length only where none of them was cut.
  have hsizes : game.length % 2 ^ 64 = game.length ∧ hd.length % 2 ^ 64 = hd.length ∧
      pack.length % 2 ^ 32 = pack.length := by omega
  rw [hsizes.1,hsizes.2.1,hsizes.2.2,← hpayload]
  simp

end Bundle

section Saves
variable {γ : Type} {calls : SaveCalls γ} {slot : Slot γ}

/-- The target was not touched, and the save did not succeed. -/
def Unmoved (before : Option γ) (result : Saving γ Bool) : Prop := result.1.target = before ∧ result.2 ≠ some true

lemma Unmoved.swapped {before : Option γ} {result : Saving γ Bool} (h : Unmoved before result) (content : γ) :
    Swapped before content result := by
  obtain ⟨slot,returned⟩ := result
  rcases returned with _ | _ | _
  · exact Or.inl h.1
  · exact h.1
  · exact absurd rfl h.2

lemma fail_unmoved (calls : SaveCalls γ) (slot : Slot γ) : Unmoved slot.target (calls.fail slot) := by
  unfold SaveCalls.fail Outcome.run
  split
  · exact ⟨rfl,fun h => by cases h⟩
  · exact ⟨rfl,fun h => by cases h⟩
  · exact ⟨rfl,fun h => by cases h⟩

/-- The second rename is come to, and done. -/
def SaveCalls.Replaces (calls : SaveCalls γ) (slot : Slot γ) : Prop :=
  (slot.target ≠ none → calls.removeBackup ≠ .crashed ∧ calls.setAside = .done) ∧ calls.publish = .done

lemma publishTemporary_unmoved {always hadPrevious : Bool} {before : Option γ}
    (hold : (if hadPrevious then slot.backup else slot.target) = before)
    (huncut : hadPrevious = true → calls.Uncut) (hpublish : calls.publish ≠ .done) :
    Unmoved before (calls.publishTemporary always hadPrevious slot) := by
  unfold SaveCalls.publishTemporary
  cases houtcome : calls.publish with
  | done => exact absurd houtcome hpublish
  | failed =>
    dsimp only [Outcome.run]
    rw [if_neg (by decide)]
    split_ifs with hprevious
    · rw [if_pos hprevious] at hold
      rw [(huncut hprevious).2 houtcome,← hold]
      exact fail_unmoved calls slot.rollBack
    · rw [if_neg hprevious] at hold
      rw [← hold]
      exact fail_unmoved calls slot
  | crashed =>
    by_cases hprevious : hadPrevious = true
    · exact absurd houtcome (huncut hprevious).1
    · rw [if_neg hprevious] at hold
      exact ⟨hold,fun h => by cases h⟩

lemma replace_unmoved {always : Bool} (huncut : slot.target ≠ none → calls.setAside = .done → calls.Uncut)
    (hnot : ¬((slot.target ≠ none → calls.setAside = .done) ∧ calls.publish = .done)) :
    Unmoved slot.target (calls.replace always slot.target.isSome slot) := by
  unfold SaveCalls.replace
  by_cases hprevious : slot.target.isSome = true
  · have hsome : slot.target ≠ none := Option.isSome_iff_ne_none.mp hprevious
    rw [if_pos hprevious]
    cases haside : calls.setAside with
    | done =>
      dsimp only [Outcome.run]
      rw [if_pos rfl]
      refine publishTemporary_unmoved ?_ (fun _ => huncut hsome haside) fun hdone => hnot ⟨fun _ => haside,hdone⟩
      rw [if_pos hprevious]
      rfl
    | failed => exact fail_unmoved calls slot
    | crashed => exact ⟨rfl,fun h => by cases h⟩
  · rw [if_neg hprevious]
    refine publishTemporary_unmoved (by rw [if_neg hprevious]) (fun hprevious' => absurd hprevious' hprevious) ?_
    exact fun hdone => hnot ⟨fun hsome => absurd (Option.isSome_iff_ne_none.mpr hsome) hprevious,hdone⟩

/-- A replacement that does not come through its second rename leaves what was there. -/
lemma replaceTarget_unmoved {always : Bool} (huncut : calls.MovesAside slot → calls.Uncut)
    (hnot : ¬calls.Replaces slot) : Unmoved slot.target (calls.replaceTarget always slot) := by
  unfold SaveCalls.replaceTarget
  dsimp only
  split_ifs with hremoves
  · cases hremove : calls.removeBackup with
    | done =>
      refine @replace_unmoved _ calls slot.removeBackup always (fun hprevious haside => ?_) fun hin => hnot ⟨?_,hin.2⟩
      · exact huncut ⟨hprevious,by rw [hremove]; decide,haside⟩
      · exact fun hprevious => ⟨by rw [hremove]; decide,hin.1 hprevious⟩
    | failed =>
      refine replace_unmoved (fun hprevious haside => ?_) fun hin => hnot ⟨?_,hin.2⟩
      · exact huncut ⟨hprevious,by rw [hremove]; decide,haside⟩
      · exact fun hprevious => ⟨by rw [hremove]; decide,hin.1 hprevious⟩
    | crashed => exact ⟨rfl,fun h => by cases h⟩
  · simp only [Bool.or_eq_true,not_or,Option.isSome_iff_ne_none] at hremoves
    refine replace_unmoved (fun hprevious _ => absurd hprevious hremoves.2) fun hin => hnot ⟨?_,hin.2⟩
    exact fun hprevious => absurd hprevious hremoves.2

structure MusicSave where
  bundle : MusicStateBundle
  fault : MusicStateBundleFault := .none
  calls : SaveCalls Bytes := {}

namespace MusicSave
variable (save : MusicSave) {slot : Slot Bytes}

def run (slot : Slot Bytes) : Saving Bytes Bool :=
  let saved := musicStateSave save.fault save.calls save.bundle slot
  (saved.1,saved.2.map fun status => decide (status = .saved))

/-- The save comes to the replacement of the target. -/
def Publishes : Prop :=
  save.fault = .none ∧ (save.bundle.gameState ≠ [] ∧ save.bundle.hdState ≠ [] ∧ save.bundle.packRevision ≠ []) ∧
    (save.calls.directories = .done ∧ save.calls.written = .done ∧ save.calls.readBack = .done ∧
      save.calls.queried = .done) ∧ (MusicStateBundle.decode save.bundle.encode).status = .loaded

/-- A save that moves an old file aside is not cut before a file is in its place again. -/
def Whole (slot : Slot Bytes) : Prop := save.Publishes → save.calls.MovesAside slot → save.calls.Uncut

/-- A save leaves the target alone, or comes to its replacement. -/
lemma run_cases (slot : Slot Bytes) : Unmoved slot.target (save.run slot) ∨ (save.Publishes ∧
    save.run slot = save.calls.replaceTarget true { slot with temporary := some save.bundle.encode }) := by
  obtain ⟨bundle,fault,calls⟩ := save
  have hnot : (!false) = true := rfl
  have hstatus : ∀ replaced : Saving Bytes Bool,
      ((replaced.1,(replaced.2.map fun saved =>
        if saved then MusicStateBundleStatus.saved else .ioError).map fun status => decide (status = .saved)) :
          Saving Bytes Bool) = replaced := by
    rintro ⟨slot,_ | _ | _⟩ <;> rfl
  unfold run musicStateSave
  dsimp only
  by_cases hrefused : fault = .diskFull ∨ bundle.gameState = [] ∨ bundle.hdState = [] ∨ bundle.packRevision = []
  · rw [if_pos hrefused]
    refine Or.inl ⟨rfl,?_⟩
    split_ifs <;> exact fun h => by cases h
  rw [if_neg hrefused]
  simp only [not_or] at hrefused
  obtain ⟨hdisk,hparts⟩ := hrefused
  cases hdirectories : calls.directories with
  | failed => exact Or.inl ⟨rfl,fun h => by cases h⟩
  | crashed => exact Or.inl ⟨rfl,fun h => by cases h⟩
  | done =>
    dsimp only [Outcome.run]
    rw [if_neg (by decide),hstatus]
    unfold SaveCalls.write
    cases hwritten : calls.written with
    | failed =>
      dsimp only [id]
      rw [if_pos (Or.inl hnot)]
      exact Or.inl (fail_unmoved calls { slot with temporary := calls.left })
    | crashed => exact Or.inl ⟨rfl,fun h => by cases h⟩
    | done =>
      dsimp only [id]
      by_cases hbefore : fault = .beforePublish
      · rw [if_pos (Or.inr hbefore)]
        exact Or.inl (fail_unmoved calls _)
      rw [if_neg (by simpa using hbefore)]
      cases hread : calls.readBack with
      | failed =>
        dsimp only [Outcome.run]
        rw [if_pos (Or.inl hnot)]
        exact Or.inl (fail_unmoved calls _)
      | crashed => exact Or.inl ⟨rfl,fun h => by cases h⟩
      | done =>
        dsimp only [Outcome.run,id]
        by_cases hloaded : (MusicStateBundle.decode bundle.encode).status = .loaded
        · rw [if_neg (by simpa using hloaded)]
          cases hqueried : calls.queried with
          | done =>
            refine Or.inr ⟨⟨?_,hparts,⟨hdirectories,hwritten,hread,hqueried⟩,hloaded⟩,rfl⟩
            cases fault with
            | none => rfl
            | diskFull => exact absurd rfl hdisk
            | beforePublish => exact absurd rfl hbefore
          | failed => exact Or.inl ⟨rfl,fun h => by cases h⟩
          | crashed => exact Or.inl ⟨rfl,fun h => by cases h⟩
        · rw [if_pos (Or.inr hloaded)]
          exact Or.inl (fail_unmoved calls _)

lemma run_swapped (hwhole : save.Whole slot) : Swapped slot.target save.bundle.encode (save.run slot) ∧
    (Unmoved slot.target (save.run slot) ∨ (MusicStateBundle.decode save.bundle.encode).status = .loaded) := by
  rcases save.run_cases slot with hunmoved | ⟨hpublishes,hrun⟩
  · exact ⟨hunmoved.swapped _,Or.inl hunmoved⟩
  · rw [hrun]
    exact ⟨replaceTarget_swapped rfl fun haside => hwhole hpublishes haside,Or.inr hpublishes.2.2.2⟩

end MusicSave

section Configurations
open Player
variable {F : Type}

structure PlayerSave (F : Type) where
  config : PlayerConfig F
  fault : PlayerConfigSaveFault := .none
  calls : SaveCalls (List Char) := {}

namespace PlayerSave
variable (format : FloatText F) (hasParent : Bool) (save : PlayerSave F) {slot : Slot (List Char)}

def run (slot : Slot (List Char)) : Saving (List Char) Bool :=
  playerConfigSave format save.fault hasParent save.calls save.config slot

/-- The save comes to the replacement of the target. -/
def Publishes : Prop :=
  save.config.busGain.toList.any (!format.inUnit ·) = false ∧ save.fault = .none ∧
    (hasParent = true → save.calls.directories = .done) ∧ save.calls.removeLeftover ≠ .crashed ∧
      save.calls.opened = .done ∧ save.calls.written = .done ∧ save.calls.queried = .done

/-- The mask of a configuration is set, and its strings have no control characters that the reader refuses. -/
def Loadable (config : PlayerConfig F) : Prop :=
  config.haveSubsystems = true ∧ config.profile.all loadable = true ∧ config.output.all loadable = true

/-- A save that moves an old file aside is not cut before a file is in its place again, and one that puts its own
there can be loaded. -/
def Whole (slot : Slot (List Char)) : Prop :=
  save.Publishes format hasParent → (save.calls.MovesAside slot → save.calls.Uncut) ∧
    (save.calls.Replaces slot → Loadable save.config)

/-- What comes after the leftovers: the text is written and the replacement comes, or the target is left alone. -/
lemma written_cases (calls : SaveCalls (List Char)) {fault : PlayerConfigSaveFault} (hdisk : fault ≠ .diskFull)
    (text : List Char) (start : Slot (List Char)) :
    let result := calls.opened.run start id fun opened slot =>
      if !opened then (slot,some false)
      else
        calls.write text slot fun written slot =>
          if !written ∨ fault = .beforePublish then calls.fail slot
          else
            calls.queried.run slot id fun queried slot =>
              if !queried then calls.fail slot else calls.replaceTarget false slot
    Unmoved start.target result ∨
      ((fault = .none ∧ calls.opened = .done ∧ calls.written = .done ∧ calls.queried = .done) ∧
        result = calls.replaceTarget false { start with temporary := some text }) := by
  have hnot : (!false) = true := rfl
  dsimp only
  cases hopened : calls.opened with
  | failed => exact Or.inl ⟨rfl,fun h => by cases h⟩
  | crashed => exact Or.inl ⟨rfl,fun h => by cases h⟩
  | done =>
    dsimp only [Outcome.run,id]
    rw [if_neg (by decide)]
    unfold SaveCalls.write
    cases hwritten : calls.written with
    | failed =>
      dsimp only
      rw [if_pos (Or.inl hnot)]
      exact Or.inl (fail_unmoved calls { start with temporary := calls.left })
    | crashed => exact Or.inl ⟨rfl,fun h => by cases h⟩
    | done =>
      dsimp only
      by_cases hbefore : fault = .beforePublish
      · rw [if_pos (Or.inr hbefore)]
        exact Or.inl (fail_unmoved calls { start with temporary := some text })
      rw [if_neg (by simpa using hbefore)]
      cases hqueried : calls.queried with
      | failed =>
        dsimp only [Outcome.run]
        rw [if_pos hnot]
        exact Or.inl (fail_unmoved calls { start with temporary := some text })
      | crashed => exact Or.inl ⟨rfl,fun h => by cases h⟩
      | done =>
        dsimp only [Outcome.run,id]
        rw [if_neg (by decide)]
        refine Or.inr ⟨⟨?_,rfl,rfl,rfl⟩,rfl⟩
        cases fault with
        | none => rfl
        | diskFull => exact absurd rfl hdisk
        | beforePublish => exact absurd rfl hbefore

/-- A save leaves the target alone, or comes to its replacement beside some backup. -/
lemma run_cases (slot : Slot (List Char)) : Unmoved slot.target (save.run format hasParent slot) ∨
    (save.Publishes format hasParent ∧ save.run format hasParent slot =
      save.calls.replaceTarget false { slot with temporary := some (configText format save.config) }) := by
  obtain ⟨config,fault,calls⟩ := save
  unfold run playerConfigSave
  dsimp only
  by_cases hrefused : config.busGain.toList.any (!format.inUnit ·) = true ∨ fault = .diskFull
  · rw [if_pos hrefused]
    exact Or.inl ⟨rfl,fun h => by cases h⟩
  rw [if_neg hrefused]
  rw [not_or,Bool.not_eq_true] at hrefused
  obtain ⟨hgains,hdisk⟩ := hrefused
  have hsave : ∀ result, (result = calls.removeLeftover.run slot Slot.removeTemporary fun _ slot =>
      calls.opened.run slot id fun opened slot =>
        if !opened then (slot,some false)
        else
          calls.write (configText format config) slot fun written slot =>
            if !written ∨ fault = .beforePublish then calls.fail slot
            else
              calls.queried.run slot id fun queried slot =>
                if !queried then calls.fail slot else calls.replaceTarget false slot) →
      Unmoved slot.target result ∨ ((fault = .none ∧ calls.removeLeftover ≠ .crashed ∧ calls.opened = .done ∧
        calls.written = .done ∧ calls.queried = .done) ∧
          result = calls.replaceTarget false { slot with temporary := some (configText format config) }) := by
    rintro result rfl
    cases hleftover : calls.removeLeftover with
    | crashed => exact Or.inl ⟨rfl,fun h => by cases h⟩
    | done =>
      rcases written_cases calls hdisk (configText format config) slot.removeTemporary with
        hunmoved | ⟨⟨hfault,hrest⟩,hresult⟩
      · exact Or.inl hunmoved
      · exact Or.inr ⟨⟨hfault,fun h => (by cases h),hrest⟩,hresult⟩
    | failed =>
      rcases written_cases calls hdisk (configText format config) slot with hunmoved | ⟨⟨hfault,hrest⟩,hresult⟩
      · exact Or.inl hunmoved
      · exact Or.inr ⟨⟨hfault,fun h => (by cases h),hrest⟩,hresult⟩
  by_cases hparent : hasParent = true
  · rw [if_pos hparent]
    cases hdirectories : calls.directories with
    | failed => exact Or.inl ⟨rfl,fun h => by cases h⟩
    | crashed => exact Or.inl ⟨rfl,fun h => by cases h⟩
    | done =>
      rcases hsave _ rfl with hunmoved | ⟨⟨hfault,hrest⟩,hresult⟩
      · exact Or.inl hunmoved
      · exact Or.inr ⟨⟨hgains,hfault,fun _ => hdirectories,hrest⟩,hresult⟩
  · rw [if_neg hparent]
    rcases hsave _ rfl with hunmoved | ⟨⟨hfault,hrest⟩,hresult⟩
    · exact Or.inl hunmoved
    · exact Or.inr ⟨⟨hgains,hfault,fun hparent' => absurd hparent' hparent,hrest⟩,hresult⟩

/-- A configuration that can be loaded is read back from its text. -/
lemma loads (hexact : format.Exact) {config : PlayerConfig F} (hloadable : Loadable config)
    (hgains : config.busGain.toList.any (!format.inUnit ·) = false) :
    playerConfigLoadChecked format (.content (configText format config) false) = { config, status := .loaded } := by
  obtain ⟨hset,hprofile,houtput⟩ := hloadable
  have hgain : ∀ gain ∈ config.busGain.toList, format.inUnit gain = true := by
    intro gain hmem
    simpa using List.any_eq_false.mp hgains gain hmem
  rw [load_configText hexact hgain,readLines_entries hexact hgain hprofile houtput,← hset]

lemma run_swapped (hexact : format.Exact) (hwhole : save.Whole format hasParent slot) :
    Swapped slot.target (configText format save.config) (save.run format hasParent slot) ∧
      (Unmoved slot.target (save.run format hasParent slot) ∨
        playerConfigLoadChecked format (.content (configText format save.config) false) =
          { config := save.config, status := .loaded }) := by
  rcases save.run_cases format hasParent slot with hunmoved | ⟨hpublishes,hrun⟩
  · exact ⟨hunmoved.swapped _,Or.inl hunmoved⟩
  · obtain ⟨huncut,hloads⟩ := hwhole hpublishes
    rw [hrun]
    refine ⟨replaceTarget_swapped rfl huncut,?_⟩
    by_cases hreplaces : save.calls.Replaces slot
    · exact Or.inr (loads format hexact (hloads hreplaces) hpublishes.1)
    · exact Or.inl (replaceTarget_unmoved huncut hreplaces)

end PlayerSave

end Configurations

end Saves

section Runs
open Player
variable {α γ F : Type}

/-- What was saved, and what the save returned unless it was cut. -/
structure SaveRecord (α : Type) where
  content : α
  returned : Option Bool
  deriving DecidableEq, Repr

/-- The files after some saves. -/
structure Saved (γ α : Type) where
  slot : Slot γ
  records : List (SaveRecord α) := []
  deriving DecidableEq, Repr

/-- The files after one more save. -/
def Saved.next (saved : Saved γ α) (content : α) (calls : SaveCalls γ) (result : Saving γ Bool) : Saved γ α where
  slot := result.1
  records := saved.records ++ [⟨content,if calls.returns then result.2 else none⟩]

def MusicSave.step (saved : Saved Bytes MusicStateBundle) (save : MusicSave) :
    Option (Saved Bytes MusicStateBundle) :=
  some (saved.next save.bundle save.calls (save.run saved.slot))

def PlayerSave.step (format : FloatText F) (hasParent : Bool) (saved : Saved (List Char) (PlayerConfig F))
    (save : PlayerSave F) : Option (Saved (List Char) (PlayerConfig F)) :=
  some (saved.next save.config save.calls (save.run format hasParent saved.slot))

/-- What is found is what the last successful save wrote, or a save that was cut since; before any success, also what
was there at first. -/
def Finds {β : Type} (found : α → β) (first : β) (records : List (SaveRecord α)) (result : β) : Prop :=
  (result = first ∧ ∀ record ∈ records, record.returned ≠ some true) ∨
    ∃ before record after, records = before ++ record :: after ∧ result = found record.content ∧
      record.returned ≠ some false ∧ ∀ later ∈ after, later.returned ≠ some true

lemma Finds.kept {β : Type} {found : α → β} {first result : β} {records : List (SaveRecord α)}
    (h : Finds found first records result) {last : SaveRecord α} (hlast : last.returned ≠ some true) :
    Finds found first (records ++ [last]) result := by
  rcases h with ⟨rfl,hnone⟩ | ⟨before,record,after,rfl,hresult,hrecord,hafter⟩
  · refine Or.inl ⟨rfl,fun record hrecord => ?_⟩
    rcases List.mem_append.mp hrecord with hrecord | hrecord
    · exact hnone record hrecord
    · rw [List.mem_singleton.mp hrecord]
      exact hlast
  · refine Or.inr ⟨before,record,after ++ [last],by simp,hresult,hrecord,fun later hlater => ?_⟩
    rcases List.mem_append.mp hlater with hlater | hlater
    · exact hafter later hlater
    · rw [List.mem_singleton.mp hlater]
      exact hlast

lemma finds_last {β : Type} {found : α → β} {first : β} (records : List (SaveRecord α)) {last : SaveRecord α}
    (hlast : last.returned ≠ some false) : Finds found first (records ++ [last]) (found last.content) :=
  Or.inr ⟨records,last,[],rfl,rfl,hlast,fun _ hmem => by cases hmem⟩

/-- A save that leaves a file in its place carries over what a load of it finds. -/
lemma Finds.next {β : Type} {found : α → β} {first : β} {saved : Saved γ α} {load : Slot γ → β}
    {content : α} {calls : SaveCalls γ} {bytes : γ} {result : Saving γ Bool}
    (h : Finds found first saved.records (load saved.slot))
    (hload : ∀ slot other : Slot γ, slot.target = other.target → load slot = load other)
    (hswapped : Swapped saved.slot.target bytes result)
    (hfound : Unmoved saved.slot.target result ∨ ∀ slot : Slot γ, slot.target = some bytes →
      load slot = found content) :
    Finds found first (saved.next content calls result).records (load (saved.next content calls result).slot) := by
  obtain ⟨slot,returned⟩ := result
  unfold Saved.next
  dsimp only
  by_cases hunmoved : Unmoved saved.slot.target (slot,returned)
  · obtain ⟨htarget,hreturned⟩ := hunmoved
    rw [hload slot saved.slot htarget]
    refine h.kept ?_
    dsimp only
    split_ifs
    · exact hreturned
    · exact fun hnone => by cases hnone
  · -- The new content is in its place, and the save did not say that it failed.
    have hmoved : slot.target = some bytes ∧ returned ≠ some false := by
      rcases returned with _ | _ | _
      · rcases hswapped with hbefore | hbytes
        · exact absurd ⟨hbefore,fun hnone => by cases hnone⟩ hunmoved
        · exact ⟨hbytes,fun hnone => by cases hnone⟩
      · exact absurd ⟨hswapped,fun hfalse => by cases hfalse⟩ hunmoved
      · exact ⟨hswapped,fun htrue => by cases htrue⟩
    rw [hfound.resolve_left hunmoved slot hmoved.1]
    refine @finds_last α β found first saved.records ⟨content,if calls.returns then returned else none⟩ ?_
    dsimp only
    split_ifs
    · exact hmoved.2
    · exact fun hnone => by cases hnone

lemma musicStateLoad_congr (slot other : Slot Bytes) (h : slot.target = other.target) :
    musicStateLoad slot = musicStateLoad other := by
  unfold musicStateLoad
  rw [h]

lemma playerConfigLoad_congr (format : FloatText F) (slot other : Slot (List Char))
    (h : slot.target = other.target) : playerConfigLoad format slot = playerConfigLoad format other := by
  unfold playerConfigLoad
  rw [h]

instance (calls : SaveCalls γ) : Decidable calls.Uncut := inferInstanceAs (Decidable (_ ∧ _))

instance (calls : SaveCalls γ) [DecidableEq γ] (slot : Slot γ) : Decidable (calls.MovesAside slot) :=
  inferInstanceAs (Decidable (_ ∧ _))

instance (calls : SaveCalls γ) [DecidableEq γ] (slot : Slot γ) : Decidable (calls.Replaces slot) :=
  inferInstanceAs (Decidable ((_ → _) ∧ _))

instance (save : MusicSave) : Decidable save.Publishes := inferInstanceAs (Decidable (_ ∧ _))

instance (save : MusicSave) (slot : Slot Bytes) : Decidable (save.Whole slot) := inferInstanceAs (Decidable (_ → _ → _))

instance (format : FloatText F) (hasParent : Bool) (save : PlayerSave F) :
    Decidable (save.Publishes format hasParent) := inferInstanceAs (Decidable (_ ∧ _))

instance (config : PlayerConfig F) : Decidable (PlayerSave.Loadable config) := inferInstanceAs (Decidable (_ ∧ _))

instance (format : FloatText F) (hasParent : Bool) (save : PlayerSave F) (slot : Slot (List Char)) :
    Decidable (save.Whole format hasParent slot) := inferInstanceAs (Decidable (_ → (_ → _) ∧ (_ → _)))

/-- Through saves that are not cut while the old file is aside and whose configurations can be loaded, both savers keep
a whole version to be loaded, never older than the last one saved. -/
theorem load_finds_version {format : FloatText F} (hexact : format.Exact) (hasParent : Bool)
    {musicFiles : Slot Bytes} {playerFiles : Slot (List Char)} {musicSaves : List MusicSave}
    {playerSaves : List (PlayerSave F)} {music : Saved Bytes MusicStateBundle}
    {player : Saved (List Char) (PlayerConfig F)}
    (hmusic : Meets MusicSave.step (fun saved save => save.Whole saved.slot) { slot := musicFiles } musicSaves music)
    (hplayer : Meets (PlayerSave.step format hasParent) (fun saved save => save.Whole format hasParent saved.slot)
      { slot := playerFiles } playerSaves player) :
    Finds (fun bundle => ⟨.loaded,bundle⟩) (musicStateLoad musicFiles) music.records (musicStateLoad music.slot) ∧
      Finds (fun config => { config, status := .loaded }) (playerConfigLoad format playerFiles) player.records
        (playerConfigLoad format player.slot) := by
  constructor
  · refine @Meets.invariant _ _ _ _ (fun saved => Finds (fun bundle => ⟨.loaded,bundle⟩) (musicStateLoad musicFiles)
      saved.records (musicStateLoad saved.slot)) ?_ _ _ _ hmusic (Or.inl ⟨rfl,fun _ hmem => by cases hmem⟩)
    intro saved save next h hwhole hnext
    cases hnext
    obtain ⟨hswapped,hfound⟩ := save.run_swapped hwhole
    refine h.next musicStateLoad_congr hswapped (hfound.imp_right fun hloaded slot htarget => ?_)
    unfold musicStateLoad
    rw [htarget]
    exact decode_encode hloaded
  · refine @Meets.invariant _ _ _ _ (fun saved => Finds (fun config => { config, status := .loaded })
      (playerConfigLoad format playerFiles) saved.records (playerConfigLoad format saved.slot)) ?_ _ _ _ hplayer
      (Or.inl ⟨rfl,fun _ hmem => by cases hmem⟩)
    intro saved save next h hwhole hnext
    cases hnext
    obtain ⟨hswapped,hfound⟩ := save.run_swapped format hasParent hexact hwhole
    refine h.next (playerConfigLoad_congr format) hswapped (hfound.imp_right fun hloaded slot htarget => ?_)
    unfold playerConfigLoad
    rw [htarget]
    exact hloaded

def firstBundle : MusicStateBundle := ⟨[1,2,3],[4,5],[112]⟩

def secondBundle : MusicStateBundle := ⟨[9],[8,7],[113]⟩

def quietConfig : PlayerConfig (Fin 5) := { plainConfig with busMuted := ⟨true,true,false,true⟩ }

/-- Saves that are rolled back, also of a configuration that could not be loaded, and one that is cut once the new
file is in its place. -/
theorem load_after_roll_back :
    ∃ (music : Saved Bytes MusicStateBundle) (player : Saved (List Char) (PlayerConfig (Fin 5))),
    Finds (fun bundle => ⟨.loaded,bundle⟩) (musicStateLoad {}) music.records (musicStateLoad music.slot) ∧
      Finds (fun config => { config, status := .loaded }) (playerConfigLoad quarters {}) player.records
        (playerConfigLoad quarters player.slot) :=
  ⟨⟨⟨some secondBundle.encode,none,some firstBundle.encode⟩,[⟨firstBundle,some true⟩,⟨secondBundle,some false⟩,
      ⟨secondBundle,none⟩]⟩,
    ⟨⟨some (configText quarters quietConfig),none,none⟩,[⟨plainConfig,some true⟩,⟨controlConfig,some false⟩,
      ⟨quietConfig,some true⟩]⟩,
    @load_finds_version (Fin 5) quarters quarters_exact true {} {}
      [{ bundle := firstBundle },{ bundle := secondBundle, calls := { publish := .failed } },
        { bundle := secondBundle, calls := { removeOld := .crashed } }]
      [{ config := plainConfig },{ config := controlConfig, calls := { publish := .failed } },
        { config := quietConfig }] _ _ (run_meets (by decide +kernel)) (run_meets (by decide +kernel))⟩

/-- A crash while the old file is aside, and then a save that fails: nothing of either bundle is left. -/
theorem crash_loses_bundle : ∃ saved : Saved Bytes MusicStateBundle,
    run MusicSave.step { slot := {} } [{ bundle := firstBundle },
      { bundle := secondBundle, calls := { publish := .crashed } },
      { bundle := secondBundle, calls := { publish := .failed } }] = some saved ∧ saved.slot = {} ∧
    ¬Finds (fun bundle => ⟨.loaded,bundle⟩) (musicStateLoad {}) saved.records (musicStateLoad saved.slot) := by
  refine ⟨⟨{},[⟨firstBundle,some true⟩,⟨secondBundle,none⟩,⟨secondBundle,some false⟩]⟩,by decide +kernel,rfl,
    fun h => ?_⟩
  rcases h with ⟨-,hnone⟩ | ⟨_,record,_,_,hresult,_⟩
  · exact hnone ⟨firstBundle,some true⟩ List.mem_cons_self rfl
  · cases congrArg MusicStateBundleResult.status hresult

end Runs
end AytherRuntime.Storage
