import AytherRuntime.Check.EffectiveValues
import AytherRuntime.Library.Terminated
import AytherRuntime.Storage.CheckpointStore

/-! The identity of the conditions of a request: the words that are fed to the hasher, with the pins of its
materials, and what two requests with the same words share. -/
namespace AytherRuntime.Check
open Storage (ContentIdentity)
open Terminated

section Pins

inductive MaterialPinRole
  | rom | core | pack | take | runtime | trustRegistry | timeline | timelineState | timelineFmSidecar
  deriving DecidableEq, Repr

def materialPinRoleCode : MaterialPinRole → String
  | .rom => "rom"
  | .core => "core"
  | .pack => "pack"
  | .take => "take"
  | .runtime => "runtime"
  | .trustRegistry => "trust_registry"
  | .timeline => "timeline"
  | .timelineState => "timeline_state"
  | .timelineFmSidecar => "timeline_fm_sidecar"

structure MaterialPin where
  role : MaterialPinRole
  field : String
  position : ℕ := 0
  content : ContentIdentity
  deriving DecidableEq, Repr

structure PreflightPins where
  runtime : MaterialPin
  rom : MaterialPin
  core : MaterialPin
  takes : List MaterialPin
  pack : Option MaterialPin
  trustRegistry : Option MaterialPin
  timelines : List MaterialPin
  timelineStates : List MaterialPin
  timelineFmSidecars : List MaterialPin
  deriving Repr

/-- `append_at_position` -/
def atPosition (pins : List MaterialPin) (position : ℕ) : List MaterialPin :=
  pins.filter fun pin => pin.position = position

/-- A timeline with its state and its sidecar. -/
def timelinePins (pins : PreflightPins) (timeline : MaterialPin) : List MaterialPin :=
  timeline :: (atPosition pins.timelineStates timeline.position ++
    atPosition pins.timelineFmSidecars timeline.position)

def materialPins (pins : PreflightPins) : List MaterialPin :=
  [pins.runtime,pins.rom,pins.core] ++ pins.takes ++ pins.timelines.flatMap (timelinePins pins) ++
    pins.pack.toList ++ pins.trustRegistry.toList

def takeField (position : ℕ) : String := "--take[" ++ toString position ++ "]"

def timelineField (index : ℕ) : String := "--timeline[" ++ toString index ++ "]"

/-- What a pin names: its role, its field and the position of its material. -/
def MaterialPin.slot (pin : MaterialPin) : MaterialPinRole × String × ℕ := (pin.role,pin.field,pin.position)

/-- The pins that the preflight gives when it has no issue: one for each material, in the order of the slots. -/
structure SlotPins (request : EffectiveRequest) (pins : PreflightPins) : Prop where
  runtime : pins.runtime.slot = (.runtime,"--runtime",0)
  rom : pins.rom.slot = (.rom,"--rom",0)
  core : pins.core.slot = (.core,"--core",0)
  takes : pins.takes.map MaterialPin.slot =
    (List.range request.takes.length).map fun position => (.take,takeField position,position)
  timelines : pins.timelines.map MaterialPin.slot =
    (List.range request.timelines.length).map fun index =>
      (.timeline,timelineField index,request.takes.length + index)
  timelineStates : ∀ pin ∈ pins.timelineStates, ∃ index < request.timelines.length,
    pin.slot = (.timelineState,timelineField index,request.takes.length + index)
  timelineFmSidecars : ∀ pin ∈ pins.timelineFmSidecars, ∃ index < request.timelines.length,
    pin.slot = (.timelineFmSidecar,timelineField index,request.takes.length + index)
  pack : pins.pack.map MaterialPin.slot =
    if request.pack.isSome ∧ request.packMode = "hd" then some (.pack,"--pack",0) else none
  trustRegistry : pins.trustRegistry.map MaterialPin.slot =
    if request.trustRegistry = "" then none else some (.trustRegistry,"--trust-registry",0)

end Pins

section Words

/-- The byte after each text. -/
def separator : Char := Char.ofNat 0

def hexadecimal (bytes : List UInt8) : String := Storage.hex bytes

def shadersWord : Option Bool → String
  | none => ""
  | some true => "on"
  | some false => "off"

/-- The words of a request that has one of each. -/
def selectionWords (effective : EffectiveRequest) : List String :=
  [effective.runtime,effective.rom,effective.core,effective.pack.getD "",
    if effective.pack.isSome then "pack" else "no-pack",effective.packMode,effective.trustRegistry,
    effective.presentation,effective.playManifest.getD "",effective.reference.getD "",
    effective.conditions.profile.getD "",effective.conditions.subsystems.getD "",
    effective.conditions.muteBuses.getD "",effective.conditions.videoOutput.getD "",
    effective.conditions.patch.getD "",shadersWord effective.conditions.shaders]

def timelineWords (timelines : List String) : List String :=
  if timelines = [] then [] else "timelines" :: timelines

/-- The words before the pins. -/
def requestWords (effective : EffectiveRequest) : List String :=
  selectionWords effective ++
    (effective.conditions.coreOptions ++ "takes" :: (effective.takes ++ timelineWords effective.timelines))

def pinWords (pin : MaterialPin) : List String :=
  [materialPinRoleCode pin.role,pin.field,hexadecimal pin.content.sha256,toString pin.content.byteSize.toNat]

def conditionsWords (effective : EffectiveRequest) (pins : List MaterialPin) : List String :=
  requestWords effective ++ "materials" :: (pins.map pinWords).flatten

/-- The bytes that `check_conditions_id` feeds to the hasher: each word with the byte after it. -/
def conditionsPreimage (effective : EffectiveRequest) (pins : List MaterialPin) : List Char :=
  terminated separator ((conditionsWords effective pins).map String.toList)

def checkConditionsId (identify : List Char → ContentIdentity) (effective : EffectiveRequest)
    (pins : List MaterialPin) : String :=
  "conditions-sha256-" ++ hexadecimal (identify (conditionsPreimage effective pins)).sha256

end Words

section Digits

lemma hexDigit_inj : ∀ i < 16, ∀ j < 16, Storage.hexDigits.getD i '0' = Storage.hexDigits.getD j '0' → i = j := by
  decide

lemma hexDigit_ne_separator : ∀ i < 16, Storage.hexDigits.getD i '0' ≠ separator := by decide

lemma hexadecimal_injective {bytes bytes' : List UInt8} (h : hexadecimal bytes = hexadecimal bytes') :
    bytes = bytes' := by
  have hdigits := congrArg String.toList h
  simp only [hexadecimal,Storage.hex,String.toList_ofList] at hdigits
  clear h
  induction bytes generalizing bytes' with
  | nil =>
    cases bytes' with
    | nil => rfl
    | cons byte' bytes' => simp at hdigits
  | cons byte bytes ih =>
    cases bytes' with
    | nil => simp at hdigits
    | cons byte' bytes' =>
      rw [List.flatMap_cons,List.flatMap_cons] at hdigits
      obtain ⟨hbyte,hrest⟩ := List.append_inj hdigits rfl
      obtain ⟨hhigh,hlow⟩ := List.cons.inj hbyte
      have hbound := byte.toNat_lt
      have hbound' := byte'.toNat_lt
      have hhigh := hexDigit_inj _ (by omega) _ (by omega) hhigh
      have hlow := hexDigit_inj _ (by omega) _ (by omega) (List.singleton_inj.mp hlow)
      have hsame : byte = byte' := UInt8.toNat.inj (by omega)
      rw [hsame,ih hrest]

lemma separator_notMem_hexadecimal (bytes : List UInt8) : separator ∉ (hexadecimal bytes).toList := by
  intro hmem
  rw [hexadecimal,Storage.hex,String.toList_ofList] at hmem
  obtain ⟨byte,-,hdigit⟩ := List.mem_flatMap.mp hmem
  have hbound := byte.toNat_lt
  rcases List.mem_pair.mp hdigit with hhigh | hlow
  · exact hexDigit_ne_separator _ (by omega) hhigh.symm
  · exact hexDigit_ne_separator _ (by omega) hlow.symm

lemma isDigit_of_mem_decimal {n : ℕ} {c : Char} (h : c ∈ (toString n).toList) : c.isDigit = true := by
  rw [show (toString n).toList = Nat.toDigits 10 n from Nat.toList_repr] at h
  exact Nat.isDigit_of_mem_toDigits (by decide) (by decide) h

lemma separator_notMem_decimal (n : ℕ) : separator ∉ (toString n).toList := fun h =>
  absurd (isDigit_of_mem_decimal h) (by decide)

lemma decimal_injective {n n' : UInt64} (h : toString n.toNat = toString n'.toNat) : n = n' := by
  have hread := Storage.decimal_toString n
  rw [h,Storage.decimal_toString] at hread
  exact (Option.some.inj hread).symm

/-- The size of a pin is no marker. -/
lemma decimal_ne_materials (n : ℕ) : toString n ≠ "materials" := fun h =>
  absurd (isDigit_of_mem_decimal (n := n) (by rw [h]; decide : 'm' ∈ (toString n).toList)) (by decide)

end Digits

section Slots
variable {effective : EffectiveRequest} {pins : PreflightPins} {pin : MaterialPin}

lemma mem_materialPins (h : pin ∈ materialPins pins) :
    (pin ∈ [pins.runtime,pins.rom,pins.core] ∨ pin ∈ pins.takes) ∨
      (pin ∈ pins.timelines ∨ pin ∈ pins.timelineStates ∨ pin ∈ pins.timelineFmSidecars) ∨
        pin ∈ pins.pack.toList ∨ pin ∈ pins.trustRegistry.toList := by
  rw [materialPins,List.mem_append,List.mem_append,List.mem_append,List.mem_append] at h
  rcases h with (((hfixed | htake) | htimeline) | hpack) | htrust
  · exact .inl (.inl hfixed)
  · exact .inl (.inr htake)
  · obtain ⟨timeline,htimeline,hpin⟩ := List.mem_flatMap.mp htimeline
    rw [timelinePins,List.mem_cons,List.mem_append] at hpin
    rcases hpin with rfl | hstate | hsidecar
    · exact .inr (.inl (.inl htimeline))
    · exact .inr (.inl (.inr (.inl (List.mem_of_mem_filter hstate))))
    · exact .inr (.inl (.inr (.inr (List.mem_of_mem_filter hsidecar))))
  · exact .inr (.inr (.inl hpack))
  · exact .inr (.inr (.inr htrust))

lemma slot_fixed (h : SlotPins effective pins) (hpin : pin ∈ [pins.runtime,pins.rom,pins.core]) :
    pin.slot ∈ [(.runtime,"--runtime",0),(.rom,"--rom",0),(.core,"--core",0)] := by
  have hslot := List.mem_map_of_mem (f := MaterialPin.slot) hpin
  rwa [List.map_cons,List.map_cons,List.map_singleton,h.runtime,h.rom,h.core] at hslot

lemma slot_take (h : SlotPins effective pins) (hpin : pin ∈ pins.takes) :
    ∃ position, pin.slot = (.take,takeField position,position) := by
  have hslot := List.mem_map_of_mem (f := MaterialPin.slot) hpin
  rw [h.takes] at hslot
  obtain ⟨position,-,hposition⟩ := List.mem_map.mp hslot
  exact ⟨position,hposition.symm⟩

lemma slot_timeline (h : SlotPins effective pins) (hpin : pin ∈ pins.timelines) :
    ∃ index, pin.slot = (.timeline,timelineField index,effective.takes.length + index) := by
  have hslot := List.mem_map_of_mem (f := MaterialPin.slot) hpin
  rw [h.timelines] at hslot
  obtain ⟨index,-,hindex⟩ := List.mem_map.mp hslot
  exact ⟨index,hindex.symm⟩

lemma slot_pack (h : SlotPins effective pins) (hpin : pin ∈ pins.pack.toList) :
    pin.slot = (.pack,"--pack",0) := by
  have hslot := h.pack
  rw [Option.mem_toList.mp hpin,Option.map_some] at hslot
  split at hslot
  · exact Option.some.inj hslot
  · cases hslot

lemma slot_trustRegistry (h : SlotPins effective pins) (hpin : pin ∈ pins.trustRegistry.toList) :
    pin.slot = (.trustRegistry,"--trust-registry",0) := by
  have hslot := h.trustRegistry
  rw [Option.mem_toList.mp hpin,Option.map_some] at hslot
  split at hslot
  · cases hslot
  · exact Option.some.inj hslot

lemma slot_state (h : SlotPins effective pins) (hpin : pin ∈ pins.timelineStates) :
    ∃ index, pin.slot = (.timelineState,timelineField index,effective.takes.length + index) := by
  obtain ⟨index,-,hindex⟩ := h.timelineStates pin hpin
  exact ⟨index,hindex⟩

lemma slot_sidecar (h : SlotPins effective pins) (hpin : pin ∈ pins.timelineFmSidecars) :
    ∃ index, pin.slot = (.timelineFmSidecar,timelineField index,effective.takes.length + index) := by
  obtain ⟨index,-,hindex⟩ := h.timelineFmSidecars pin hpin
  exact ⟨index,hindex⟩

lemma role_of_slot {role : MaterialPinRole} {field : String} {position : ℕ}
    (h : pin.slot = (role,field,position)) : pin.role = role := congrArg Prod.fst h

lemma field_of_slot {role : MaterialPinRole} {field : String} {position : ℕ}
    (h : pin.slot = (role,field,position)) : pin.field = field := congrArg (fun slot => slot.2.1) h

lemma separator_notMem_takeField (position : ℕ) : separator ∉ (takeField position).toList := by
  rw [takeField,String.toList_append,String.toList_append,List.mem_append,List.mem_append]
  rintro ((hfront | hdigits) | hback)
  · exact absurd hfront (by decide)
  · exact separator_notMem_decimal position hdigits
  · exact absurd hback (by decide)

lemma separator_notMem_timelineField (index : ℕ) : separator ∉ (timelineField index).toList := by
  rw [timelineField,String.toList_append,String.toList_append,List.mem_append,List.mem_append]
  rintro ((hfront | hdigits) | hback)
  · exact absurd hfront (by decide)
  · exact separator_notMem_decimal index hdigits
  · exact absurd hback (by decide)

lemma separator_notMem_field (h : SlotPins effective pins) (hpin : pin ∈ materialPins pins) :
    separator ∉ pin.field.toList := by
  rcases mem_materialPins hpin with (hfixed | htake) | (htimeline | hstate | hsidecar) | hpack | htrust
  · have hfield := List.mem_map_of_mem (f := fun slot => slot.2.1) (slot_fixed h hfixed)
    have hnone : ∀ field ∈ ["--runtime","--rom","--core"], separator ∉ field.toList := by decide
    exact hnone _ hfield
  · obtain ⟨position,hslot⟩ := slot_take h htake
    exact field_of_slot hslot ▸ separator_notMem_takeField position
  · obtain ⟨index,hslot⟩ := slot_timeline h htimeline
    exact field_of_slot hslot ▸ separator_notMem_timelineField index
  · obtain ⟨index,hslot⟩ := slot_state h hstate
    exact field_of_slot hslot ▸ separator_notMem_timelineField index
  · obtain ⟨index,hslot⟩ := slot_sidecar h hsidecar
    exact field_of_slot hslot ▸ separator_notMem_timelineField index
  · rw [field_of_slot (slot_pack h hpack)]
    decide
  · rw [field_of_slot (slot_trustRegistry h htrust)]
    decide

end Slots

section Counts
variable {effective : EffectiveRequest} {pins : PreflightPins} {role : MaterialPinRole}

/-- The pins of a role. -/
def countRole (role : MaterialPinRole) (pins : List MaterialPin) : ℕ := pins.countP fun pin => pin.role = role

lemma countRole_append (front back : List MaterialPin) :
    countRole role (front ++ back) = countRole role front + countRole role back := List.countP_append

lemma countRole_none {pins : List MaterialPin} (h : ∀ pin ∈ pins, pin.role ≠ role) : countRole role pins = 0 :=
  List.countP_eq_zero.mpr fun pin hpin hrole => h pin hpin (of_decide_eq_true hrole)

lemma countRole_all {pins : List MaterialPin} (h : ∀ pin ∈ pins, pin.role = role) :
    countRole role pins = pins.length :=
  List.countP_eq_length.mpr fun pin hpin => decide_eq_true (h pin hpin)

lemma countRole_materialPins (role : MaterialPinRole) (pins : PreflightPins) :
    countRole role (materialPins pins) =
      countRole role [pins.runtime,pins.rom,pins.core] + countRole role pins.takes +
        countRole role (pins.timelines.flatMap (timelinePins pins)) + countRole role pins.pack.toList +
        countRole role pins.trustRegistry.toList := by
  rw [materialPins,countRole_append,countRole_append,countRole_append,countRole_append]

lemma role_fixed_ne (h : SlotPins effective pins) (hrole : role ∉ [.runtime,.rom,.core]) :
    countRole role [pins.runtime,pins.rom,pins.core] = 0 :=
  countRole_none fun _ hpin hsame => hrole
    (hsame ▸ List.mem_map_of_mem (f := Prod.fst) (slot_fixed h hpin))

lemma role_pack_ne (h : SlotPins effective pins) (hrole : role ≠ .pack) : countRole role pins.pack.toList = 0 :=
  countRole_none fun _ hpin hsame => hrole (hsame ▸ role_of_slot (slot_pack h hpin))

lemma role_trustRegistry_ne (h : SlotPins effective pins) (hrole : role ≠ .trustRegistry) :
    countRole role pins.trustRegistry.toList = 0 :=
  countRole_none fun _ hpin hsame => hrole (hsame ▸ role_of_slot (slot_trustRegistry h hpin))

/-- What a timeline names has none of the roles of takes and timelines. -/
lemma role_named_ne (h : SlotPins effective pins) (role : MaterialPinRole) (hstate : role ≠ .timelineState)
    (hsidecar : role ≠ .timelineFmSidecar) (position : ℕ) :
    countRole role (atPosition pins.timelineStates position ++ atPosition pins.timelineFmSidecars position) = 0 := by
  apply countRole_none
  intro pin hpin hsame
  rcases List.mem_append.mp hpin with hpin | hpin
  · obtain ⟨index,hslot⟩ := slot_state h (List.mem_of_mem_filter hpin)
    exact hstate (hsame ▸ role_of_slot hslot)
  · obtain ⟨index,hslot⟩ := slot_sidecar h (List.mem_of_mem_filter hpin)
    exact hsidecar (hsame ▸ role_of_slot hslot)

/-- There is a pin for each take. -/
lemma countRole_take (h : SlotPins effective pins) :
    countRole .take (materialPins pins) = effective.takes.length := by
  have htakes : countRole .take pins.takes = effective.takes.length := by
    rw [countRole_all fun pin hpin => (slot_take h hpin).elim fun _ hslot => role_of_slot hslot]
    have hlength := congrArg List.length h.takes
    rwa [List.length_map,List.length_map,List.length_range] at hlength
  have htimelines : countRole .take (pins.timelines.flatMap (timelinePins pins)) = 0 := by
    apply countRole_none
    intro pin hpin hsame
    obtain ⟨timeline,htimeline,hpin⟩ := List.mem_flatMap.mp hpin
    obtain ⟨index,hslot⟩ := slot_timeline h htimeline
    have hnone : countRole .take (timelinePins pins timeline) = 0 := by
      have hnamed := role_named_ne h .take (by decide) (by decide) timeline.position
      rw [timelinePins,← List.singleton_append,countRole_append,hnamed,
        countRole_none (by simp [role_of_slot hslot])]
    exact List.countP_eq_zero.mp hnone pin hpin (decide_eq_true hsame)
  rw [countRole_materialPins,role_fixed_ne h (by decide),htakes,htimelines,role_pack_ne h (by decide),
    role_trustRegistry_ne h (by decide)]
  omega

/-- There is a pin for each timeline. -/
lemma countRole_timeline (h : SlotPins effective pins) :
    countRole .timeline (materialPins pins) = effective.timelines.length := by
  have htakes : countRole .timeline pins.takes = 0 := by
    apply countRole_none
    intro pin hpin hsame
    obtain ⟨position,hslot⟩ := slot_take h hpin
    cases (role_of_slot hslot).symm.trans hsame
  have heach : ∀ timeline ∈ pins.timelines, countRole .timeline (timelinePins pins timeline) = 1 := by
    intro timeline htimeline
    obtain ⟨index,hslot⟩ := slot_timeline h htimeline
    have hnamed := role_named_ne h .timeline (by decide) (by decide) timeline.position
    rw [timelinePins,← List.singleton_append,countRole_append,hnamed,countRole_all (by simp [role_of_slot hslot])]
    rfl
  have htimelines : countRole .timeline (pins.timelines.flatMap (timelinePins pins)) =
      effective.timelines.length := by
    have hlength := congrArg List.length h.timelines
    rw [List.length_map,List.length_map,List.length_range] at hlength
    calc countRole .timeline (pins.timelines.flatMap (timelinePins pins))
      _ = (pins.timelines.map fun timeline => countRole .timeline (timelinePins pins timeline)).sum :=
        List.countP_flatMap
      _ = (pins.timelines.map fun _ => 1).sum := by rw [List.map_congr_left heach]
      _ = effective.timelines.length := by
        rw [List.map_const',List.sum_replicate_nat,Nat.mul_one,hlength]
  rw [countRole_materialPins,role_fixed_ne h (by decide),htakes,htimelines,role_pack_ne h (by decide),
    role_trustRegistry_ne h (by decide)]
  omega

end Counts

section Agreement
variable {effective effective' : EffectiveRequest} {pins pins' : PreflightPins}

/-- The texts of the request that are fed to the hasher. -/
def EffectiveRequest.texts (effective : EffectiveRequest) : List String :=
  [effective.runtime,effective.rom,effective.core,effective.packMode,effective.trustRegistry,
    effective.presentation] ++ effective.pack.toList ++ effective.playManifest.toList ++
    effective.reference.toList ++ effective.conditions.profile.toList ++
    effective.conditions.subsystems.toList ++ effective.conditions.muteBuses.toList ++
    effective.conditions.videoOutput.toList ++ effective.conditions.patch.toList ++
    effective.conditions.coreOptions ++ effective.takes ++ effective.timelines

def EffectiveRequest.NulFree (effective : EffectiveRequest) : Prop :=
  ∀ text ∈ effective.texts, separator ∉ text.toList

/-- What a pin is known by: its role, its field and its content. -/
def MaterialPin.identity (pin : MaterialPin) : MaterialPinRole × String × ContentIdentity :=
  (pin.role,pin.field,pin.content)

/-- Two requests with the same conditions. -/
structure Agree (effective effective' : EffectiveRequest) (pins pins' : List MaterialPin) : Prop where
  runtime : effective.runtime = effective'.runtime
  rom : effective.rom = effective'.rom
  core : effective.core = effective'.core
  pack : effective.pack = effective'.pack
  packMode : effective.packMode = effective'.packMode
  trustRegistry : effective.trustRegistry = effective'.trustRegistry
  presentation : effective.presentation = effective'.presentation
  playManifest : effective.playManifest = effective'.playManifest
  reference : effective.reference = effective'.reference
  conditions : effective.conditions = effective'.conditions
  takes : effective.takes = effective'.takes
  timelines : effective.timelines = effective'.timelines
  pins : pins.map MaterialPin.identity = pins'.map MaterialPin.identity

lemma separator_notMem_getD {text : Option String} (h : ∀ value ∈ text.toList, separator ∉ value.toList) :
    separator ∉ (text.getD "").toList := by
  cases text with
  | none => decide
  | some value => exact h value (by simp)

lemma separator_notMem_selectionWords (h : effective.NulFree) :
    ∀ word ∈ selectionWords effective, separator ∉ word.toList := by
  simp only [EffectiveRequest.NulFree,EffectiveRequest.texts,List.forall_mem_append,List.forall_mem_cons] at h
  obtain ⟨⟨⟨⟨⟨⟨⟨⟨⟨⟨⟨⟨hruntime,hrom,hcore,hmode,htrust,hpresentation,-⟩,hpack⟩,hmanifest⟩,hreference⟩,hprofile⟩,
    hsubsystems⟩,hbuses⟩,hvideo⟩,hpatch⟩,-⟩,-⟩,-⟩ := h
  simp only [selectionWords,List.forall_mem_cons]
  refine ⟨hruntime,hrom,hcore,separator_notMem_getD hpack,?_,hmode,htrust,hpresentation,
    separator_notMem_getD hmanifest,separator_notMem_getD hreference,separator_notMem_getD hprofile,
    separator_notMem_getD hsubsystems,separator_notMem_getD hbuses,separator_notMem_getD hvideo,
    separator_notMem_getD hpatch,?_,List.forall_mem_nil _⟩
  · split <;> decide
  · unfold shadersWord
    split <;> decide

lemma separator_notMem_requestWords (h : effective.NulFree) :
    ∀ word ∈ requestWords effective, separator ∉ word.toList := by
  intro word hword
  rw [requestWords,List.mem_append,List.mem_append,List.mem_cons,List.mem_append] at hword
  rcases hword with hselection | hoption | rfl | htake | htimeline
  · exact separator_notMem_selectionWords h word hselection
  · exact h word (by simp [EffectiveRequest.texts,hoption])
  · decide
  · exact h word (by simp [EffectiveRequest.texts,htake])
  · unfold timelineWords at htimeline
    split at htimeline
    · cases htimeline
    · rcases List.mem_cons.mp htimeline with rfl | htimeline
      · decide
      · exact h word (by simp [EffectiveRequest.texts,htimeline])

lemma separator_notMem_pinWords {pin : MaterialPin} (h : separator ∉ pin.field.toList) :
    ∀ word ∈ pinWords pin, separator ∉ word.toList := by
  simp only [pinWords,List.forall_mem_cons]
  refine ⟨?_,h,separator_notMem_hexadecimal _,separator_notMem_decimal _,List.forall_mem_nil _⟩
  cases pin.role <;> decide

lemma separator_notMem_conditionsWords (h : effective.NulFree) (hpins : SlotPins effective pins) :
    ∀ word ∈ conditionsWords effective (materialPins pins), separator ∉ word.toList := by
  intro word hword
  rw [conditionsWords,List.mem_append,List.mem_cons] at hword
  rcases hword with hrequest | rfl | hpin
  · exact separator_notMem_requestWords h word hrequest
  · decide
  · obtain ⟨words,hwords,hword⟩ := List.mem_flatten.mp hpin
    obtain ⟨pin,hpin,rfl⟩ := List.mem_map.mp hwords
    exact separator_notMem_pinWords (separator_notMem_field hpins hpin) word hword

/-- The bytes that are fed give the words. -/
lemma conditionsWords_eq (h : effective.NulFree) (h' : effective'.NulFree) (hpins : SlotPins effective pins)
    (hpins' : SlotPins effective' pins')
    (hsame : conditionsPreimage effective (materialPins pins) =
      conditionsPreimage effective' (materialPins pins')) :
    conditionsWords effective (materialPins pins) = conditionsWords effective' (materialPins pins') := by
  have hwords := terminated_injective
    (List.forall_mem_map.mpr (separator_notMem_conditionsWords h hpins))
    (List.forall_mem_map.mpr (separator_notMem_conditionsWords h' hpins')) hsame
  exact List.map_injective_iff.mpr (fun _ _ htext => String.toList_injective htext) hwords

lemma pinWords_record (pin : MaterialPin) : Record 3 "materials" (pinWords pin) :=
  ⟨[materialPinRoleCode pin.role,pin.field,hexadecimal pin.content.sha256],_,rfl,rfl,
    decimal_ne_materials _⟩

lemma content_eq {content content' : ContentIdentity} (hdigest : content.sha256 = content'.sha256)
    (hsize : content.byteSize = content'.byteSize) : content = content' := by
  cases content
  cases content'
  cases hdigest
  cases hsize
  rfl

lemma pinWords_identity {pin pin' : MaterialPin} (h : pinWords pin = pinWords pin') :
    pin.identity = pin'.identity := by
  simp only [pinWords,List.cons.injEq,and_true] at h
  obtain ⟨hrole,hfield,hdigest,hsize⟩ := h
  have hrole : pin.role = pin'.role := by
    revert hrole
    cases pin.role <;> cases pin'.role <;> decide
  have hcontent := content_eq (hexadecimal_injective hdigest) (decimal_injective hsize)
  rw [MaterialPin.identity,MaterialPin.identity,hrole,hfield,hcontent]

lemma identities_of_pinWords {pins pins' : List MaterialPin} (h : pins.map pinWords = pins'.map pinWords) :
    pins.map MaterialPin.identity = pins'.map MaterialPin.identity := by
  induction pins generalizing pins' with
  | nil =>
    rw [List.map_nil,eq_comm,List.map_eq_nil_iff] at h
    rw [h]
  | cons pin pins ih =>
    cases pins' with
    | nil => cases h
    | cons pin' pins' =>
      obtain ⟨hpin,hpins⟩ := List.cons.inj h
      rw [List.map_cons,List.map_cons,pinWords_identity hpin,ih hpins]

/-- The counts of takes and of timelines are the counts of their pins. -/
lemma lengths_of_identities (hpins : SlotPins effective pins) (hpins' : SlotPins effective' pins')
    (h : (materialPins pins).map MaterialPin.identity = (materialPins pins').map MaterialPin.identity) :
    effective.takes.length = effective'.takes.length ∧ effective.timelines.length = effective'.timelines.length := by
  have hcount : ∀ role, countRole role (materialPins pins) = countRole role (materialPins pins') := by
    intro role
    have hroles := congrArg (List.countP fun identity => decide (identity.1 = role)) h
    rwa [List.countP_map,List.countP_map] at hroles
  rw [← countRole_take hpins,← countRole_take hpins',← countRole_timeline hpins,← countRole_timeline hpins']
  exact ⟨hcount _,hcount _⟩

lemma timelineWords_length {timelines timelines' : List String} (h : timelines.length = timelines'.length) :
    (timelineWords timelines).length = (timelineWords timelines').length := by
  have hempty : timelines = [] ↔ timelines' = [] := by
    rw [← List.length_eq_zero_iff,h,List.length_eq_zero_iff]
  unfold timelineWords
  by_cases hnil : timelines = []
  · rw [if_pos hnil,if_pos (hempty.mp hnil)]
  · rw [if_neg hnil,if_neg fun h => hnil (hempty.mpr h),List.length_cons,List.length_cons,h]

lemma timelineWords_injective {timelines timelines' : List String}
    (h : timelineWords timelines = timelineWords timelines') : timelines = timelines' := by
  unfold timelineWords at h
  split at h <;> split at h
  · rename_i hnil hnil'
    rw [hnil,hnil']
  · cases h
  · cases h
  · exact (List.cons.inj h).2

/-- With as many takes and timelines, no option is read as the marker of the takes. -/
lemma lists_of_requestWords (htakes : effective.takes.length = effective'.takes.length)
    (htimelines : effective.timelines.length = effective'.timelines.length)
    (h : effective.conditions.coreOptions ++ "takes" :: (effective.takes ++ timelineWords effective.timelines) =
      effective'.conditions.coreOptions ++
        "takes" :: (effective'.takes ++ timelineWords effective'.timelines)) :
    effective.conditions.coreOptions = effective'.conditions.coreOptions ∧ effective.takes = effective'.takes ∧
      effective.timelines = effective'.timelines := by
  have hwords := timelineWords_length htimelines
  obtain ⟨hoptions,hlists⟩ := List.append_inj' h (by simp [htakes,hwords])
  obtain ⟨htakes,hwords⟩ := List.append_inj (List.cons.inj hlists).2 htakes
  exact ⟨hoptions,htakes,timelineWords_injective hwords⟩

lemma shadersWord_injective {shaders shaders' : Option Bool} (h : shadersWord shaders = shadersWord shaders') :
    shaders = shaders' := by
  revert h
  rcases shaders with _ | _ | _ <;> rcases shaders' with _ | _ | _ <;> decide

lemma conditions_eq {values values' : EffectiveConditions} (hprofile : values.profile = values'.profile)
    (hsubsystems : values.subsystems = values'.subsystems) (hbuses : values.muteBuses = values'.muteBuses)
    (hvideo : values.videoOutput = values'.videoOutput) (hpatch : values.patch = values'.patch)
    (hshaders : values.shaders = values'.shaders) (hoptions : values.coreOptions = values'.coreOptions) :
    values = values' := by
  cases values
  cases values'
  simp_all

/-- Equal words come from equal conditions. -/
lemma agree_of_words (hresolved : effective.Resolved) (hresolved' : effective'.Resolved)
    (hpins : SlotPins effective pins) (hpins' : SlotPins effective' pins')
    (h : conditionsWords effective (materialPins pins) = conditionsWords effective' (materialPins pins')) :
    Agree effective effective' (materialPins pins) (materialPins pins') := by
  have hrecords : ∀ pins : List MaterialPin, ∀ record ∈ pins.map pinWords, Record 3 "materials" record := by
    intro pins record hrecord
    obtain ⟨pin,-,rfl⟩ := List.mem_map.mp hrecord
    exact pinWords_record pin
  obtain ⟨hrequest,hwords⟩ := marked_records_inj (hrecords _) (hrecords _) h
  have hidentities := identities_of_pinWords hwords
  obtain ⟨htakes,htimelines⟩ := lengths_of_identities hpins hpins' hidentities
  obtain ⟨hselection,hlists⟩ := List.append_inj hrequest rfl
  obtain ⟨hoptions,htakes,htimelines⟩ := lists_of_requestWords htakes htimelines hlists
  simp only [selectionWords,List.cons.injEq,and_true] at hselection
  obtain ⟨hruntime,hrom,hcore,hpack,-,hmode,htrust,hpresentation,hmanifest,hreference,hprofile,hsubsystems,hbuses,
    hvideo,hpatch,hshaders⟩ := hselection
  exact {
    runtime := hruntime
    rom := hrom
    core := hcore
    pack := hresolved.pack.eq_of_getD hresolved'.pack hpack
    packMode := hmode
    trustRegistry := htrust
    presentation := hpresentation
    playManifest := hresolved.playManifest.eq_of_getD hresolved'.playManifest hmanifest
    reference := hresolved.reference.eq_of_getD hresolved'.reference hreference
    conditions := conditions_eq (hresolved.profile.eq_of_getD hresolved'.profile hprofile)
      (hresolved.subsystems.eq_of_getD hresolved'.subsystems hsubsystems)
      (hresolved.muteBuses.eq_of_getD hresolved'.muteBuses hbuses)
      (hresolved.videoOutput.eq_of_getD hresolved'.videoOutput hvideo)
      (hresolved.patch.eq_of_getD hresolved'.patch hpatch) (shadersWord_injective hshaders) hoptions
    takes := htakes
    timelines := htimelines
    pins := hidentities }

lemma text_of_append {front text text' : String} (h : front ++ text = front ++ text') : text = text' := by
  have hlists := congrArg String.toList h
  rw [String.toList_append,String.toList_append] at hlists
  exact String.toList_injective (List.append_cancel_left hlists)

/-- Two requests have the same identity of conditions only where they agree or the hasher collides. -/
theorem checkConditionsId_collision {sameFile sameFile' : String → String → Bool} {options options' : CheckOptions}
    {sources sources' : ConditionSources} {identify : List Char → ContentIdentity}
    (h : resolveEffectiveRequest sameFile options sources = .ok effective)
    (h' : resolveEffectiveRequest sameFile' options' sources' = .ok effective')
    (hnul : effective.NulFree) (hnul' : effective'.NulFree) (hpins : SlotPins effective pins)
    (hpins' : SlotPins effective' pins')
    (hsame : checkConditionsId identify effective (materialPins pins) =
      checkConditionsId identify effective' (materialPins pins')) :
    Agree effective effective' (materialPins pins) (materialPins pins') ∨
      ∃ bytes bytes', bytes ≠ bytes' ∧ (identify bytes).sha256 = (identify bytes').sha256 := by
  by_cases hbytes : conditionsPreimage effective (materialPins pins) =
      conditionsPreimage effective' (materialPins pins')
  · left
    exact agree_of_words (resolveEffectiveRequest_resolved h) (resolveEffectiveRequest_resolved h') hpins hpins'
      (conditionsWords_eq hnul hnul' hpins hpins' hbytes)
  · right
    exact ⟨_,_,hbytes,hexadecimal_injective (text_of_append hsame)⟩

/-- The bytes of the conditions of a resolved request, with a pin for each of its materials, are those of no
other conditions. -/
theorem conditionsPreimage_agree {sameFile sameFile' : String → String → Bool} {options options' : CheckOptions}
    {sources sources' : ConditionSources}
    (h : resolveEffectiveRequest sameFile options sources = .ok effective)
    (h' : resolveEffectiveRequest sameFile' options' sources' = .ok effective')
    (hnul : effective.NulFree) (hnul' : effective'.NulFree) (hpins : SlotPins effective pins)
    (hpins' : SlotPins effective' pins')
    (hsame : conditionsPreimage effective (materialPins pins) =
      conditionsPreimage effective' (materialPins pins')) :
    Agree effective effective' (materialPins pins) (materialPins pins') :=
  agree_of_words (resolveEffectiveRequest_resolved h) (resolveEffectiveRequest_resolved h') hpins hpins'
    (conditionsWords_eq hnul hnul' hpins hpins' hsame)

end Agreement

section Plain

def plainOptions (language : String) : CheckOptions where
  runtime := "runtime"
  rom := "game.md"
  core := "core.so"
  takes := ["takes"]
  timelines := ["walk.toml"]
  output := "out"
  language := language
  coreOptions := ["takes"]

lemma plainHash_length : (List.replicate 32 (7 : UInt8)).length = 32 := by decide

def plainPin (role : MaterialPinRole) (field : String) (position : ℕ) : MaterialPin :=
  ⟨role,field,position,⟨List.replicate 32 7,5,plainHash_length⟩⟩

def plainPins : PreflightPins where
  runtime := plainPin .runtime "--runtime" 0
  rom := plainPin .rom "--rom" 0
  core := plainPin .core "--core" 0
  takes := [plainPin .take (takeField 0) 0]
  pack := none
  trustRegistry := none
  timelines := [plainPin .timeline (timelineField 0) 1]
  timelineStates := []
  timelineFmSidecars := []

/-- The language is no condition. -/
theorem plainOptions_agree :
    Agree (effectiveRequest (plainOptions "es") {}) (effectiveRequest (plainOptions "en") {})
      (materialPins plainPins) (materialPins plainPins) := by
  have hpins : ∀ language, SlotPins (effectiveRequest (plainOptions language) {}) plainPins := fun language =>
    ⟨rfl,rfl,rfl,rfl,rfl,by simp [plainPins],by simp [plainPins],rfl,rfl⟩
  have hnul : ∀ text ∈ (effectiveRequest (plainOptions "es") {}).texts, separator ∉ text.toList := by decide +kernel
  have hnul' : ∀ text ∈ (effectiveRequest (plainOptions "en") {}).texts, separator ∉ text.toList := by decide +kernel
  have hes : resolveEffectiveRequest (fun _ _ => true) (plainOptions "es") {} =
      .ok (effectiveRequest (plainOptions "es") {}) := by decide +kernel
  have hen : resolveEffectiveRequest (fun _ _ => true) (plainOptions "en") {} =
      .ok (effectiveRequest (plainOptions "en") {}) := by decide +kernel
  exact conditionsPreimage_agree hes hen hnul hnul' (hpins _) (hpins _) (by decide +kernel)

end Plain
end AytherRuntime.Check
