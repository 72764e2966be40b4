import AytherRuntime.Check.EffectiveValues
import AytherRuntime.Player.RuntimeOptions

/-! The command line that a check gives to the Runtime for one take, and the options that the Runtime reads of it. -/
namespace AytherRuntime.Check
open Player

section Arguments

def appendValueArgument (option : String) (value : Option String) : List String :=
  match value with
  | none => []
  | some value => if value = "" then [] else [option,value]

/-- A pack is loaded. -/
def EffectiveRequest.hd (request : EffectiveRequest) : Bool := request.pack.isSome && request.packMode = "hd"

variable (request : EffectiveRequest) (controlToken dataToken runId : String) (takePosition : ℕ) (lastTake : Bool)

def runtimeReplayArguments : List String :=
  ["--qa-session"] ++ ["--qa-control-channel",controlToken] ++ ["--qa-data-channel",dataToken] ++
  ["--qa-run-id",runId] ++ ["--core",request.core] ++ ["--rom",request.rom] ++
  (if request.hd then ["--pack",request.pack.getD ""] else []) ++
  appendValueArgument "--manifest" request.playManifest ++
  appendValueArgument "--qa-presentation" (some request.presentation) ++
  (if request.hd then appendValueArgument "--profile" request.conditions.profile else []) ++
  appendValueArgument "--subsystems" request.conditions.subsystems ++
  appendValueArgument "--mute-buses" request.conditions.muteBuses ++
  appendValueArgument "--output" request.conditions.videoOutput ++
  appendValueArgument "--patch" request.conditions.patch ++
  (request.conditions.shaders.toList.map fun shaders => if shaders then "--shaders" else "--no-shaders") ++
  (request.conditions.coreOptions.flatMap fun option => ["--core-option",option]) ++
  (if request.trustRegistry ≠ "" then ["--trust-registry",request.trustRegistry] else []) ++
  ["--qa-take-position",toString takePosition] ++ (if lastTake then ["--qa-last-take"] else []) ++
  if request.atEnd = "close" then ["--qa-close-at-end"] else []

end Arguments

section Reading

/-- A value that is given. -/
def filled (value : Option String) : Option String := value.filter (· ≠ "")

/-- A value that is given is no option. -/
def passes (value : Option String) : Bool := (filled value).all fun value => !opensOption value

/-- The number of a text that is nothing but its digits. -/
def maskOf (text : String) : Option UInt32 :=
  (RuntimeOptions.parseUnsigned (2 ^ 32) false text).toOption.map UInt32.ofNat

variable (request : EffectiveRequest) (controlToken dataToken runId : String) (takePosition : ℕ) (lastTake : Bool)

/-- What the Runtime needs of the request to read its command line. -/
structure Readable : Prop where
  controlToken : opensOption controlToken = false
  dataToken : opensOption dataToken = false
  runId : opensOption runId = false
  core : opensOption request.core = false
  rom : opensOption request.rom = false
  pack : request.hd = true → opensOption (request.pack.getD "") = false ∧ request.pack.getD "" ≠ ""
  manifest : passes request.playManifest = true
  presentation : request.presentation ∈ ["","none","visible"]
  profile : request.hd = true → passes request.conditions.profile = true
  subsystems : ∀ text ∈ filled request.conditions.subsystems, (maskOf text).isSome = true
  muteBuses : ∀ text ∈ filled request.conditions.muteBuses, (maskOf text).isSome = true
  output : passes request.conditions.videoOutput = true
  patch : passes request.conditions.patch = true
  coreOptions : ∀ option ∈ request.conditions.coreOptions,
    opensOption option = false ∧ (parseCoreOption option).isOk = true
  trustRegistry : opensOption request.trustRegistry = false
  takePosition : takePosition < 2 ^ 32

/-- The options that the request stands for. -/
def handedOver : RuntimeOptions where
  qaSession := true
  qaControlChannel := controlToken
  qaDataChannel := dataToken
  qaRunId := runId
  corePath := request.core
  romPath := request.rom
  packPath := if request.hd then request.pack.getD "" else ""
  manifestPath := (filled request.playManifest).getD ""
  qaPresentation := (filled (some request.presentation)).getD "none"
  profile := if request.hd then (filled request.conditions.profile).getD "" else ""
  subsystems := (filled request.conditions.subsystems).bind maskOf
  muteBuses := (filled request.conditions.muteBuses).bind maskOf
  output := (filled request.conditions.videoOutput).getD ""
  patchPath := (filled request.conditions.patch).getD ""
  shaders := request.conditions.shaders
  coreOptions := request.conditions.coreOptions.filterMap fun option => (parseCoreOption option).toOption
  trustRegistryPath := request.trustRegistry
  qaTakePosition := UInt32.ofNat takePosition
  qaLastTake := lastTake
  qaCloseAtEnd := request.atEnd = "close"

end Reading

section Groups
variable {option : String}

/-- A value that is appended only where it is given. -/
lemma means_appended {value : Option String} {effect : String → RuntimeOptions → Option RuntimeOptions}
    (h : ∀ value, Means [option,value] (effect value)) :
    Means (appendValueArgument option value) fun options => (filled value).elim (some options) (effect · options) := by
  unfold appendValueArgument filled
  cases value with
  | none => exact means_nil
  | some value =>
    by_cases hempty : value = ""
    · subst hempty
      exact means_nil
    · simp only [if_neg hempty,Option.filter_some]
      exact means_congr (h value) fun options => by simp [hempty]

lemma means_coreOptions (given : List String) :
    Means (given.flatMap fun option => ["--core-option",option])
      (guarded (given.all fun option => !opensOption option && (parseCoreOption option).isOk) fun options =>
        { options with coreOptions := options.coreOptions ++ given.filterMap fun option =>
            (parseCoreOption option).toOption }) := by
  induction given with
  | nil => exact means_congr means_nil fun options => by simp [guarded]
  | cons option given ih =>
    have hvalue : Means ["--core-option",option]
        (guarded (!opensOption option && (parseCoreOption option).isOk) fun options =>
          { options with coreOptions := options.coreOptions ++ (parseCoreOption option).toOption.toList }) :=
      means_congr (means_value rfl) fun options => by
        cases opensOption option <;> cases parseCoreOption option <;> rfl
    rw [List.flatMap_cons]
    refine means_congr (hvalue.and ih) fun options => ?_
    rw [List.all_cons]
    cases hoption : parseCoreOption option with
    | error error => simp [guarded,Except.isOk,Except.toBool]
    | ok key => simp [guarded,Except.toOption,hoption]

/-- A text that is appended where it is given. -/
lemma means_appendedText {set : String → RuntimeOptions → RuntimeOptions}
    (h : optionReaders.lookup option = some (textOption set)) (value : Option String) :
    Means (appendValueArgument option value)
      (guarded (passes value) fun options => (filled value).elim options (set · options)) :=
  means_congr (means_appended fun value => means_text h value) fun options => by
    unfold passes
    cases filled value <;> rfl

/-- A number that is appended where it is given. -/
lemma means_appendedMask {set : ℕ → RuntimeOptions → RuntimeOptions}
    (h : optionReaders.lookup option = some (numberOption (2 ^ 32) false set)) (value : Option String) :
    Means (appendValueArgument option value)
      (guarded ((filled value).all fun text => (maskOf text).isSome) fun options =>
      (filled value).elim options fun text =>
        (RuntimeOptions.parseUnsigned (2 ^ 32) false text).toOption.elim options (set · options)) :=
  means_congr (means_appended fun value => means_number h value) fun options => by
    cases filled value with
    | none => rfl
    | some text =>
      simp only [Option.elim_some,Option.all_some,maskOf]
      cases RuntimeOptions.parseUnsigned (2 ^ 32) false text <;> rfl

lemma means_appendedName {names : List String} {set : String → RuntimeOptions → RuntimeOptions}
    (h : optionReaders.lookup option = some (namedOption names set)) (value : Option String) :
    Means (appendValueArgument option value)
      (guarded ((filled value).all fun text => !opensOption text && names.contains text) fun options =>
        (filled value).elim options (set · options)) :=
  means_congr (means_appended fun value => means_named h value) fun options => by cases filled value <;> rfl

end Groups

section HandOver
variable (request : EffectiveRequest) (controlToken dataToken runId : String) (takePosition : ℕ) (lastTake : Bool)

lemma means_position :
    Means ["--qa-take-position",toString takePosition] (guarded (takePosition < 2 ^ 32) fun options =>
    { options with qaTakePosition := UInt32.ofNat takePosition }) :=
  means_congr (means_number rfl _) fun options => by
    rw [RuntimeOptions.parseUnsigned_toString]
    unfold guarded
    by_cases h : takePosition < 2 ^ 32 <;> simp

lemma means_shaders (shaders : Option Bool) :
    Means (shaders.toList.map fun shaders => if shaders then "--shaders" else "--no-shaders")
      (guarded true fun options => { options with shaders := shaders.or options.shaders }) := by
  obtain _ | _ | _ := shaders
  · exact means_nil
  · exact means_flag rfl
  · exact means_flag rfl

/-- The conditions under which the groups of the command line are read. -/
def accepted : Bool :=
  !opensOption controlToken && !opensOption dataToken && !opensOption runId && !opensOption request.core &&
  !opensOption request.rom &&
  (!request.hd || (!opensOption (request.pack.getD "") && request.pack.getD "" ≠ "")) &&
  passes request.playManifest &&
  ((filled (some request.presentation)).all fun text => !opensOption text && ["none","visible"].contains text) &&
  (!request.hd || passes request.conditions.profile) &&
  ((filled request.conditions.subsystems).all fun text => (maskOf text).isSome) &&
  ((filled request.conditions.muteBuses).all fun text => (maskOf text).isSome) &&
  passes request.conditions.videoOutput && passes request.conditions.patch &&
  (request.conditions.coreOptions.all fun option => !opensOption option && (parseCoreOption option).isOk) &&
  (request.trustRegistry = "" || (!opensOption request.trustRegistry && request.trustRegistry ≠ "")) &&
  (takePosition < 2 ^ 32 : Bool)

lemma runtimeReplayArguments_means :
    ∃ set, Means (runtimeReplayArguments request controlToken dataToken runId takePosition lastTake)
      (guarded (accepted request controlToken dataToken runId takePosition) set) ∧
      set {} = handedOver request controlToken dataToken runId takePosition lastTake := by
  have hsession : Means ["--qa-session"] (guarded true _) := means_flag rfl
  have hcontrol : Means ["--qa-control-channel",controlToken] (guarded _ _) := means_text rfl controlToken
  have hdata : Means ["--qa-data-channel",dataToken] (guarded _ _) := means_text rfl dataToken
  have hrun : Means ["--qa-run-id",runId] (guarded _ _) := means_text rfl runId
  have hcore : Means ["--core",request.core] (guarded _ _) := means_text rfl request.core
  have hrom : Means ["--rom",request.rom] (guarded _ _) := means_text rfl request.rom
  have hpack : Means (if request.hd then ["--pack",request.pack.getD ""] else []) (guarded _ fun options =>
      { options with packPath := if request.hd then request.pack.getD "" else options.packPath }) :=
    ((means_filled rfl (request.pack.getD "")).when request.hd).sets fun options => by cases request.hd <;> rfl
  have hmanifest : Means (appendValueArgument "--manifest" request.playManifest) (guarded _ fun options =>
      { options with manifestPath := (filled request.playManifest).getD options.manifestPath }) :=
    (means_appendedText rfl request.playManifest).sets fun options => by cases filled request.playManifest <;> rfl
  have hpresentation : Means (appendValueArgument "--qa-presentation" (some request.presentation))
      (guarded _ fun options =>
      { options with qaPresentation := (filled (some request.presentation)).getD options.qaPresentation }) :=
    (means_appendedName rfl (some request.presentation)).sets fun options => by
      cases filled (some request.presentation) <;> rfl
  have hprofile : Means (if request.hd then appendValueArgument "--profile" request.conditions.profile else [])
      (guarded _ fun options => { options with
        profile := if request.hd then (filled request.conditions.profile).getD options.profile
          else options.profile }) :=
    ((means_appendedText rfl request.conditions.profile).when request.hd).sets fun options => by
      cases request.hd <;> cases filled request.conditions.profile <;> rfl
  have hsubsystems : Means (appendValueArgument "--subsystems" request.conditions.subsystems) (guarded _ fun options =>
      { options with subsystems := ((filled request.conditions.subsystems).bind maskOf).or options.subsystems }) :=
    (means_appendedMask rfl request.conditions.subsystems).sets fun options => by
      obtain _ | text := filled request.conditions.subsystems
      · rfl
      · rw [Option.bind_some,maskOf,Option.elim_some]
        cases RuntimeOptions.parseUnsigned (2 ^ 32) false text <;> rfl
  have hmute : Means (appendValueArgument "--mute-buses" request.conditions.muteBuses) (guarded _ fun options =>
      { options with muteBuses := ((filled request.conditions.muteBuses).bind maskOf).or options.muteBuses }) :=
    (means_appendedMask rfl request.conditions.muteBuses).sets fun options => by
      obtain _ | text := filled request.conditions.muteBuses
      · rfl
      · rw [Option.bind_some,maskOf,Option.elim_some]
        cases RuntimeOptions.parseUnsigned (2 ^ 32) false text <;> rfl
  have houtput : Means (appendValueArgument "--output" request.conditions.videoOutput) (guarded _ fun options =>
      { options with output := (filled request.conditions.videoOutput).getD options.output }) :=
    (means_appendedText rfl request.conditions.videoOutput).sets fun options => by
      cases filled request.conditions.videoOutput <;> rfl
  have hpatch : Means (appendValueArgument "--patch" request.conditions.patch) (guarded _ fun options =>
      { options with patchPath := (filled request.conditions.patch).getD options.patchPath }) :=
    (means_appendedText rfl request.conditions.patch).sets
      fun options => by cases filled request.conditions.patch <;> rfl
  have htrust : Means (if request.trustRegistry ≠ "" then ["--trust-registry",request.trustRegistry] else [])
      (guarded (request.trustRegistry = "" || (!opensOption request.trustRegistry && request.trustRegistry ≠ ""))
        fun options => { options with trustRegistryPath :=
          if request.trustRegistry ≠ "" then request.trustRegistry else options.trustRegistryPath }) := by
    by_cases h : request.trustRegistry = ""
    · rw [if_neg (not_not.mpr h)]
      exact means_congr means_nil fun options => by simp [guarded,h]
    · rw [if_pos h]
      exact means_congr (means_filled rfl _) fun options => by simp [guarded,h]
  have hlast : Means (if lastTake then ["--qa-last-take"] else []) (guarded _ fun options =>
      { options with qaLastTake := lastTake || options.qaLastTake }) :=
    ((means_flag rfl).when lastTake).sets fun options => by cases lastTake <;> rfl
  have hclose : Means (if request.atEnd = "close" then ["--qa-close-at-end"] else []) (guarded true fun options =>
      { options with qaCloseAtEnd := request.atEnd = "close" || options.qaCloseAtEnd }) := by
    by_cases h : request.atEnd = "close"
    · rw [if_pos h]
      exact means_congr (means_flag rfl) fun options => by simp [guarded,h]
    · rw [if_neg h]
      exact means_congr means_nil fun options => by simp [guarded,h]
  have hmeans := hsession.and hcontrol |>.and hdata |>.and hrun |>.and hcore |>.and hrom |>.and hpack |>.and hmanifest
    |>.and hpresentation |>.and hprofile |>.and hsubsystems |>.and hmute |>.and houtput |>.and hpatch
    |>.and (means_shaders request.conditions.shaders) |>.and (means_coreOptions request.conditions.coreOptions)
    |>.and htrust |>.and (means_position takePosition) |>.and hlast |>.and hclose
  refine ⟨_,hmeans.accepts ?_,?_⟩
  · unfold accepted
    simp only [Bool.true_and,Bool.and_true,Bool.or_true]
  · have htext : (if request.trustRegistry ≠ "" then request.trustRegistry else "") = request.trustRegistry := by
      by_cases h : request.trustRegistry = "" <;> simp [h]
    refine Eq.trans (b := { handedOver request controlToken dataToken runId takePosition lastTake with
      subsystems := ((filled request.conditions.subsystems).bind maskOf).or none
      muteBuses := ((filled request.conditions.muteBuses).bind maskOf).or none
      shaders := request.conditions.shaders.or none
      trustRegistryPath := if request.trustRegistry ≠ "" then request.trustRegistry else ""
      qaLastTake := lastTake || false
      qaCloseAtEnd := request.atEnd = "close" || false }) rfl ?_
    rw [htext,Option.or_none,Option.or_none,Option.or_none,Bool.or_false,Bool.or_false]
    rfl

lemma presentation_iff (text : String) :
    ((filled (some text)).all fun text => !opensOption text && ["none","visible"].contains text) = true ↔
      text ∈ ["","none","visible"] := by
  by_cases h : text = ""
  · subst h
    decide
  · have hfilled : filled (some text) = some text := by
      unfold filled
      rw [Option.filter_some,if_pos (decide_eq_true h)]
    rw [hfilled,Option.all_some,Bool.and_eq_true,List.contains_iff_mem,
      show text ∈ ["","none","visible"] ↔ text = "" ∨ text ∈ ["none","visible"] from List.mem_cons,or_iff_right h]
    refine ⟨And.right,fun hname => ⟨?_,hname⟩⟩
    simp only [List.mem_cons,List.not_mem_nil,or_false] at hname
    obtain rfl | rfl := hname <;> decide

lemma trustRegistry_iff (text : String) :
    text = "" ∨ opensOption text = false ∧ text ≠ "" ↔ opensOption text = false := by
  by_cases h : text = ""
  · subst h
    decide
  · exact ⟨fun hleft => (hleft.resolve_left h).1,fun hright => Or.inr ⟨hright,h⟩⟩

lemma accepted_iff : accepted request controlToken dataToken runId takePosition = true ↔
    Readable request controlToken dataToken runId takePosition := by
  have hall : ∀ (text : Option String), ((text.all fun text => (maskOf text).isSome) = true ↔
      ∀ text' ∈ text, (maskOf text').isSome = true) := by
    intro text
    cases text <;> simp
  unfold accepted
  simp only [Bool.and_eq_true,presentation_iff,trustRegistry_iff,hall,Bool.not_eq_true',Bool.or_eq_true,
    decide_eq_true_eq,
    ← Bool.not_eq_true request.hd,← imp_iff_not_or,List.all_eq_true]
  constructor
  · rintro ⟨⟨⟨⟨⟨⟨⟨⟨⟨⟨⟨⟨⟨⟨⟨hcontrol,hdata⟩,hrun⟩,hcore⟩,hrom⟩,hpack⟩,hmanifest⟩,hpresentation⟩,hprofile⟩,
      hsubsystems⟩,hmute⟩,
      houtput⟩,hpatch⟩,hoptions⟩,htrust⟩,hposition⟩
    exact ⟨hcontrol,hdata,hrun,hcore,hrom,hpack,hmanifest,hpresentation,hprofile,hsubsystems,hmute,houtput,hpatch,
      hoptions,
      htrust,hposition⟩
  · rintro ⟨hcontrol,hdata,hrun,hcore,hrom,hpack,hmanifest,hpresentation,hprofile,hsubsystems,hmute,houtput,hpatch,
      hoptions,
      htrust,hposition⟩
    exact ⟨⟨⟨⟨⟨⟨⟨⟨⟨⟨⟨⟨⟨⟨⟨hcontrol,hdata⟩,hrun⟩,hcore⟩,hrom⟩,hpack⟩,hmanifest⟩,hpresentation⟩,hprofile⟩,
      hsubsystems⟩,hmute⟩,
      houtput⟩,hpatch⟩,hoptions⟩,htrust⟩,hposition⟩

/-- The Runtime reads the command line of a take exactly where each of its values can stand for one, and then it reads
the options that the request stands for. -/
theorem runtimeReplayArguments_parsed (options : RuntimeOptions) :
    RuntimeOptions.parse (runtimeReplayArguments request controlToken dataToken runId takePosition lastTake) =
      .ok options ↔
      Readable request controlToken dataToken runId takePosition ∧
        options = handedOver request controlToken dataToken runId takePosition lastTake := by
  obtain ⟨set,hmeans,hset⟩ :=
    runtimeReplayArguments_means request controlToken dataToken runId takePosition lastTake
  obtain ⟨later,hparse⟩ := hmeans {} [] 1 []
  rw [List.append_nil] at hparse
  rw [← accepted_iff]
  cases haccepted : accepted request controlToken dataToken runId takePosition with
  | false =>
    rw [haccepted] at hparse
    refine ⟨fun hoptions => ?_,fun hoptions => absurd hoptions.1 Bool.false_ne_true⟩
    unfold RuntimeOptions.parse at hoptions
    cases harguments : parseArguments {} [] 1 (runtimeReplayArguments request controlToken dataToken runId takePosition
      lastTake) with
    | error error =>
      rw [harguments] at hoptions
      cases hoptions
    | ok parsed =>
      rw [harguments] at hparse
      cases hparse
  | true =>
    rw [haccepted] at hparse
    have harguments : parseArguments {} [] 1 (runtimeReplayArguments request controlToken dataToken runId takePosition
        lastTake) = .ok (set {},[]) := by
      cases hresult : parseArguments {} [] 1 (runtimeReplayArguments request controlToken dataToken runId takePosition
        lastTake) with
      | error error =>
        rw [hresult] at hparse
        cases hparse
      | ok parsed =>
        rw [hresult] at hparse
        cases hparse
        rfl
    have hwhole : (set {}).withPositional [] = set {} := by
      unfold RuntimeOptions.withPositional
      simp
    unfold RuntimeOptions.parse
    rw [harguments]
    dsimp only
    rw [hwhole,hset,if_neg fun hnative => Bool.false_ne_true hnative.2]
    exact ⟨fun h => ⟨rfl,(Except.ok.inj h).symm⟩,fun h => congrArg Except.ok h.2.symm⟩

end HandOver
end AytherRuntime.Check
