import AytherRuntime.Fact.Model
import Mathlib.Data.List.Infix

/-! The command line of the Runtime: options with and without a value, in any order, and up to two arguments without an
option. -/
namespace AytherRuntime.Player

structure RuntimeOptions where
  provider : String := "libretro"
  nativeTracePath : String := ""
  nativeInputMask : UInt32 := 0
  nativeDeactivateAt : UInt64 := 0
  nativeReactivateAt : UInt64 := 0
  nativeVisible : Bool := false
  nativeAudioDevice : Bool := false
  nativeGpuProbe : Bool := false
  corePath : String := ""
  romPath : String := ""
  packPath : String := ""
  romRevision : String := ""
  packRevision : String := ""
  trustRegistryPath : String := ""
  patchPath : String := ""
  profile : String := ""
  savesDirectory : String := ""
  romCrc32 : String := ""
  loadState : String := ""
  inputMapPath : String := ""
  coreOptions : List (String × String) := []
  subsystems : Option UInt32 := none
  muteBuses : Option UInt32 := none
  shaders : Option Bool := none
  output : String := ""
  framesLimit : UInt64 := 0
  captureAt : List UInt64 := []
  crashTest : Bool := false
  probeCore : String := ""
  probeRom : String := ""
  probePack : String := ""
  manifestPath : String := ""
  hdCompose : Bool := false
  playProtocolVersion : Option UInt32 := none
  qaCapabilities : Bool := false
  qaSession : Bool := false
  qaControlChannel : String := ""
  qaDataChannel : String := ""
  qaRunId : String := ""
  qaPresentation : String := "none"
  qaTakePosition : UInt32 := 0
  qaLastTake : Bool := false
  qaCloseAtEnd : Bool := false
  deriving DecidableEq, Repr

inductive RuntimeOptionErrorCode
  | missingValue | emptyValue | invalidSign | invalidInteger | integerOverflow | trailingCharacters | valueOutOfDomain
  | malformedList | malformedCoreOption
  deriving DecidableEq, Repr

structure RuntimeOptionError where
  code : RuntimeOptionErrorCode
  option : String
  value : String
  argumentIndex : ℕ
  deriving DecidableEq, Repr

section Values

/-- What a value is refused for, and the part of it that is. -/
abbrev ValueError := RuntimeOptionErrorCode × String

/-- A decimal number below a bound, as `std::from_chars` reads it. -/
def RuntimeOptions.parseUnsigned (bound : ℕ) (requirePositive : Bool) (text : String) : Except ValueError ℕ :=
  let digits := text.toList.takeWhile Char.isDigit
  if text = "" then .error (.emptyValue,text)
  else if text.toList.head? = some '+' ∨ text.toList.head? = some '-' then .error (.invalidSign,text)
  else if digits = [] then .error (.invalidInteger,text)
  else
    match fromChars bound digits with
    | none => .error (.integerOverflow,text)
    | some value =>
      if digits ≠ text.toList then .error (.trailingCharacters,text)
      else if requirePositive && value = 0 then .error (.valueOutOfDomain,text)
      else .ok value

def parseElements : List (List Char) → Except ValueError (List UInt64)
  | [] => .ok []
  | element :: elements =>
    match RuntimeOptions.parseUnsigned (2 ^ 64) true (String.ofList element) with
    | .error error => .error error
    | .ok frame => (parseElements elements).map (UInt64.ofNat frame :: ·)

/-- The frames of a list with commas between them. -/
def parseCaptureList (text : String) : Except ValueError (List UInt64) :=
  if text = "" then .error (.emptyValue,text)
  else if text.toList.head? = some ',' ∨ text.toList.getLast? = some ',' ∨ ",,".toList <:+: text.toList then
    .error (.malformedList,text)
  else parseElements (text.toList.splitOn ',')

/-- A key that is not empty and its value, at the first equals sign. -/
def parseCoreOption (text : String) : Except ValueError (String × String) :=
  let key := text.toList.takeWhile (· ≠ '=')
  if key = text.toList ∨ key = [] then .error (.malformedCoreOption,text)
  else .ok (String.ofList key,String.ofList (text.toList.drop (key.length + 1)))

end Values

section Readers

/-- What an option does: alone, or with the argument behind it. -/
inductive OptionReader
  | flag (set : RuntimeOptions → RuntimeOptions)
  | value (read : String → RuntimeOptions → Except ValueError RuntimeOptions)

def textOption (set : String → RuntimeOptions → RuntimeOptions) : OptionReader := .value fun text options =>
  .ok (set text options)

def filledOption (set : String → RuntimeOptions → RuntimeOptions) : OptionReader := .value fun text options =>
  if text = "" then .error (.emptyValue,"") else .ok (set text options)

def namedOption (names : List String) (set : String → RuntimeOptions → RuntimeOptions) : OptionReader :=
  .value fun text options => if names.contains text then .ok (set text options) else .error (.valueOutOfDomain,text)

def numberOption (bound : ℕ) (requirePositive : Bool) (set : ℕ → RuntimeOptions → RuntimeOptions) : OptionReader :=
  .value fun text options => (RuntimeOptions.parseUnsigned bound requirePositive text).map (set · options)

def optionReaders : List (String × OptionReader) :=
  [("--provider",namedOption ["libretro","tessera"] fun text options => { options with provider := text }),
    ("--native-trace",filledOption fun text options => { options with nativeTracePath := text }),
    ("--native-visible",.flag fun options => { options with nativeVisible := true }),
    ("--native-audio-device",.flag fun options => { options with nativeAudioDevice := true }),
    ("--native-gpu-probe",.flag fun options => { options with nativeGpuProbe := true }),
    ("--core",textOption fun text options => { options with corePath := text }),
    ("--rom",textOption fun text options => { options with romPath := text }),
    ("--rom-revision",filledOption fun text options => { options with romRevision := text }),
    ("--pack-revision",filledOption fun text options => { options with packRevision := text }),
    ("--pack",filledOption fun text options => { options with packPath := text }),
    ("--trust-registry",filledOption fun text options => { options with trustRegistryPath := text }),
    ("--patch",textOption fun text options => { options with patchPath := text }),
    ("--profile",textOption fun text options => { options with profile := text }),
    ("--saves-dir",textOption fun text options => { options with savesDirectory := text }),
    ("--load-state",textOption fun text options => { options with loadState := text }),
    ("--input-map",filledOption fun text options => { options with inputMapPath := text }),
    ("--rom-crc32",textOption fun text options => { options with romCrc32 := text }),
    ("--output",textOption fun text options => { options with output := text }),
    ("--manifest",textOption fun text options => { options with manifestPath := text }),
    ("--probe-core",textOption fun text options => { options with probeCore := text }),
    ("--probe-rom",textOption fun text options => { options with probeRom := text }),
    ("--probe-pack",textOption fun text options => { options with probePack := text }),
    ("--qa-presentation",namedOption ["none","visible"] fun text options => { options with qaPresentation := text }),
    ("--qa-control-channel",textOption fun text options => { options with qaControlChannel := text }),
    ("--qa-data-channel",textOption fun text options => { options with qaDataChannel := text }),
    ("--qa-run-id",textOption fun text options => { options with qaRunId := text }),
    ("--subsystems",numberOption (2 ^ 32) false fun n options => { options with subsystems := some (UInt32.ofNat n) }),
    ("--mute-buses",numberOption (2 ^ 32) false fun n options => { options with muteBuses := some (UInt32.ofNat n) }),
    ("--play-protocol-version",numberOption (2 ^ 32) false fun n options =>
      { options with playProtocolVersion := some (UInt32.ofNat n) }),
    ("--native-input-mask",.value fun text options => (RuntimeOptions.parseUnsigned (2 ^ 32) false text).bind fun n =>
      if 255 < n then .error (.valueOutOfDomain,text) else .ok { options with nativeInputMask := UInt32.ofNat n }),
    ("--native-deactivate-at",numberOption (2 ^ 64) true fun n options =>
      { options with nativeDeactivateAt := UInt64.ofNat n }),
    ("--native-reactivate-at",numberOption (2 ^ 64) true fun n options =>
      { options with nativeReactivateAt := UInt64.ofNat n }),
    ("--qa-take-position",numberOption (2 ^ 32) false fun n options =>
      { options with qaTakePosition := UInt32.ofNat n }),
    ("--qa-last-take",.flag fun options => { options with qaLastTake := true }),
    ("--qa-close-at-end",.flag fun options => { options with qaCloseAtEnd := true }),
    ("--frames",numberOption (2 ^ 64) false fun n options => { options with framesLimit := UInt64.ofNat n }),
    ("--capture-at",.value fun text options => (parseCaptureList text).map fun frames =>
      { options with captureAt := options.captureAt ++ frames }),
    ("--core-option",.value fun text options => (parseCoreOption text).map fun option =>
      { options with coreOptions := options.coreOptions ++ [option] }),
    ("--no-shaders",.flag fun options => { options with shaders := some false }),
    ("--shaders",.flag fun options => { options with shaders := some true }),
    ("--crash-test",.flag fun options => { options with crashTest := true }),
    ("--hd-compose",.flag fun options => { options with hdCompose := true }),
    ("--qa-capabilities",.flag fun options => { options with qaCapabilities := true }),
    ("--qa-session",.flag fun options => { options with qaSession := true })]

end Readers

section Parse

/-- An argument that is no value of the option before it. -/
def opensOption (argument : String) : Bool := "--".toList.isPrefixOf argument.toList

/-- The options of some arguments, the first one with the given index, and the arguments without an option. -/
def parseArguments (options : RuntimeOptions) (positional : List String) :
    ℕ → List String → Except RuntimeOptionError (RuntimeOptions × List String)
  | _, [] => .ok (options,positional)
  | index, argument :: rest =>
    match optionReaders.lookup argument with
    | none => parseArguments options (positional ++ [argument]) (index + 1) rest
    | some (.flag set) => parseArguments (set options) positional (index + 1) rest
    | some (.value read) =>
      match rest with
      | [] => .error ⟨.missingValue,argument,"",index⟩
      | value :: rest =>
        if opensOption value then .error ⟨.missingValue,argument,"",index⟩
        else
          match read value options with
          | .error (code,refused) => .error ⟨code,argument,refused,index + 1⟩
          | .ok options => parseArguments options positional (index + 2) rest

/-- The arguments without an option are the core and the game, where no option gave them. -/
def RuntimeOptions.withPositional (options : RuntimeOptions) (positional : List String) : RuntimeOptions :=
  { options with
    corePath := if options.corePath = "" then positional.head?.getD options.corePath else options.corePath
    romPath := if options.romPath = "" then positional[1]?.getD options.romPath else options.romPath }

/-- The native options are there. -/
def RuntimeOptions.native (options : RuntimeOptions) : Bool :=
  options.nativeTracePath ≠ "" || options.nativeVisible || options.nativeGpuProbe || options.nativeAudioDevice ||
    options.nativeInputMask ≠ 0 || options.nativeDeactivateAt ≠ 0 || options.nativeReactivateAt ≠ 0

/-- The arguments behind the name of the program. -/
def RuntimeOptions.parse (arguments : List String) : Except RuntimeOptionError RuntimeOptions :=
  match parseArguments {} [] 1 arguments with
  | .error error => .error error
  | .ok (options,positional) =>
    let options := options.withPositional positional
    if options.provider ≠ "tessera" ∧ options.native = true then
      .error ⟨.valueOutOfDomain,"--provider",options.provider,arguments.length + 1⟩
    else .ok options

end Parse

section Meaning
variable {option value : String} {set target : RuntimeOptions → RuntimeOptions}

/-- The options that some arguments leave, whatever stands around them: none where the parser refuses them. -/
def Means (arguments : List String) (effect : RuntimeOptions → Option RuntimeOptions) : Prop :=
  ∀ options positional index rest, ∃ later, (parseArguments options positional index (arguments ++ rest)).toOption =
    (effect options).bind fun options => (parseArguments options positional later rest).toOption

/-- The arguments are accepted under a condition, and then set some of the options. -/
def guarded (accepted : Bool) (set : RuntimeOptions → RuntimeOptions) (options : RuntimeOptions) :
    Option RuntimeOptions :=
  if accepted then some (set options) else none

lemma means_nil : Means [] (guarded true id) := fun _ _ index _ => ⟨index,rfl⟩

lemma means_append {front behind : List String} {first second : RuntimeOptions → Option RuntimeOptions}
    (hfront : Means front first) (hbehind : Means behind second) :
    Means (front ++ behind) fun options => (first options).bind second := by
  intro options positional index rest
  obtain ⟨middle,hmiddle⟩ := hfront options positional index (behind ++ rest)
  rw [List.append_assoc,hmiddle]
  change ∃ later, _ = ((first options).bind second).bind _
  cases first options with
  | none => exact ⟨index,rfl⟩
  | some between =>
    obtain ⟨last,hlast⟩ := hbehind between positional middle rest
    exact ⟨last,hlast⟩

lemma guarded_bind (accepted also : Bool) (set more : RuntimeOptions → RuntimeOptions) :
    (fun options => (guarded accepted set options).bind (guarded also more)) =
      guarded (accepted && also) (more ∘ set) := by
  funext options
  cases accepted <;> rfl

/-- One group of arguments behind another one. -/
lemma Means.and {front behind : List String} {accepted also : Bool} {set more : RuntimeOptions → RuntimeOptions}
    (hfront : Means front (guarded accepted set)) (hbehind : Means behind (guarded also more)) :
    Means (front ++ behind) (guarded (accepted && also) (more ∘ set)) :=
  guarded_bind accepted also set more ▸ means_append hfront hbehind

lemma means_flag (h : optionReaders.lookup option = some (.flag set)) : Means [option] (guarded true set) := by
  intro options positional index rest
  refine ⟨index + 1,?_⟩
  rw [List.singleton_append,parseArguments.eq_def]
  dsimp only
  rw [h]
  rfl

lemma means_value {read : String → RuntimeOptions → Except ValueError RuntimeOptions}
    (h : optionReaders.lookup option = some (.value read)) :
    Means [option,value] fun options => if opensOption value then none else (read value options).toOption := by
  intro options positional index rest
  refine ⟨index + 2,?_⟩
  rw [List.cons_append,List.singleton_append,parseArguments.eq_def]
  dsimp only
  rw [h]
  dsimp only
  split
  · rfl
  · cases read value options <;> rfl

lemma means_congr {arguments : List String} {first second : RuntimeOptions → Option RuntimeOptions}
    (h : Means arguments first) (hsame : ∀ options, first options = second options) : Means arguments second :=
  funext hsame ▸ h

lemma means_text {set : String → RuntimeOptions → RuntimeOptions}
    (h : optionReaders.lookup option = some (textOption set))
    (value : String) : Means [option,value] (guarded (!opensOption value) (set value)) :=
  means_congr (means_value h) fun options => by cases opensOption value <;> rfl

lemma means_filled {set : String → RuntimeOptions → RuntimeOptions}
    (h : optionReaders.lookup option = some (filledOption set)) (value : String) :
    Means [option,value] (guarded (!opensOption value && value ≠ "") (set value)) :=
  means_congr (means_value h) fun options => by
    unfold guarded
    by_cases hempty : value = "" <;> cases hopens : opensOption value <;> simp [hempty,Except.toOption]

lemma means_named {names : List String} {set : String → RuntimeOptions → RuntimeOptions}
    (h : optionReaders.lookup option = some (namedOption names set)) (value : String) :
    Means [option,value] (guarded (!opensOption value && names.contains value) (set value)) :=
  means_congr (means_value h) fun options => by
    cases opensOption value <;> cases names.contains value <;> rfl

/-- A number has no sign, and is no option. -/
lemma RuntimeOptions.parseUnsigned_opens {bound : ℕ} {requirePositive : Bool} (h : opensOption value = true) :
    ∃ error, RuntimeOptions.parseUnsigned bound requirePositive value = .error error := by
  obtain ⟨rest,hrest⟩ := List.isPrefixOf_iff_prefix.mp h
  have hminus : value.toList.head? = some '-' := by
    rw [← hrest]
    rfl
  unfold RuntimeOptions.parseUnsigned
  dsimp only
  by_cases hempty : value = ""
  · exact ⟨_,if_pos hempty⟩
  · rw [if_neg hempty,if_pos (Or.inr hminus)]
    exact ⟨_,rfl⟩

lemma means_number {bound : ℕ} {requirePositive : Bool} {set : ℕ → RuntimeOptions → RuntimeOptions}
    (h : optionReaders.lookup option = some (numberOption bound requirePositive set)) (value : String) :
    Means [option,value] fun options =>
      (RuntimeOptions.parseUnsigned bound requirePositive value).toOption.map (set · options) :=
  means_congr (means_value h) fun options => by
    cases hopens : opensOption value with
    | true =>
      obtain ⟨error,herror⟩ := @RuntimeOptions.parseUnsigned_opens value bound requirePositive hopens
      rw [if_pos rfl,herror]
      rfl
    | false =>
      rw [if_neg Bool.false_ne_true]
      cases RuntimeOptions.parseUnsigned bound requirePositive value <;> rfl

lemma Means.sets {arguments : List String} {accepted : Bool} (h : Means arguments (guarded accepted set))
    (hsame : ∀ options, set options = target options) : Means arguments (guarded accepted target) :=
  funext hsame ▸ h

lemma Means.accepts {arguments : List String} {accepted also : Bool} (h : Means arguments (guarded accepted set))
    (hsame : accepted = also) : Means arguments (guarded also set) := hsame ▸ h

/-- Arguments that are there under a condition. -/
lemma Means.when {arguments : List String} {accepted : Bool} (h : Means arguments (guarded accepted set))
    (there : Bool) :
    Means (if there then arguments else []) (guarded (!there || accepted) fun options =>
      if there then set options else options) := by
  cases there with
  | true => exact h
  | false => exact means_nil

lemma RuntimeOptions.parseUnsigned_toString (bound n : ℕ) :
    (RuntimeOptions.parseUnsigned bound false (toString n)).toOption = if n < bound then some n else none := by
  have hdigits : (toString n).toList = Nat.toDigits 10 n := Nat.toList_repr
  have hall : ∀ c ∈ (toString n).toList, c.isDigit = true := fun c hc =>
    Nat.isDigit_of_mem_toDigits (by decide) (by decide) (hdigits ▸ hc)
  have htake : (toString n).toList.takeWhile Char.isDigit = (toString n).toList := by
    have hwhole := @List.takeWhile_append_of_pos _ _ _ [] hall
    rwa [List.append_nil,List.takeWhile_nil,List.append_nil] at hwhole
  have hne : (toString n).toList ≠ [] := hdigits ▸ Nat.toDigits_ne_nil
  have hempty : toString n ≠ "" := fun hnil => hne (hnil ▸ rfl)
  have hsign : ¬((toString n).toList.head? = some '+' ∨ (toString n).toList.head? = some '-') := by
    rintro (hplus | hminus)
    · exact absurd (hall _ (List.mem_of_mem_head? hplus)) (by decide)
    · exact absurd (hall _ (List.mem_of_mem_head? hminus)) (by decide)
  unfold RuntimeOptions.parseUnsigned
  dsimp only
  rw [htake,if_neg hempty,if_neg hsign,if_neg hne,fromChars_toString]
  by_cases hbound : n < bound
  · rw [if_pos hbound]
    dsimp only
    rw [if_neg (not_not.mpr rfl)]
    rfl
  · rw [if_neg hbound]
    rfl

end Meaning
end AytherRuntime.Player
