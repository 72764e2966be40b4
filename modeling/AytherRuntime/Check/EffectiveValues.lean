import AytherRuntime.Check.Request

/-! The effective values of a request: what each option, manifest and reference gives to it, in order of
precedence. A text is its bytes, a character each. -/
namespace AytherRuntime.Check

section Sources

inductive MaterialRole
  | rom | core | pack | take | externalAsset | engineBuild | runtimeBuild
  deriving DecidableEq, Repr

structure EffectiveCondition where
  key : String
  value : Option String
  deriving DecidableEq, Repr

structure Material where
  role : MaterialRole
  sourceLocator : Option String
  deriving DecidableEq, Repr

structure Reference where
  conditions : List EffectiveCondition := []
  materials : List Material := []
  deriving DecidableEq, Repr

structure ConditionSources where
  playManifest : Option Reference := none
  reference : Option Reference := none
  environmentCore : Option String := none
  deriving DecidableEq, Repr

structure CheckOptions where
  runtime : String
  rom : String
  core : String := ""
  reference : String := ""
  playManifest : String := ""
  pack : String := ""
  packMode : String := "hd"
  trustRegistry : String := ""
  takes : List String := []
  timelines : List String := []
  output : String
  requestId : String := ""
  language : String := "es"
  presentation : String := "none"
  atEnd : String := "inspect"
  profile : String := ""
  subsystems : String := ""
  muteBuses : String := ""
  videoOutput : String := ""
  patch : String := ""
  shaders : String := ""
  coreOptions : List String := []
  given : List String := []
  deriving DecidableEq, Repr

def CheckOptions.wasGiven (options : CheckOptions) (flag : String) : Bool := options.given.contains flag

structure EffectiveConditions where
  profile : Option String
  subsystems : Option String
  muteBuses : Option String
  videoOutput : Option String
  patch : Option String
  shaders : Option Bool
  coreOptions : List String
  deriving DecidableEq, Repr

structure EffectiveRequest where
  runtime : String
  rom : String
  core : String
  takes : List String
  timelines : List String
  pack : Option String
  packMode : String
  trustRegistry : String
  output : String
  requestId : String
  language : String
  presentation : String
  atEnd : String
  playManifest : Option String
  reference : Option String
  conditions : EffectiveConditions
  values : List EffectiveValue
  deriving DecidableEq, Repr

structure FieldIssue where
  field : String
  code : String
  deriving DecidableEq, Repr

end Sources

section Resolve

/-- The values of the conditions of a key that have one that is not empty. -/
def conditions (source : Option Reference) (key : String) : List String :=
  (source.map Reference.conditions).getD [] |>.filterMap fun item =>
    if item.key = key then item.value.filter (· ≠ "") else none

def condition (source : Option Reference) (key : String) : Option String := (conditions source key).head?

def material (source : Option Reference) (role : MaterialRole) : Option String :=
  (source.map Reference.materials).getD [] |>.findSome? fun item =>
    if item.role = role then item.sourceLocator.filter (· ≠ "") else none

def optionKey (text : String) : String := String.ofList (text.toList.takeWhile (· ≠ '='))

/-- The explicit value, then the one of the Play manifest, then the one of the reference. -/
def pick (sources : ConditionSources) (explicitValue key display : String) : Option EffectiveValue :=
  if explicitValue ≠ "" then some ⟨display,explicitValue,.explicitOption⟩
  else
    ((condition sources.playManifest key).map fun value => ⟨display,value,.playManifest⟩).or
      ((condition sources.reference key).map fun value => ⟨display,value,.reference⟩)

/-- The core may come from the environment. -/
def resolveCore (options : CheckOptions) (sources : ConditionSources) : Option EffectiveValue :=
  if options.core ≠ "" then some ⟨"core",options.core,.explicitOption⟩
  else
    ((material sources.playManifest .core).map fun core => ⟨"core",core,.playManifest⟩).or
      (((material sources.reference .core).map fun core => ⟨"core",core,.reference⟩).or
        ((sources.environmentCore.filter (· ≠ "")).map fun core => ⟨"core",core,.environment⟩))

/-- A source that names another ROM describes another game. -/
def romIssue (sameFile : String → String → Bool) (source : Option Reference) (rom field code : String) :
    List FieldIssue :=
  match material source .rom with
  | some named => if sameFile named rom then [] else [⟨field,code⟩]
  | none => []

def requestIdIssue (requestId : String) : List FieldIssue :=
  if maxIdentityBytes < requestId.utf8ByteSize then [⟨"--request-id","request_id_too_long"⟩]
  else if requestId.toList.any fun character => character.toNat < 0x20 || character.toNat = 0x7f then
    [⟨"--request-id","request_id_invalid"⟩]
  else []

/-- `true` and `false` are the only conditions of the shaders. -/
def shadersValue (picked : Option EffectiveValue) : Except FieldIssue (Option Bool) :=
  match picked with
  | none => .ok none
  | some shaders =>
    if shaders.value = "true" then .ok (some true)
    else if shaders.value = "false" then .ok (some false)
    else .error ⟨"--shaders","invalid_shaders_condition"⟩

/-- The options whose key is not yet set follow the ones that are. -/
def addCoreOptions (present : List EffectiveValue) : List String → List EffectiveValue
  | [] => present
  | option :: rest =>
    if present.any fun existing => optionKey existing.value = optionKey option then addCoreOptions present rest
    else addCoreOptions (present ++ [⟨"core_option",option,.reference⟩]) rest

/-- An explicit list replaces every other source. -/
def resolveCoreOptions (options : CheckOptions) (sources : ConditionSources) : List EffectiveValue :=
  if options.coreOptions ≠ [] then
    options.coreOptions.map fun option => ⟨"core_option",option,.explicitOption⟩
  else
    addCoreOptions
      (if condition sources.playManifest "no_flicker" = some "true" then
        [⟨"core_option","no_sprite_limit=enabled",.playManifest⟩] else [])
      (conditions sources.reference "core_option")

/-- The profile only applies to a loaded pack. -/
def profileEffective (options : CheckOptions) (values : List EffectiveValue) (profile : String) : EffectiveValue :=
  let packLoaded : Bool := options.pack ≠ "" && options.packMode = "hd"
  let requested := values.reverse.find? fun value => value.key = "profile"
  ⟨"profile_effective",if packLoaded then profile else "none",
    match packLoaded,requested with
    | true,some requested => requested.source
    | _,_ => .generated⟩

/-- The origin is whether the option was given, never a comparison with its default only. -/
def valueOrigin (options : CheckOptions) (flag value defaultValue : String) : ValueSource :=
  if options.wasGiven flag ∨ value ≠ defaultValue then .explicitOption else .defaultValue

/-- A text that is not given is none. -/
def givenText (text : String) : Option String := if text = "" then none else some text

def explicitValue (key value : String) : EffectiveValue := ⟨key,value,.explicitOption⟩

/-- The values that are added before the conditions. -/
def selectionValues (options : CheckOptions) (core : Option EffectiveValue) : List EffectiveValue :=
  [explicitValue "runtime" options.runtime,explicitValue "rom" options.rom] ++ core.toList ++
    options.takes.mapIdx (fun position take => explicitValue ("take[" ++ toString position ++ "]") take) ++
    options.timelines.mapIdx (fun index timeline => explicitValue ("timeline[" ++ toString index ++ "]") timeline) ++
    [explicitValue "pack" ((givenText options.pack).getD "none")] ++
    ((givenText options.trustRegistry).map (explicitValue "trust_registry")).toList ++
    [explicitValue "output" options.output] ++
    ((givenText options.requestId).map (explicitValue "request_id")).toList ++
    ((givenText options.playManifest).map (explicitValue "play_manifest")).toList ++
    ((givenText options.reference).map (explicitValue "reference")).toList

/-- The values of the options that have a default. -/
def defaultedValues (options : CheckOptions) : List EffectiveValue :=
  [⟨"language",options.language,valueOrigin options "--language" options.language "es"⟩,
    ⟨"presentation",options.presentation,valueOrigin options "--presentation" options.presentation "none"⟩,
    ⟨"at_end",options.atEnd,valueOrigin options "--at-end" options.atEnd "inspect"⟩,
    ⟨"pack_mode",options.packMode,valueOrigin options "--pack-mode" options.packMode "hd"⟩]

/-- What is wrong with the values. The files of the system decide which paths are the same file. -/
def effectiveIssues (sameFile : String → String → Bool) (options : CheckOptions) (sources : ConditionSources)
    (shaders : Except FieldIssue (Option Bool)) : List FieldIssue :=
  romIssue sameFile sources.playManifest options.rom "--play-manifest" "play_manifest_rom_mismatch" ++
    romIssue sameFile sources.reference options.rom "--reference" "reference_rom_mismatch" ++
    (if resolveCore options sources = none then [⟨"--core","core_unresolved"⟩] else []) ++
    requestIdIssue options.requestId ++
    (match shaders with
      | .error issue => [issue]
      | .ok _ => [])

def explicitShaders (options : CheckOptions) : String :=
  if options.shaders = "" then "" else if options.shaders = "on" then "true" else "false"

/-- The request that the values give. -/
def effectiveRequest (options : CheckOptions) (sources : ConditionSources) : EffectiveRequest :=
  let core := resolveCore options sources
  let profile := pick sources options.profile "profile" "profile"
  let requested := selectionValues options core ++ profile.toList
  let effective := (profile.map fun profile => profileEffective options requested profile.value).toList
  let subsystems := pick sources options.subsystems "subsystems" "subsystems"
  let muteBuses := pick sources options.muteBuses "muted_buses" "mute_buses"
  let videoOutput := pick sources options.videoOutput "output" "video_output"
  let patch := pick sources options.patch "patch" "patch"
  let shaders := pick sources (explicitShaders options) "shaders" "shaders"
  let coreOptions := resolveCoreOptions options sources
  { runtime := options.runtime
    rom := options.rom
    core := (core.map EffectiveValue.value).getD ""
    takes := options.takes
    timelines := options.timelines
    pack := givenText options.pack
    packMode := options.packMode
    trustRegistry := options.trustRegistry
    output := options.output
    requestId := options.requestId
    language := options.language
    presentation := options.presentation
    atEnd := options.atEnd
    playManifest := givenText options.playManifest
    reference := givenText options.reference
    conditions := {
      profile := profile.map EffectiveValue.value
      subsystems := subsystems.map EffectiveValue.value
      muteBuses := muteBuses.map EffectiveValue.value
      videoOutput := videoOutput.map EffectiveValue.value
      patch := patch.map EffectiveValue.value
      shaders := ((shadersValue shaders).toOption).getD none
      coreOptions := coreOptions.map EffectiveValue.value }
    values := requested ++ effective ++ subsystems.toList ++ muteBuses.toList ++ videoOutput.toList ++
      patch.toList ++ shaders.toList ++ coreOptions ++ defaultedValues options }

def resolveEffectiveRequest (sameFile : String → String → Bool) (options : CheckOptions)
    (sources : ConditionSources) : Except (List FieldIssue) EffectiveRequest :=
  let issues := effectiveIssues sameFile options sources
    (shadersValue (pick sources (explicitShaders options) "shaders" "shaders"))
  if issues ≠ [] then .error issues else .ok (effectiveRequest options sources)

end Resolve

section Given

/-- A text that is none or not empty. -/
def Given (text : Option String) : Prop := text ≠ some ""

lemma Given.eq_of_getD {text text' : Option String} (h : Given text) (h' : Given text')
    (hsame : text.getD "" = text'.getD "") : text = text' := by
  cases text with
  | none =>
    cases text' with
    | none => rfl
    | some value' => exact absurd (congrArg some hsame.symm) h'
  | some value =>
    cases text' with
    | none => exact absurd (congrArg some hsame) h
    | some value' => exact congrArg some hsame

lemma givenText_given (text : String) : Given (givenText text) := by
  unfold givenText
  split
  · intro hsame
    cases hsame
  · rename_i hne
    exact fun hsame => hne (Option.some.inj hsame)

lemma ne_empty_of_mem_conditions {source : Option Reference} {key value : String}
    (h : value ∈ conditions source key) : value ≠ "" := by
  obtain ⟨item,-,hitem⟩ := List.mem_filterMap.mp h
  split at hitem
  · exact of_decide_eq_true (Option.filter_eq_some_iff.mp hitem).2
  · cases hitem

lemma condition_given (source : Option Reference) (key : String) : Given (condition source key) := by
  intro hempty
  exact ne_empty_of_mem_conditions (List.mem_of_mem_head? hempty) rfl

/-- A picked value is never empty. -/
lemma pick_given (sources : ConditionSources) (explicitValue key display : String) :
    Given ((pick sources explicitValue key display).map EffectiveValue.value) := by
  unfold pick
  split
  · rename_i hne
    exact fun hsame => hne (Option.some.inj hsame)
  · rw [Option.map_or,Option.map_map,Option.map_map]
    intro hsame
    rcases Option.or_eq_some_iff.mp hsame with hmanifest | ⟨-,hreference⟩
    · exact condition_given _ _ (by simpa [Function.comp_def] using hmanifest)
    · exact condition_given _ _ (by simpa [Function.comp_def] using hreference)

/-- What a resolved request has is given. -/
structure EffectiveRequest.Resolved (request : EffectiveRequest) : Prop where
  pack : Given request.pack
  playManifest : Given request.playManifest
  reference : Given request.reference
  profile : Given request.conditions.profile
  subsystems : Given request.conditions.subsystems
  muteBuses : Given request.conditions.muteBuses
  videoOutput : Given request.conditions.videoOutput
  patch : Given request.conditions.patch

lemma resolveEffectiveRequest_resolved {sameFile : String → String → Bool} {options : CheckOptions}
    {sources : ConditionSources} {request : EffectiveRequest}
    (h : resolveEffectiveRequest sameFile options sources = .ok request) : request.Resolved := by
  unfold resolveEffectiveRequest at h
  dsimp only at h
  by_cases hissues : effectiveIssues sameFile options sources
      (shadersValue (pick sources (explicitShaders options) "shaders" "shaders")) = []
  · rw [if_neg (not_not.mpr hissues)] at h
    cases h
    exact ⟨givenText_given _,givenText_given _,givenText_given _,pick_given _ _ _ _,pick_given _ _ _ _,
      pick_given _ _ _ _,
      pick_given _ _ _ _,pick_given _ _ _ _⟩
  · rw [if_pos hissues] at h
    cases h

end Given
end AytherRuntime.Check
