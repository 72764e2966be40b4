import AytherRuntime.Launcher.Options
import Mathlib.Data.List.Nodup

/-! The command line of `check`: pairs of an option and its value, every rule of which comes from the table of the
options. -/
namespace AytherRuntime.Check.CommandLine

section Table

/-- The members of the options that hold one text. -/
inductive TextField
  | runtime | rom | core | reference | playManifest | pack | output | requestId | language | trustRegistry
  | presentation | atEnd | packMode | profile | subsystems | muteBuses | videoOutput | patch | shaders
  deriving DecidableEq, Repr

/-- The members of the options that hold a list. -/
inductive ListField
  | takes | timelines | coreOptions
  deriving DecidableEq, Repr

inductive OptionField
  | text (field : TextField)
  | list (field : ListField)
  deriving DecidableEq, Repr

def TextField.get (options : CheckOptions) : TextField → String
  | .runtime => options.runtime
  | .rom => options.rom
  | .core => options.core
  | .reference => options.reference
  | .playManifest => options.playManifest
  | .pack => options.pack
  | .output => options.output
  | .requestId => options.requestId
  | .language => options.language
  | .trustRegistry => options.trustRegistry
  | .presentation => options.presentation
  | .atEnd => options.atEnd
  | .packMode => options.packMode
  | .profile => options.profile
  | .subsystems => options.subsystems
  | .muteBuses => options.muteBuses
  | .videoOutput => options.videoOutput
  | .patch => options.patch
  | .shaders => options.shaders

def TextField.set (options : CheckOptions) (value : String) : TextField → CheckOptions
  | .runtime => { options with runtime := value }
  | .rom => { options with rom := value }
  | .core => { options with core := value }
  | .reference => { options with reference := value }
  | .playManifest => { options with playManifest := value }
  | .pack => { options with pack := value }
  | .output => { options with output := value }
  | .requestId => { options with requestId := value }
  | .language => { options with language := value }
  | .trustRegistry => { options with trustRegistry := value }
  | .presentation => { options with presentation := value }
  | .atEnd => { options with atEnd := value }
  | .packMode => { options with packMode := value }
  | .profile => { options with profile := value }
  | .subsystems => { options with subsystems := value }
  | .muteBuses => { options with muteBuses := value }
  | .videoOutput => { options with videoOutput := value }
  | .patch => { options with patch := value }
  | .shaders => { options with shaders := value }

def ListField.get (options : CheckOptions) : ListField → List String
  | .takes => options.takes
  | .timelines => options.timelines
  | .coreOptions => options.coreOptions

def ListField.set (options : CheckOptions) (values : List String) : ListField → CheckOptions
  | .takes => { options with takes := values }
  | .timelines => { options with timelines := values }
  | .coreOptions => { options with coreOptions := values }

inductive CheckOptionErrorCode
  | tooManyArguments | unknownOption | missingValue | emptyValue | valueTooLong | duplicateOption | tooManyTakes
  | missingRequiredOption | missingRequiredMaterial | unsupportedLanguage | invalidNumber | unsupportedPresentation
  | unsupportedAtEnd | unsupportedPackMode | unsupportedShaders | invalidUnsignedValue | malformedCoreOption
  | tooManyValues
  deriving DecidableEq, Repr

structure CheckOptionError where
  code : CheckOptionErrorCode
  option : String
  argumentIndex : ℕ
  deriving DecidableEq, Repr

/-- An option repeats exactly where its member is a list. -/
structure CheckOptionDescriptor where
  flag : String
  kind : Launcher.CheckOptionKind := .text
  required : Bool := false
  defaultValue : String := ""
  values : List String := []
  invalidValueError : CheckOptionErrorCode := .unknownOption
  field : OptionField
  requiredGroup : String := ""
  deriving DecidableEq, Repr

def CheckOptionDescriptor.repeatable (descriptor : CheckOptionDescriptor) : Bool :=
  match descriptor.field with
  | .text _ => false
  | .list _ => true

def checkOptionDescriptors : List CheckOptionDescriptor :=
  [{ flag := "--runtime", kind := .path, required := true, field := .text .runtime },
   { flag := "--rom", kind := .path, required := true, field := .text .rom },
   { flag := "--core", kind := .path, field := .text .core },
   { flag := "--reference", kind := .path, field := .text .reference },
   { flag := "--play-manifest", kind := .path, field := .text .playManifest },
   { flag := "--pack", kind := .path, field := .text .pack },
   { flag := "--output", kind := .path, required := true, field := .text .output },
   { flag := "--request-id", field := .text .requestId },
   { flag := "--language", kind := .choice, defaultValue := "es", values := ["es","en"],
     invalidValueError := .unsupportedLanguage, field := .text .language },
   { flag := "--trust-registry", kind := .path, field := .text .trustRegistry },
   { flag := "--presentation", kind := .choice, defaultValue := "none", values := ["none","visible"],
     invalidValueError := .unsupportedPresentation, field := .text .presentation },
   { flag := "--at-end", kind := .choice, defaultValue := "inspect", values := ["inspect","close"],
     invalidValueError := .unsupportedAtEnd, field := .text .atEnd },
   { flag := "--pack-mode", kind := .choice, defaultValue := "hd", values := ["hd","original"],
     invalidValueError := .unsupportedPackMode, field := .text .packMode },
   { flag := "--take", kind := .path, field := .list .takes, requiredGroup := "material" },
   { flag := "--timeline", kind := .path, field := .list .timelines, requiredGroup := "material" },
   { flag := "--profile", field := .text .profile },
   { flag := "--subsystems", kind := .unsignedInteger, invalidValueError := .invalidUnsignedValue,
     field := .text .subsystems },
   { flag := "--mute-buses", kind := .unsignedInteger, invalidValueError := .invalidUnsignedValue,
     field := .text .muteBuses },
   { flag := "--video-output", field := .text .videoOutput },
   { flag := "--patch", kind := .path, field := .text .patch },
   { flag := "--shaders", kind := .choice, values := ["on","off"], invalidValueError := .unsupportedShaders,
     field := .text .shaders },
   { flag := "--core-option", kind := .keyValue, invalidValueError := .malformedCoreOption,
     field := .list .coreOptions }]

def findCheckOption (flag : String) : Option CheckOptionDescriptor :=
  checkOptionDescriptors.find? fun descriptor => descriptor.flag = flag

/-- The options of a group, in the order of the table. -/
def checkOptionGroup (group : String) : List CheckOptionDescriptor :=
  if group = "" then [] else checkOptionDescriptors.filter fun descriptor => descriptor.requiredGroup = group

/-- An option as the form of the launcher reads it. -/
def CheckOptionDescriptor.shown (descriptor : CheckOptionDescriptor) : Launcher.CheckOptionDescriptor where
  flag := descriptor.flag
  kind := descriptor.kind
  required := descriptor.required
  repeatable := descriptor.repeatable
  defaultValue := descriptor.defaultValue
  textField := match descriptor.field with
    | .text field => some fun request value => field.set request value
    | .list _ => none
  listField := match descriptor.field with
    | .text _ => none
    | .list field => some fun request values => field.set request values
  requiredGroup := descriptor.requiredGroup

lemma shown_checkOptionDescriptors :
    Launcher.checkOptionDescriptors = checkOptionDescriptors.map CheckOptionDescriptor.shown := rfl

end Table

section Parser

def maxCheckArguments : ℕ := 4096

def maxCheckOptionValueBytes : ℕ := 32768

def maxCheckTakes : ℕ := 1024

def isOption (argument : String) : Bool := ['-','-'].isPrefixOf argument.toList

/-- Decimal digits only, within 32 bits. -/
def validUnsigned32 (value : String) : Bool :=
  value ≠ "" && value.utf8ByteSize ≤ 10 && value.toList.all Char.isDigit &&
    value.toList.foldl (fun parsed digit => parsed * 10 + (digit.toNat - '0'.toNat)) 0 ≤ 0xffffffff

/-- A value with no equals sign, or with nothing in front of it. -/
def malformedKeyValue (value : String) : Bool :=
  match value.toList.findIdx? (· = '=') with
  | none => true
  | some equals => equals = 0

/-- What is read so far, and the options that are seen. -/
structure ParseState where
  options : CheckOptions := Launcher.emptyRequest
  seen : List String := []
  deriving DecidableEq, Repr

/-- The option of two arguments that may stand together, the first of them at an index. -/
def readPair (option value : String) (index : ℕ) : Except CheckOptionError CheckOptionDescriptor :=
  if !isOption option then .error ⟨.unknownOption,option,index⟩
  else if isOption value then .error ⟨.missingValue,option,index⟩
  else if value = "" then .error ⟨.emptyValue,option,index + 1⟩
  else if maxCheckOptionValueBytes < value.utf8ByteSize then .error ⟨.valueTooLong,option,index + 1⟩
  else
    match findCheckOption option with
    | none => .error ⟨.unknownOption,option,index⟩
    | some descriptor => .ok descriptor

/-- A list takes another value while it has room, a text its only one. -/
def ParseState.assign (state : ParseState) (descriptor : CheckOptionDescriptor) (value : String) (index : ℕ) :
    Except CheckOptionError ParseState :=
  match descriptor.field with
  | .list field =>
    let values := field.get state.options
    if values.length = maxCheckTakes then
      .error ⟨if field = .takes then .tooManyTakes else .tooManyValues,descriptor.flag,index + 1⟩
    else .ok { state with options := field.set state.options (values ++ [value]) }
  | .text field =>
    if descriptor.flag ∈ state.seen then .error ⟨.duplicateOption,descriptor.flag,index⟩
    else
      .ok { options := { field.set state.options value with given := state.options.given ++ [descriptor.flag] }
            seen := state.seen ++ [descriptor.flag] }

/-- The loop over the arguments, from the one at an index. -/
def parseArguments (state : ParseState) (index : ℕ) : List String → Except CheckOptionError ParseState
  | [] => .ok state
  | [option] => .error ⟨if isOption option then .missingValue else .unknownOption,option,index⟩
  | option :: value :: arguments =>
    match readPair option value index with
    | .error error => .error error
    | .ok descriptor =>
      match state.assign descriptor value index with
      | .error error => .error error
      | .ok state => parseArguments state (index + 2) arguments

/-- `missing`: the member of an option holds nothing. -/
def CheckOptionDescriptor.missing (options : CheckOptions) (descriptor : CheckOptionDescriptor) : Bool :=
  match descriptor.field with
  | .text field => field.get options = ""
  | .list field => field.get options = []

/-- The first required option that is missing. -/
def requiredIssue (options : CheckOptions) (size : ℕ) : Option CheckOptionError :=
  checkOptionDescriptors.findSome? fun descriptor =>
    if descriptor.required && descriptor.missing options then some ⟨.missingRequiredOption,descriptor.flag,size⟩
    else none

/-- The first member of a group of which every one is missing. -/
def groupIssue (options : CheckOptions) (size : ℕ) : Option CheckOptionError :=
  checkOptionDescriptors.findSome? fun descriptor =>
    let members := checkOptionGroup descriptor.requiredGroup
    if members.head? = some descriptor && members.all fun member => member.missing options then
      some ⟨.missingRequiredMaterial,descriptor.flag,size⟩
    else none

/-- The first choice whose value is none of its own. -/
def choiceIssue (options : CheckOptions) (size : ℕ) : Option CheckOptionError :=
  checkOptionDescriptors.findSome? fun descriptor =>
    match descriptor.kind,descriptor.field with
    | .choice,.text field =>
      let value := field.get options
      if (value = "" && descriptor.defaultValue = "") || descriptor.values.contains value then none
      else some ⟨descriptor.invalidValueError,descriptor.flag,size⟩
    | _,_ => none

/-- The first number or list of keys that is malformed. -/
def valueIssue (options : CheckOptions) (size : ℕ) : Option CheckOptionError :=
  checkOptionDescriptors.findSome? fun descriptor =>
    match descriptor.kind,descriptor.field with
    | .unsignedInteger,.text field =>
      let value := field.get options
      if value ≠ "" && !validUnsigned32 value then some ⟨descriptor.invalidValueError,descriptor.flag,size⟩ else none
    | .keyValue,.list field =>
      if (field.get options).any malformedKeyValue then some ⟨descriptor.invalidValueError,descriptor.flag,size⟩
      else none
    | _,_ => none

def optionIssue (options : CheckOptions) (size : ℕ) : Option CheckOptionError :=
  (requiredIssue options size).or ((groupIssue options size).or
    ((choiceIssue options size).or (valueIssue options size)))

def parseCheckOptions (arguments : List String) : Except CheckOptionError CheckOptions :=
  if maxCheckArguments < arguments.length then .error ⟨.tooManyArguments,"",arguments.length⟩
  else
    match parseArguments {} 0 arguments with
    | .error error => .error error
    | .ok state =>
      match optionIssue state.options arguments.length with
      | some error => .error error
      | none => .ok state.options

end Parser

section Pairs

/-- The arguments of some options with their values. -/
def written (pairs : List (String × String)) : List String := pairs.flatMap fun pair => [pair.1,pair.2]

/-- The values of an option, in their order. -/
def valuesOf (pairs : List (String × String)) (flag : String) : List String :=
  (pairs.filter fun pair => pair.1 = flag).map Prod.snd

/-- The options that are given once. -/
def textFlags : List String := (checkOptionDescriptors.filter fun descriptor => !descriptor.repeatable).map (·.flag)

/-- An option of the table and a value that fits behind it. -/
structure ReadablePair (pair : String × String) : Prop where
  known : ∃ descriptor ∈ checkOptionDescriptors, descriptor.flag = pair.1
  filled : pair.2 ≠ ""
  short : pair.2.utf8ByteSize ≤ maxCheckOptionValueBytes
  plain : isOption pair.2 = false

/-- No text is given twice and no list too often. -/
structure Sparse (pairs : List (String × String)) : Prop where
  once : ∀ descriptor ∈ checkOptionDescriptors, descriptor.repeatable = false →
    (valuesOf pairs descriptor.flag).length ≤ 1
  few : ∀ descriptor ∈ checkOptionDescriptors, descriptor.repeatable = true →
    (valuesOf pairs descriptor.flag).length ≤ maxCheckTakes

/-- A value that an option of its kind takes. -/
def CheckOptionDescriptor.Takes (descriptor : CheckOptionDescriptor) (value : String) : Prop :=
  match descriptor.kind with
  | .text => True
  | .path => True
  | .choice => value ∈ descriptor.values
  | .unsignedInteger => validUnsigned32 value = true
  | .keyValue => malformedKeyValue value = false

structure Admitted (pairs : List (String × String)) : Prop where
  size : (written pairs).length ≤ maxCheckArguments
  readable : ∀ pair ∈ pairs, ReadablePair pair
  sparse : Sparse pairs
  required : ∀ descriptor ∈ checkOptionDescriptors, descriptor.required = true → valuesOf pairs descriptor.flag ≠ []
  material : ∀ descriptor ∈ checkOptionDescriptors, descriptor.requiredGroup ≠ "" →
    ∃ member ∈ checkOptionDescriptors, member.requiredGroup = descriptor.requiredGroup ∧
      valuesOf pairs member.flag ≠ []
  taken : ∀ descriptor ∈ checkOptionDescriptors, ∀ value ∈ valuesOf pairs descriptor.flag, descriptor.Takes value

/-- Each member holds what is given to its option, or its default. -/
structure Reads (pairs : List (String × String)) (options : CheckOptions) : Prop where
  text : ∀ descriptor ∈ checkOptionDescriptors, ∀ field, descriptor.field = .text field →
    field.get options = (valuesOf pairs descriptor.flag).headD descriptor.defaultValue
  list : ∀ descriptor ∈ checkOptionDescriptors, ∀ field, descriptor.field = .list field →
    field.get options = valuesOf pairs descriptor.flag
  given : options.given = (pairs.map Prod.fst).filter fun flag => flag ∈ textFlags

end Pairs

section Members
variable (options : CheckOptions)

lemma TextField.get_set (value : String) (field field' : TextField) :
    field'.get (field.set options value) = if field' = field then value else field'.get options := by
  cases field <;> cases field' <;> rfl

lemma TextField.get_setList (values : List String) (field : ListField) (field' : TextField) :
    field'.get (field.set options values) = field'.get options := by
  cases field <;> cases field' <;> rfl

lemma ListField.get_setText (value : String) (field : TextField) (field' : ListField) :
    field'.get (field.set options value) = field'.get options := by
  cases field <;> cases field' <;> rfl

lemma ListField.get_set (values : List String) (field field' : ListField) :
    field'.get (field.set options values) = if field' = field then values else field'.get options := by
  cases field <;> cases field' <;> rfl

lemma TextField.get_given (given : List String) (field : TextField) :
    field.get { options with given } = field.get options := by
  cases field <;> rfl

lemma ListField.get_given (given : List String) (field : ListField) :
    field.get { options with given } = field.get options := by
  cases field <;> rfl

lemma ListField.set_given (values : List String) (field : ListField) :
    (field.set options values).given = options.given := by
  cases field <;> rfl

/-- The members and the options that are given are all there is. -/
lemma CheckOptions.ext_fields {options options' : CheckOptions}
    (htext : ∀ field : TextField, field.get options = field.get options')
    (hlist : ∀ field : ListField, field.get options = field.get options') (hgiven : options.given = options'.given) :
    options = options' := by
  cases options
  cases options'
  simp only [CheckOptions.mk.injEq]
  exact ⟨htext .runtime,htext .rom,htext .core,htext .reference,htext .playManifest,htext .pack,htext .packMode,
    htext .trustRegistry,hlist .takes,hlist .timelines,htext .output,htext .requestId,htext .language,
    htext .presentation,htext .atEnd,htext .profile,htext .subsystems,htext .muteBuses,htext .videoOutput,htext .patch,
    htext .shaders,hlist .coreOptions,hgiven⟩

end Members

section Lookup

lemma flag_injective {descriptor descriptor' : CheckOptionDescriptor} (h : descriptor ∈ checkOptionDescriptors)
    (h' : descriptor' ∈ checkOptionDescriptors) (hflag : descriptor.flag = descriptor'.flag) :
    descriptor = descriptor' := by
  have hnodup : (checkOptionDescriptors.map (·.flag)).Nodup := by decide +kernel
  exact List.inj_on_of_nodup_map hnodup h h' hflag

lemma field_injective {descriptor descriptor' : CheckOptionDescriptor} (h : descriptor ∈ checkOptionDescriptors)
    (h' : descriptor' ∈ checkOptionDescriptors) (hfield : descriptor.field = descriptor'.field) :
    descriptor = descriptor' := by
  have hnodup : (checkOptionDescriptors.map (·.field)).Nodup := by decide
  exact List.inj_on_of_nodup_map hnodup h h' hfield

lemma findCheckOption_eq_some {flag : String} {descriptor : CheckOptionDescriptor} :
    findCheckOption flag = some descriptor ↔ descriptor ∈ checkOptionDescriptors ∧ descriptor.flag = flag := by
  constructor
  · intro h
    exact ⟨List.mem_of_find?_eq_some h,by simpa using List.find?_some h⟩
  · rintro ⟨hmem,rfl⟩
    cases hfound : findCheckOption descriptor.flag with
    | none =>
      have hnone := List.find?_eq_none.mp hfound descriptor hmem
      simp at hnone
    | some found =>
      have hflag : found.flag = descriptor.flag := by simpa using List.find?_some hfound
      rw [flag_injective (List.mem_of_find?_eq_some hfound) hmem hflag]

lemma isOption_flag {descriptor : CheckOptionDescriptor} (h : descriptor ∈ checkOptionDescriptors) :
    isOption descriptor.flag = true := by
  have hall : checkOptionDescriptors.all (fun descriptor => isOption descriptor.flag) = true := by decide +kernel
  exact List.all_eq_true.mp hall descriptor h

lemma mem_textFlags {descriptor : CheckOptionDescriptor} (h : descriptor ∈ checkOptionDescriptors) :
    descriptor.flag ∈ textFlags ↔ descriptor.repeatable = false := by
  constructor
  · intro hmem
    obtain ⟨found,hfound,hflag⟩ := List.mem_map.mp hmem
    obtain ⟨hfound,htext⟩ := List.mem_filter.mp hfound
    rw [← flag_injective hfound h hflag]
    simpa using htext
  · intro htext
    exact List.mem_map.mpr ⟨descriptor,List.mem_filter.mpr ⟨h,by simp [htext]⟩,rfl⟩

lemma exists_textField (field : TextField) :
    ∃ descriptor ∈ checkOptionDescriptors, descriptor.field = .text field := by
  have hmem : OptionField.text field ∈ checkOptionDescriptors.map (·.field) := by cases field <;> decide
  exact List.mem_map.mp hmem

lemma exists_listField (field : ListField) :
    ∃ descriptor ∈ checkOptionDescriptors, descriptor.field = .list field := by
  have hmem : OptionField.list field ∈ checkOptionDescriptors.map (·.field) := by cases field <;> decide
  exact List.mem_map.mp hmem

@[simp] lemma valuesOf_nil (flag : String) : valuesOf [] flag = [] := rfl

lemma valuesOf_append (pairs more : List (String × String)) (flag : String) :
    valuesOf (pairs ++ more) flag = valuesOf pairs flag ++ valuesOf more flag := by
  unfold valuesOf
  rw [List.filter_append,List.map_append]

lemma valuesOf_snoc (pairs : List (String × String)) (option value flag : String) :
    valuesOf (pairs ++ [(option,value)]) flag = valuesOf pairs flag ++ if option = flag then [value] else [] := by
  rw [valuesOf_append]
  by_cases hflag : option = flag
  · simp [valuesOf,hflag]
  · simp [valuesOf,hflag]

lemma mem_valuesOf {pairs : List (String × String)} {flag value : String} :
    value ∈ valuesOf pairs flag ↔ (flag,value) ∈ pairs := by
  unfold valuesOf
  rw [List.mem_map]
  constructor
  · rintro ⟨⟨option,found⟩,hfound,rfl⟩
    obtain ⟨hmem,hflag⟩ := List.mem_filter.mp hfound
    rwa [← of_decide_eq_true hflag]
  · intro hmem
    exact ⟨(flag,value),List.mem_filter.mpr ⟨hmem,decide_eq_true rfl⟩,rfl⟩

lemma valuesOf_ne_nil {pairs : List (String × String)} {flag : String} :
    valuesOf pairs flag ≠ [] ↔ flag ∈ pairs.map Prod.fst := by
  rw [ne_eq,List.eq_nil_iff_forall_not_mem]
  simp only [mem_valuesOf,not_forall,not_not,List.mem_map,Prod.exists,exists_and_right,exists_eq_right]

end Lookup

section Loop
variable {pairs : List (String × String)} {state next : ParseState} {descriptor : CheckOptionDescriptor}

/-- The loop holds what the pairs that it has read say. -/
structure ParseState.Holds (pairs : List (String × String)) (state : ParseState) : Prop where
  reads : Reads pairs state.options
  seen : state.seen = state.options.given

lemma reads_nil : Reads [] Launcher.emptyRequest where
  text descriptor hmem field hfield := by
    have hall : checkOptionDescriptors.all (fun descriptor =>
        match descriptor.field with
        | .text field => field.get Launcher.emptyRequest = descriptor.defaultValue
        | .list field => field.get Launcher.emptyRequest = []) = true := by decide +kernel
    have h := List.all_eq_true.mp hall descriptor hmem
    simpa [hfield] using h
  list descriptor hmem field hfield := by cases field <;> rfl
  given := rfl

lemma Reads.unique {options options' : CheckOptions} (h : Reads pairs options) (h' : Reads pairs options') :
    options = options' := by
  apply CheckOptions.ext_fields
  · intro field
    obtain ⟨descriptor,hmem,hfield⟩ := exists_textField field
    rw [h.text descriptor hmem field hfield,h'.text descriptor hmem field hfield]
  · intro field
    obtain ⟨descriptor,hmem,hfield⟩ := exists_listField field
    rw [h.list descriptor hmem field hfield,h'.list descriptor hmem field hfield]
  · rw [h.given,h'.given]

lemma ParseState.Holds.unique (h : state.Holds pairs) (h' : next.Holds pairs) : state = next := by
  have hoptions := h.reads.unique h'.reads
  have hseen : state.seen = next.seen := by rw [h.seen,h'.seen,hoptions]
  cases state
  cases next
  simp only at hoptions hseen
  rw [hoptions,hseen]

/-- A text is seen where a value of it is read. -/
lemma ParseState.Holds.mem_seen (h : state.Holds pairs) (hmem : descriptor ∈ checkOptionDescriptors)
    (htext : descriptor.repeatable = false) : descriptor.flag ∈ state.seen ↔ valuesOf pairs descriptor.flag ≠ [] := by
  rw [h.seen,h.reads.given,List.mem_filter,decide_eq_true_eq,mem_textFlags hmem,valuesOf_ne_nil]
  exact and_iff_left htext

/-- The first value of a text is read into its member, and every other member is kept. -/
lemma Reads.setText {options : CheckOptions} {field : TextField} {value : String} (h : Reads pairs options)
    (hmem : descriptor ∈ checkOptionDescriptors) (hfield : descriptor.field = .text field)
    (hfirst : valuesOf pairs descriptor.flag = []) :
    Reads (pairs ++ [(descriptor.flag,value)])
      { field.set options value with given := options.given ++ [descriptor.flag] } where
  text descriptor' hmem' field' hfield' := by
    rw [TextField.get_given,TextField.get_set,valuesOf_snoc]
    by_cases hflag : descriptor.flag = descriptor'.flag
    · obtain rfl := flag_injective hmem hmem' hflag
      obtain rfl : field' = field := by simpa [hfield'] using hfield
      rw [if_pos rfl,if_pos rfl,hfirst]
      rfl
    · have hne : field' ≠ field := by
        rintro rfl
        exact hflag (congrArg _ (field_injective hmem hmem' (hfield.trans hfield'.symm)))
      rw [if_neg hne,if_neg hflag,List.append_nil,h.text descriptor' hmem' field' hfield']
  list descriptor' hmem' field' hfield' := by
    have hflag : descriptor.flag ≠ descriptor'.flag := by
      intro hflag
      obtain rfl := flag_injective hmem hmem' hflag
      simp [hfield'] at hfield
    rw [ListField.get_given,ListField.get_setText,valuesOf_snoc,if_neg hflag,List.append_nil,
      h.list descriptor' hmem' field' hfield']
  given := by
    have htext : descriptor.repeatable = false := by simp [CheckOptionDescriptor.repeatable,hfield]
    rw [List.map_append,List.filter_append,← h.given]
    simp [mem_textFlags hmem,htext]

/-- Another value of a list follows the ones that it has, and every other member is kept. -/
lemma Reads.setList {options : CheckOptions} {field : ListField} {value : String} (h : Reads pairs options)
    (hmem : descriptor ∈ checkOptionDescriptors) (hfield : descriptor.field = .list field) :
    Reads (pairs ++ [(descriptor.flag,value)]) (field.set options (field.get options ++ [value])) where
  text descriptor' hmem' field' hfield' := by
    have hflag : descriptor.flag ≠ descriptor'.flag := by
      intro hflag
      obtain rfl := flag_injective hmem hmem' hflag
      simp [hfield'] at hfield
    rw [TextField.get_setList,valuesOf_snoc,if_neg hflag,List.append_nil,h.text descriptor' hmem' field' hfield']
  list descriptor' hmem' field' hfield' := by
    rw [ListField.get_set,valuesOf_snoc]
    by_cases hflag : descriptor.flag = descriptor'.flag
    · obtain rfl := flag_injective hmem hmem' hflag
      obtain rfl : field' = field := by simpa [hfield'] using hfield
      rw [if_pos rfl,if_pos rfl,h.list descriptor hmem field' hfield]
    · have hne : field' ≠ field := by
        rintro rfl
        exact hflag (congrArg _ (field_injective hmem hmem' (hfield.trans hfield'.symm)))
      rw [if_neg hne,if_neg hflag,List.append_nil,h.list descriptor' hmem' field' hfield']
  given := by
    have hlist : descriptor.repeatable = true := by simp [CheckOptionDescriptor.repeatable,hfield]
    rw [ListField.set_given,List.map_append,List.filter_append,← h.given]
    simp [mem_textFlags hmem,hlist]

lemma Sparse.front {more : List (String × String)} (h : Sparse (pairs ++ more)) : Sparse pairs := by
  have hlength : ∀ flag, (valuesOf pairs flag).length ≤ (valuesOf (pairs ++ more) flag).length := by
    intro flag
    rw [valuesOf_append,List.length_append]
    omega
  exact ⟨fun descriptor hmem htext => Nat.le_trans (hlength _) (h.once descriptor hmem htext),
    fun descriptor hmem hlist => Nat.le_trans (hlength _) (h.few descriptor hmem hlist)⟩

lemma readPair_ok_iff {option value : String} {index : ℕ} :
    readPair option value index = .ok descriptor ↔
      ReadablePair (option,value) ∧ descriptor ∈ checkOptionDescriptors ∧ descriptor.flag = option := by
  unfold readPair
  constructor
  · intro h
    split_ifs at h with hoption hplain hempty hlong
    split at h
    · cases h
    · rename_i found hfound
      obtain rfl : found = descriptor := by simpa using h
      have hknown := findCheckOption_eq_some.mp hfound
      exact ⟨⟨⟨found,hknown⟩,hempty,not_lt.mp hlong,by simpa using hplain⟩,hknown⟩
  · rintro ⟨⟨-,hfilled,hshort,hplain⟩,hknown⟩
    have hoption : isOption option = true := hknown.2 ▸ isOption_flag hknown.1
    simp only at hfilled hshort hplain
    rw [if_neg (by simp [hoption]),if_neg (by simp [hplain]),if_neg hfilled,if_neg (not_lt.mpr hshort),
      findCheckOption_eq_some.mpr hknown]

/-- A value that keeps the options sparse is taken. -/
lemma ParseState.Holds.assign (h : state.Holds pairs) (hmem : descriptor ∈ checkOptionDescriptors) {value : String}
    (hsparse : Sparse (pairs ++ [(descriptor.flag,value)])) (index : ℕ) :
    ∃ next, state.assign descriptor value index = .ok next ∧ next.Holds (pairs ++ [(descriptor.flag,value)]) := by
  unfold ParseState.assign
  cases hfield : descriptor.field with
  | text field =>
    have htext : descriptor.repeatable = false := by simp [CheckOptionDescriptor.repeatable,hfield]
    have honce := hsparse.once descriptor hmem htext
    rw [valuesOf_snoc,if_pos rfl,List.length_append,List.length_singleton] at honce
    have hfirst : valuesOf pairs descriptor.flag = [] := List.eq_nil_of_length_eq_zero (by omega)
    have hunseen : descriptor.flag ∉ state.seen := by
      rw [h.mem_seen hmem htext,not_not]
      exact hfirst
    exact ⟨_,if_neg hunseen,h.reads.setText hmem hfield hfirst,by simp only [h.seen]⟩
  | list field =>
    have hlist : descriptor.repeatable = true := by simp [CheckOptionDescriptor.repeatable,hfield]
    have hfew := hsparse.few descriptor hmem hlist
    rw [valuesOf_snoc,if_pos rfl,List.length_append,List.length_singleton] at hfew
    have hroom : (field.get state.options).length ≠ maxCheckTakes := by
      rw [h.reads.list descriptor hmem field hfield]
      omega
    exact ⟨_,if_neg hroom,h.reads.setList hmem hfield,by rw [ListField.set_given,h.seen]⟩

/-- A value is taken only where it keeps the options sparse. -/
lemma ParseState.Holds.sparse_of_assign (h : state.Holds pairs) (hsparse : Sparse pairs)
    (hmem : descriptor ∈ checkOptionDescriptors) {value : String} {index : ℕ}
    (hnext : state.assign descriptor value index = .ok next) : Sparse (pairs ++ [(descriptor.flag,value)]) := by
  have hother : ∀ descriptor' : CheckOptionDescriptor, descriptor.flag ≠ descriptor'.flag →
      valuesOf (pairs ++ [(descriptor.flag,value)]) descriptor'.flag = valuesOf pairs descriptor'.flag := by
    intro descriptor' hflag
    rw [valuesOf_snoc,if_neg hflag,List.append_nil]
  constructor
  · intro descriptor' hmem' htext
    by_cases hflag : descriptor.flag = descriptor'.flag
    · obtain rfl := flag_injective hmem hmem' hflag
      have hfirst : valuesOf pairs descriptor.flag = [] := by
        by_contra hgiven
        unfold ParseState.assign at hnext
        cases hfield : descriptor.field with
        | text field => simp [hfield,(h.mem_seen hmem htext).mpr hgiven] at hnext
        | list field => simp [CheckOptionDescriptor.repeatable,hfield] at htext
      simp [valuesOf_snoc,hfirst]
    · rw [hother descriptor' hflag]
      exact hsparse.once descriptor' hmem' htext
  · intro descriptor' hmem' hlist
    by_cases hflag : descriptor.flag = descriptor'.flag
    · obtain rfl := flag_injective hmem hmem' hflag
      have hroom : (valuesOf pairs descriptor.flag).length ≠ maxCheckTakes := by
        intro hfull
        unfold ParseState.assign at hnext
        cases hfield : descriptor.field with
        | text field => simp [CheckOptionDescriptor.repeatable,hfield] at hlist
        | list field => simp [hfield,h.reads.list descriptor hmem field hfield,hfull] at hnext
      have hfew := hsparse.few descriptor hmem hlist
      rw [valuesOf_snoc,if_pos rfl,List.length_append,List.length_singleton]
      omega
    · rw [hother descriptor' hflag]
      exact hsparse.few descriptor' hmem' hlist

@[simp] lemma written_nil : written [] = [] := rfl

@[simp] lemma written_cons (pair : String × String) (pairs : List (String × String)) :
    written (pair :: pairs) = pair.1 :: pair.2 :: written pairs := rfl

lemma eq_written_cons {option value : String} {arguments : List String} {more : List (String × String)} :
    option :: value :: arguments = written more ↔
      ∃ rest, more = (option,value) :: rest ∧ arguments = written rest := by
  constructor
  · intro h
    cases more with
    | nil => simp at h
    | cons pair rest =>
      obtain ⟨rfl,rfl,harguments⟩ : option = pair.1 ∧ value = pair.2 ∧ arguments = written rest := by simpa using h
      exact ⟨rest,rfl,harguments⟩
  · rintro ⟨rest,rfl,rfl⟩
    rfl

/-- The loop reads the pairs that are known and sparse, and nothing else. -/
lemma parseArguments_ok_iff {last : ParseState} {arguments : List String} {index : ℕ} (h : state.Holds pairs)
    (hsparse : Sparse pairs) :
    parseArguments state index arguments = .ok last ↔
      ∃ more, arguments = written more ∧ (∀ pair ∈ more, ReadablePair pair) ∧ Sparse (pairs ++ more) ∧
        last.Holds (pairs ++ more) := by
  fun_induction parseArguments state index arguments generalizing pairs with
  | case1 state index =>
    constructor
    · intro hlast
      obtain rfl : state = last := by simpa using hlast
      exact ⟨[],rfl,by simp,by simpa using hsparse,by simpa using h⟩
    · rintro ⟨more,hwritten,-,-,hlast⟩
      cases more with
      | nil => rw [h.unique (by simpa using hlast)]
      | cons pair more => simp at hwritten
  | case2 state index option =>
    constructor
    · intro hlast
      cases hlast
    · rintro ⟨more,hwritten,-,-,-⟩
      cases more with
      | nil => simp at hwritten
      | cons pair more => simp at hwritten
  | case3 state index option value arguments error hread =>
    constructor
    · intro hlast
      cases hlast
    · rintro ⟨more,hwritten,hreadable,-,-⟩
      obtain ⟨rest,rfl,-⟩ := eq_written_cons.mp hwritten
      have hpair := hreadable _ List.mem_cons_self
      obtain ⟨descriptor,hknown⟩ := hpair.known
      rw [readPair_ok_iff.mpr ⟨hpair,hknown⟩] at hread
      cases hread
  | case4 state index option value arguments descriptor hread error hassign =>
    obtain ⟨-,hmem,rfl⟩ := readPair_ok_iff.mp hread
    constructor
    · intro hlast
      cases hlast
    · rintro ⟨more,hwritten,-,hmore,-⟩
      obtain ⟨rest,rfl,-⟩ := eq_written_cons.mp hwritten
      rw [List.append_cons] at hmore
      obtain ⟨next,hnext,-⟩ := h.assign hmem hmore.front index
      rw [hassign] at hnext
      cases hnext
  | case5 state index option value arguments descriptor hread state' hassign ih =>
    obtain ⟨hpair,hmem,rfl⟩ := readPair_ok_iff.mp hread
    have hsparse' := h.sparse_of_assign hsparse hmem hassign
    obtain ⟨next,hnext,hholds⟩ := h.assign hmem hsparse' index
    obtain rfl : state' = next := by simpa [hassign] using hnext
    rw [ih hholds hsparse']
    constructor
    · rintro ⟨rest,rfl,hreadable,hmore,hlast⟩
      rw [List.append_assoc] at hmore hlast
      exact ⟨_ :: rest,rfl,List.forall_mem_cons.mpr ⟨hpair,hreadable⟩,hmore,hlast⟩
    · rintro ⟨more,hwritten,hreadable,hmore,hlast⟩
      obtain ⟨rest,rfl,rfl⟩ := eq_written_cons.mp hwritten
      rw [List.append_cons] at hmore hlast
      exact ⟨rest,rfl,(List.forall_mem_cons.mp hreadable).2,hmore,hlast⟩

end Loop

section Issues
variable {pairs : List (String × String)} {options : CheckOptions} {descriptor : CheckOptionDescriptor}

/-- The kinds whose values are checked in a text, and the one that is in a list. -/
def CheckOptionDescriptor.fits (descriptor : CheckOptionDescriptor) : Bool :=
  match descriptor.kind,descriptor.field with
  | .choice,.list _ => false
  | .unsignedInteger,.list _ => false
  | .keyValue,.text _ => false
  | _,_ => true

lemma fits_of_mem (h : descriptor ∈ checkOptionDescriptors) : descriptor.fits = true := by
  have hall : checkOptionDescriptors.all CheckOptionDescriptor.fits = true := by decide
  exact List.all_eq_true.mp hall descriptor h

/-- Every default passes the check of its own option. -/
lemma default_of_mem (h : descriptor ∈ checkOptionDescriptors) :
    descriptor.defaultValue = "" ∨ descriptor.kind = .choice ∧ descriptor.defaultValue ∈ descriptor.values := by
  have hall : checkOptionDescriptors.all (fun descriptor => descriptor.defaultValue = "" ||
      (descriptor.kind = .choice && descriptor.values.contains descriptor.defaultValue)) = true := by decide +kernel
  simpa using List.all_eq_true.mp hall descriptor h

/-- An option that is needed has no default. -/
lemma default_of_needed (h : descriptor ∈ checkOptionDescriptors)
    (hneeded : descriptor.required = true ∨ descriptor.requiredGroup ≠ "") : descriptor.defaultValue = "" := by
  have hall : checkOptionDescriptors.all (fun descriptor =>
      (!descriptor.required && descriptor.requiredGroup = "") || descriptor.defaultValue = "") = true := by
    decide +kernel
  have hthis : descriptor.required = false ∧ descriptor.requiredGroup = "" ∨ descriptor.defaultValue = "" := by
    simpa using List.all_eq_true.mp hall descriptor h
  rcases hthis with ⟨hrequired,hgroup⟩ | hdefault
  · rcases hneeded with hneeded | hneeded
    · rw [hrequired] at hneeded
      cases hneeded
    · exact absurd hgroup hneeded
  · exact hdefault

lemma value_ne_empty (hreadable : ∀ pair ∈ pairs, ReadablePair pair) {flag value : String}
    (h : value ∈ valuesOf pairs flag) : value ≠ "" := (hreadable _ (mem_valuesOf.mp h)).filled

/-- A member without a default is missing where its option is not given. -/
lemma Reads.missing_iff (h : Reads pairs options) (hreadable : ∀ pair ∈ pairs, ReadablePair pair)
    (hmem : descriptor ∈ checkOptionDescriptors) (hdefault : descriptor.defaultValue = "") :
    descriptor.missing options = true ↔ valuesOf pairs descriptor.flag = [] := by
  unfold CheckOptionDescriptor.missing
  cases hfield : descriptor.field with
  | text field =>
    simp only [decide_eq_true_eq]
    rw [h.text descriptor hmem field hfield,hdefault]
    cases hvalues : valuesOf pairs descriptor.flag with
    | nil => simp
    | cons value values =>
      have hfilled : value ≠ "" := value_ne_empty hreadable (hvalues ▸ List.mem_cons_self)
      simp [hfilled]
  | list field =>
    simp only [decide_eq_true_eq]
    rw [h.list descriptor hmem field hfield]

lemma requiredIssue_eq_none_iff (h : Reads pairs options) (hreadable : ∀ pair ∈ pairs, ReadablePair pair) (size : ℕ) :
    requiredIssue options size = none ↔
      ∀ descriptor ∈ checkOptionDescriptors, descriptor.required = true → valuesOf pairs descriptor.flag ≠ [] := by
  unfold requiredIssue
  rw [List.findSome?_eq_none_iff]
  apply forall₂_congr
  intro descriptor hmem
  cases hrequired : descriptor.required with
  | false => simp
  | true =>
    rw [ne_eq,← h.missing_iff hreadable hmem (default_of_needed hmem (Or.inl hrequired))]
    simp

lemma mem_checkOptionGroup {group : String} :
    descriptor ∈ checkOptionGroup group ↔
      group ≠ "" ∧ descriptor ∈ checkOptionDescriptors ∧ descriptor.requiredGroup = group := by
  unfold checkOptionGroup
  by_cases hgroup : group = ""
  · simp [hgroup]
  · simp [hgroup]

lemma groupIssue_eq_none_iff (h : Reads pairs options) (hreadable : ∀ pair ∈ pairs, ReadablePair pair) (size : ℕ) :
    groupIssue options size = none ↔
      ∀ descriptor ∈ checkOptionDescriptors, descriptor.requiredGroup ≠ "" →
        ∃ member ∈ checkOptionDescriptors, member.requiredGroup = descriptor.requiredGroup ∧
          valuesOf pairs member.flag ≠ [] := by
  have hmissing : ∀ group, ∀ member ∈ checkOptionGroup group,
      (member.missing options = true ↔ valuesOf pairs member.flag = []) := by
    intro group member hmember
    obtain ⟨hgroup,hmem,rfl⟩ := mem_checkOptionGroup.mp hmember
    exact h.missing_iff hreadable hmem (default_of_needed hmem (Or.inr hgroup))
  unfold groupIssue
  rw [List.findSome?_eq_none_iff]
  constructor
  · intro hnone descriptor hmem hgroup
    -- the first member of the group speaks for it
    obtain ⟨first,rest,hmembers⟩ := List.exists_cons_of_ne_nil
      (List.ne_nil_of_mem (mem_checkOptionGroup.mpr ⟨hgroup,hmem,rfl⟩))
    have hfirst : first ∈ checkOptionGroup descriptor.requiredGroup := hmembers ▸ List.mem_cons_self
    obtain ⟨-,hfirstmem,hfirstgroup⟩ := mem_checkOptionGroup.mp hfirst
    have hsome : ¬((checkOptionGroup descriptor.requiredGroup).all fun member => member.missing options) = true := by
      intro hall
      have := hnone first hfirstmem
      simp [hfirstgroup,hmembers] at this
      rw [hmembers] at hall
      simp only [List.all_cons,Bool.and_eq_true] at hall
      obtain ⟨member,hmember,hgiven⟩ := this hall.1
      rw [List.all_eq_true.mp hall.2 member hmember] at hgiven
      cases hgiven
    rw [List.all_eq_true] at hsome
    push Not at hsome
    obtain ⟨member,hmember,hgiven⟩ := hsome
    obtain ⟨-,hmembermem,hmembergroup⟩ := mem_checkOptionGroup.mp hmember
    exact ⟨member,hmembermem,hmembergroup,fun hnil => hgiven ((hmissing _ member hmember).mpr hnil)⟩
  · intro hgroups descriptor hmem
    by_cases hgroup : descriptor.requiredGroup = ""
    · simp [hgroup,checkOptionGroup]
    · obtain ⟨member,hmembermem,hmembergroup,hgiven⟩ := hgroups descriptor hmem hgroup
      have hmember := mem_checkOptionGroup.mpr ⟨hgroup,hmembermem,hmembergroup⟩
      have hnot : member.missing options ≠ true := fun h => hgiven ((hmissing _ member hmember).mp h)
      rw [if_neg]
      intro hall
      simp only [Bool.and_eq_true] at hall
      exact hnot (List.all_eq_true.mp hall.2 member hmember)

/-- The values of a text are none or a single one, which is what its member holds. -/
lemma Reads.value_iff (h : Reads pairs options) (hsparse : Sparse pairs) (hmem : descriptor ∈ checkOptionDescriptors)
    {field : TextField} (hfield : descriptor.field = .text field) {test : String → Prop}
    (hdefault : test descriptor.defaultValue) :
    test (field.get options) ↔ ∀ value ∈ valuesOf pairs descriptor.flag, test value := by
  have honce := hsparse.once descriptor hmem (by simp [CheckOptionDescriptor.repeatable,hfield])
  rw [h.text descriptor hmem field hfield]
  cases hvalues : valuesOf pairs descriptor.flag with
  | nil => simp [hdefault]
  | cons value values =>
    rw [hvalues,List.length_cons] at honce
    obtain rfl : values = [] := List.eq_nil_of_length_eq_zero (by omega)
    simp

lemma choiceIssue_eq_none_iff (h : Reads pairs options) (hreadable : ∀ pair ∈ pairs, ReadablePair pair)
    (hsparse : Sparse pairs) (size : ℕ) :
    choiceIssue options size = none ↔ ∀ descriptor ∈ checkOptionDescriptors, descriptor.kind = .choice →
      ∀ value ∈ valuesOf pairs descriptor.flag, descriptor.Takes value := by
  unfold choiceIssue
  rw [List.findSome?_eq_none_iff]
  apply forall₂_congr
  intro descriptor hmem
  by_cases hkind : descriptor.kind = .choice
  · cases hfield : descriptor.field with
    | list field =>
      have hfits := fits_of_mem hmem
      simp [CheckOptionDescriptor.fits,hkind,hfield] at hfits
    | text field =>
      have hdefault := default_of_mem hmem
      have htest : ∀ value, (value = "" ∧ descriptor.defaultValue = "" ∨ value ∈ descriptor.values) ↔
          (if (value = "" && descriptor.defaultValue = "") || descriptor.values.contains value then none
            else some (⟨descriptor.invalidValueError,descriptor.flag,size⟩ : CheckOptionError)) = none := by
        intro value
        rw [or_iff_not_imp_left,not_and]
        simp
      simp only [hkind,forall_const]
      rw [← htest,@Reads.value_iff _ _ _ h hsparse hmem field hfield
        (fun value => value = "" ∧ descriptor.defaultValue = "" ∨ value ∈ descriptor.values)
        (hdefault.imp (fun hnone => ⟨hnone,hnone⟩) And.right)]
      apply forall₂_congr
      intro value hvalue
      simp [CheckOptionDescriptor.Takes,hkind,value_ne_empty hreadable hvalue]
  · simp [hkind]

lemma valueIssue_eq_none_iff (h : Reads pairs options) (hreadable : ∀ pair ∈ pairs, ReadablePair pair)
    (hsparse : Sparse pairs) (size : ℕ) :
    valueIssue options size = none ↔ ∀ descriptor ∈ checkOptionDescriptors, descriptor.kind ≠ .choice →
      ∀ value ∈ valuesOf pairs descriptor.flag, descriptor.Takes value := by
  unfold valueIssue
  rw [List.findSome?_eq_none_iff]
  apply forall₂_congr
  intro descriptor hmem
  have hfits := fits_of_mem hmem
  cases hkind : descriptor.kind with
  | text => simp [CheckOptionDescriptor.Takes,hkind]
  | path => simp [CheckOptionDescriptor.Takes,hkind]
  | choice => simp
  | unsignedInteger =>
    cases hfield : descriptor.field with
    | list field => simp [CheckOptionDescriptor.fits,hkind,hfield] at hfits
    | text field =>
      have hdefault : descriptor.defaultValue = "" := by simpa [hkind] using default_of_mem hmem
      have htest : ∀ value, (value = "" ∨ validUnsigned32 value = true) ↔
          (if value ≠ "" && !validUnsigned32 value then
            some (⟨descriptor.invalidValueError,descriptor.flag,size⟩ : CheckOptionError) else none) = none := by
        intro value
        by_cases hempty : value = "" <;> simp [hempty]
      simp only [ne_eq,reduceCtorEq,not_false_eq_true,forall_const]
      rw [← htest,@Reads.value_iff _ _ _ h hsparse hmem field hfield
        (fun value => value = "" ∨ validUnsigned32 value = true) (Or.inl hdefault)]
      apply forall₂_congr
      intro value hvalue
      simp [CheckOptionDescriptor.Takes,hkind,value_ne_empty hreadable hvalue]
  | keyValue =>
    cases hfield : descriptor.field with
    | text field => simp [CheckOptionDescriptor.fits,hkind,hfield] at hfits
    | list field =>
      simp [CheckOptionDescriptor.Takes,hkind,h.list descriptor hmem field hfield]

/-- The options of the pairs have no issue exactly where what is needed is given and every value is taken. -/
lemma optionIssue_eq_none_iff (h : Reads pairs options) (hsize : (written pairs).length ≤ maxCheckArguments)
    (hreadable : ∀ pair ∈ pairs, ReadablePair pair) (hsparse : Sparse pairs) (size : ℕ) :
    optionIssue options size = none ↔ Admitted pairs := by
  unfold optionIssue
  simp only [Option.or_eq_none_iff]
  rw [requiredIssue_eq_none_iff h hreadable,groupIssue_eq_none_iff h hreadable,
    choiceIssue_eq_none_iff h hreadable hsparse,valueIssue_eq_none_iff h hreadable hsparse]
  constructor
  · rintro ⟨hrequired,hgroup,hchoice,hvalue⟩
    refine ⟨hsize,hreadable,hsparse,hrequired,hgroup,fun descriptor hmem => ?_⟩
    by_cases hkind : descriptor.kind = .choice
    · exact hchoice descriptor hmem hkind
    · exact hvalue descriptor hmem hkind
  · intro hadmitted
    exact ⟨hadmitted.required,hadmitted.material,fun descriptor hmem _ => hadmitted.taken descriptor hmem,
      fun descriptor hmem _ => hadmitted.taken descriptor hmem⟩

/-- The arguments give some options exactly where they are pairs that are admitted, and then each member holds what is
given to its option, or its default. -/
theorem parseCheckOptions_ok_iff (arguments : List String) (options : CheckOptions) :
    parseCheckOptions arguments = .ok options ↔
      ∃ pairs, arguments = written pairs ∧ Admitted pairs ∧ Reads pairs options := by
  have hloop : ∀ {last : ParseState}, parseArguments {} 0 arguments = .ok last ↔
      ∃ pairs, arguments = written pairs ∧ (∀ pair ∈ pairs, ReadablePair pair) ∧ Sparse pairs ∧ last.Holds pairs := by
    intro last
    have hstart : ParseState.Holds [] {} := ⟨reads_nil,rfl⟩
    exact parseArguments_ok_iff hstart ⟨fun _ _ _ => Nat.zero_le _,fun _ _ _ => Nat.zero_le _⟩
  unfold parseCheckOptions
  constructor
  · intro hok
    split_ifs at hok with hmany
    cases hparse : parseArguments {} 0 arguments with
    | error error => simp [hparse] at hok
    | ok last =>
      obtain ⟨pairs,rfl,hreadable,hsparse,hlast⟩ := hloop.mp hparse
      rw [hparse] at hok
      cases hissue : optionIssue last.options (written pairs).length with
      | some error => simp [hissue] at hok
      | none =>
        obtain rfl : last.options = options := by simpa [hissue] using hok
        have hadmitted := (optionIssue_eq_none_iff hlast.reads (not_lt.mp hmany) hreadable hsparse _).mp hissue
        exact ⟨pairs,rfl,hadmitted,hlast.reads⟩
  · rintro ⟨pairs,rfl,hadmitted,hreads⟩
    rw [if_neg (not_lt.mpr hadmitted.size),hloop.mpr ⟨pairs,rfl,hadmitted.readable,hadmitted.sparse,
      (⟨hreads,rfl⟩ : ParseState.Holds pairs ⟨options,options.given⟩)⟩]
    simp only [(optionIssue_eq_none_iff hreads hadmitted.size hadmitted.readable hadmitted.sparse _).mpr hadmitted]

example : parseCheckOptions ["--runtime","r","--rom","g","--rom","h"] = .error ⟨.duplicateOption,"--rom",4⟩ := by
  decide +kernel

end Issues
end AytherRuntime.Check.CommandLine
