import AytherRuntime.Check.Outcome
import AytherRuntime.Launcher.Options

/-! The model of the launcher form: its fields, the request that they make, the preflight of it, and when it may
start. -/
namespace AytherRuntime.Launcher
open Check (CheckOptions EffectiveValue FieldIssue MaterialKind PlaybackKind TakeSlotOutcome TraversalKind)

section Data

structure ModelField where
  descriptor : CheckOptionDescriptor
  value : String := ""
  values : List String := []

structure EnvironmentValues where
  runtime : Option String := none
  core : Option String := none
  deriving DecidableEq, Repr

structure PreflightResult where
  effective : List EffectiveValue := []
  issues : List FieldIssue := []
  diagnostics : List String := []
  deriving DecidableEq, Repr

inductive RequestPhaseKind
  | validating | admitted | preparing | running | closing | closed
  deriving DecidableEq, Repr

structure RequestPhase where
  kind : RequestPhaseKind := .validating
  takePosition : ℕ := 0
  deriving DecidableEq, Repr

/-- The texts of the results. -/
inductive LauncherText
  | playbackNaturalEnd | playbackCancelled | playbackFailed | playbackInterrupted | playbackNotStarted
  | traversalLinear | traversalInspection | traversalPostEndInspection | traversalUnknown
  | evidenceComplete | evidenceIncomplete
  | jointLinearComplete | jointNotLinearComplete
  deriving DecidableEq, Repr

structure TakeResultRow where
  position : ℕ
  take : String
  kind : MaterialKind
  playback : LauncherText := .playbackNotStarted
  traversal : LauncherText := .traversalUnknown
  evidence : LauncherText := .evidenceIncomplete
  reasons : List String := []
  diagnostic : String
  deriving DecidableEq, Repr

/-- What the launcher reads of the outcome of a request. -/
structure RequestOutcome where
  perTake : List TakeSlotOutcome := []
  issues : List FieldIssue := []
  linearComplete : Bool := false
  deriving DecidableEq, Repr

structure LauncherModel where
  fields : List ModelField
  environment : EnvironmentValues := {}
  effective : List EffectiveValue := []
  issues : List FieldIssue := []
  diagnostics : List String := []
  dirty : Bool := true
  active : Bool := false
  phase : RequestPhase := {}
  currentTake : Option ℕ := none
  results : List TakeResultRow := []
  joint : Option LauncherText := none
  runIssues : List FieldIssue := []

end Data

section Values

/-- `unquoted_path`: a path between one pair of double quotes is the path without them. -/
def unquotedPath (value : String) : String :=
  let characters := value.toList
  if 2 ≤ characters.length ∧ characters.head? = some '"' ∧ characters.getLast? = some '"' then
    String.ofList ((characters.drop 1).take (characters.length - 2))
  else value

def pastedValue (descriptor : CheckOptionDescriptor) (value : String) : String :=
  if descriptor.kind = .path then unquotedPath value else value

def playbackText : PlaybackKind → LauncherText
  | .naturalEnd => .playbackNaturalEnd
  | .cancelled => .playbackCancelled
  | .failed => .playbackFailed
  | .interrupted => .playbackInterrupted

def traversalText : Option TraversalKind → LauncherText
  | none => .traversalUnknown
  | some .linear => .traversalLinear
  | some .inspection => .traversalInspection
  | some .postEndInspection => .traversalPostEndInspection

def ModelField.hasFlag (flag : String) (field : ModelField) : Bool := field.descriptor.flag = flag

/-- `empty_field` -/
def ModelField.empty (field : ModelField) : Bool :=
  if field.descriptor.repeatable then field.values.isEmpty else field.value = ""

/-- The list with the first entry that meets a test changed. -/
def changeFirst {α : Type} (test : α → Bool) (change : α → α) : List α → List α
  | [] => []
  | a :: rest => if test a then change a :: rest else a :: changeFirst test change rest

end Values

namespace LauncherModel

section Fields
variable (model : LauncherModel)

def find (flag : String) : Option ModelField := model.fields.find? (ModelField.hasFlag flag)

/-- The form as it opens: every option at its default, in visible presentation. -/
def new : LauncherModel where
  fields := changeFirst (ModelField.hasFlag "--presentation") (fun field => { field with value := "visible" })
    (checkOptionDescriptors.map fun descriptor => { descriptor, value := descriptor.defaultValue })

def value (flag : String) : String := ((model.find flag).map ModelField.value).getD ""

/-- A change of the field of a flag, where the field takes it. -/
def change (flag : String) (takes : ModelField → Bool) (change : ModelField → ModelField) : LauncherModel :=
  match model.find flag with
  | none => model
  | some field =>
    if takes field then
      { model with fields := changeFirst (ModelField.hasFlag flag) change model.fields, dirty := true }
    else model

def set (flag value : String) : LauncherModel :=
  model.change flag (fun field => !field.descriptor.repeatable) fun field =>
    { field with value := pastedValue field.descriptor value }

def removePack : LauncherModel := model.set "--pack" ""

def addValue (flag path : String) : LauncherModel :=
  model.change flag (fun field => field.descriptor.repeatable) fun field =>
    { field with values := field.values ++ [pastedValue field.descriptor path] }

def removeValue (flag : String) (position : ℕ) : LauncherModel :=
  model.change flag (fun field => field.descriptor.repeatable && position < field.values.length) fun field =>
    { field with values := field.values.eraseIdx position }

def moveValue (flag : String) (source destination : ℕ) : LauncherModel :=
  model.change flag
    (fun field => field.descriptor.repeatable && source < field.values.length && destination < field.values.length &&
      source ≠ destination)
    fun field => { field with
      values := (field.values.eraseIdx source).insertIdx destination (field.values[source]?.getD "") }

def repeatValue (flag : String) (position : ℕ) : LauncherModel :=
  model.change flag (fun field => field.descriptor.repeatable && position < field.values.length) fun field =>
    { field with values := field.values ++ [field.values[position]?.getD ""] }

def setValues (flag : String) (values : List String) : LauncherModel :=
  model.change flag (fun field => field.descriptor.repeatable) fun field =>
    { field with values := values.map (pastedValue field.descriptor) }

def addTake (path : String) : LauncherModel := model.addValue "--take" path

def removeTake (position : ℕ) : LauncherModel := model.removeValue "--take" position

def moveTake (source destination : ℕ) : LauncherModel := model.moveValue "--take" source destination

def repeatTake (position : ℕ) : LauncherModel := model.repeatValue "--take" position

def addTimeline (path : String) : LauncherModel := model.addValue "--timeline" path

def setEnvironment (environment : EnvironmentValues) : LauncherModel := { model with environment, dirty := true }

end Fields

section Request
variable (model : LauncherModel)

def fromEnvironment (key : String) : Bool :=
  if key = "runtime" then model.value "--runtime" = "" && model.environment.runtime.isSome
  else if key = "core" then model.value "--core" = "" && model.environment.core.isSome
  else false

/-- What one field sets of a request. -/
def setField (request : CheckOptions) (field : ModelField) : CheckOptions :=
  let request := match field.descriptor.textField with
    | some set => set request field.value
    | none => request
  match field.descriptor.listField with
  | some set => set request field.values
  | none => request

/-- `request`: the fields, and the environment where it fills the Runtime or the core. -/
def request : CheckOptions :=
  let request := model.fields.foldl setField emptyRequest
  let request := if model.fromEnvironment "runtime" then
      { request with runtime := model.environment.runtime.getD "" } else request
  if model.fromEnvironment "core" then { request with core := model.environment.core.getD "" } else request

/-- The fields of a group. -/
def groupMembers (group : String) : List ModelField :=
  model.fields.filter fun field => field.descriptor.requiredGroup = group

/-- The groups of the fields, each once. -/
def requiredGroups : List String :=
  model.fields.foldl (fun groups field =>
    if field.descriptor.requiredGroup = "" || groups.contains field.descriptor.requiredGroup then groups
    else groups ++ [field.descriptor.requiredGroup]) []

def missingRequired : List FieldIssue :=
  (model.fields.filter fun field => field.descriptor.required && field.empty &&
      !(field.descriptor.flag = "--runtime" && model.fromEnvironment "runtime")).map
    (fun field => ⟨field.descriptor.flag,"missing_required_option"⟩) ++
  model.requiredGroups.flatMap fun group =>
    if (model.groupMembers group).any fun field => !field.empty then []
    else (model.groupMembers group).map fun field => ⟨field.descriptor.flag,"missing_required_material"⟩

def revalidate (preflight : CheckOptions → PreflightResult) : LauncherModel :=
  let result := preflight model.request
  { model with
    effective := result.effective, issues := result.issues, diagnostics := result.diagnostics, dirty := false }

def canStart : Bool := !model.active && !model.dirty && model.missingRequired.isEmpty && model.issues.isEmpty

end Request

section Phases
variable (model : LauncherModel)

def onStarted : LauncherModel :=
  { model with active := true, phase := ⟨.validating,0⟩, currentTake := none, results := [], joint := none,
               runIssues := [] }

def onPhase (phase : RequestPhase) : LauncherModel :=
  let model := { model with phase }
  let model := if phase.kind = .preparing ∨ phase.kind = .running then
      { model with currentTake := some phase.takePosition } else model
  if phase.kind = .closed then { model with active := false, currentTake := none } else model

def resultRow : TakeSlotOutcome → TakeResultRow
  | .started take =>
    { position := take.position, take := take.take, kind := take.kind, playback := playbackText take.playback.kind
      traversal := traversalText take.traversal
      evidence := if take.evidence.complete then .evidenceComplete else .evidenceIncomplete
      reasons := take.evidence.reasons, diagnostic := take.playback.diagnostic }
  | .notStarted pending =>
    { position := pending.position, take := pending.take, kind := pending.kind, diagnostic := pending.reason }

def onFinished (outcome : RequestOutcome) : LauncherModel :=
  { model with
    active := false, phase := ⟨.closed,0⟩, currentTake := none, results := outcome.perTake.map resultRow
    runIssues := outcome.issues
    joint := if outcome.perTake = [] then none
      else some (if outcome.linearComplete then .jointLinearComplete else .jointNotLinearComplete) }

end Phases
end LauncherModel
end AytherRuntime.Launcher
