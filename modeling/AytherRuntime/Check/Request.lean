import AytherRuntime.Check.Runner
import AytherRuntime.Fact.Model

/-! The confirmed summary of a request: its document, how it is written and read, and the outcome that the
same request gets from it. -/
namespace AytherRuntime.Check

section Document

inductive ValueSource
  | explicitOption | playManifest | reference | environment | defaultValue | generated
  deriving DecidableEq, Repr

def valueSourceCode : ValueSource → String
  | .explicitOption => "explicit"
  | .playManifest => "play_manifest"
  | .reference => "reference"
  | .environment => "environment"
  | .defaultValue => "default"
  | .generated => "generated"

def parseSource (code : String) : Option ValueSource :=
  [ValueSource.explicitOption,.playManifest,.reference,.environment,.defaultValue,.generated].find?
    fun source => valueSourceCode source = code

structure EffectiveValue where
  key : String
  value : String
  source : ValueSource
  deriving DecidableEq, Repr

structure StoredMaterial where
  role : String
  field : String
  path : String
  sha256 : String
  size : UInt64
  deriving DecidableEq, Repr

structure RequestSummaryDocument where
  requestId : String
  conditionsId : String
  runId : String
  confirmed : Bool := true
  exitCode : ℕ
  linearComplete : Bool
  values : List EffectiveValue
  materials : List StoredMaterial
  takes : List StoredTakeSummary
  deriving DecidableEq, Repr

inductive RequestSummaryReadError
  | missing | unreadable | unsupportedVersion | invalid
  deriving DecidableEq, Repr

/-- A TOML value; a table is its keys with their values. -/
inductive Toml
  | string (value : String)
  | integer (value : Int)
  | boolean (value : Bool)
  | array (values : List Toml)
  | table (entries : List (String × Toml))

namespace Toml

/-- `document[key]` -/
def get (key : String) : Toml → Option Toml
  | .table entries => (entries.find? fun entry => entry.1 = key).map Prod.snd
  | _ => none

def asString : Toml → Option String
  | .string value => some value
  | _ => none

def asInteger : Toml → Option Int
  | .integer value => some value
  | _ => none

def asBoolean : Toml → Option Bool
  | .boolean value => some value
  | _ => none

def asArray : Toml → Option (List Toml)
  | .array values => some values
  | _ => none

def isTable : Toml → Bool
  | .table _ => true
  | _ => false

def text (key : String) (table : Toml) : Option String := (table.get key).bind asString

def number (key : String) (table : Toml) : Option Int := (table.get key).bind asInteger

def flag (key : String) (table : Toml) : Option Bool := (table.get key).bind asBoolean

def rows (key : String) (table : Toml) : Option (List Toml) := (table.get key).bind asArray

end Toml

def formatMaterial (material : StoredMaterial) : Toml :=
  .table [("role",.string material.role),("field",.string material.field),("path",.string material.path),
    ("sha256",.string material.sha256),("size",.string (toString material.size.toNat))]

def formatValue (value : EffectiveValue) : Toml :=
  .table [("key",.string value.key),("value",.string value.value),
    ("source",.string (valueSourceCode value.source))]

/-- Only a timeline names its kind. -/
def formatTake (take : StoredTakeSummary) : Toml :=
  .table ([("position",Toml.integer take.position),("path",.string take.take),("sha256",.string take.sha256),
    ("run_id",.string take.runId),("outcome",.string take.outcome),("diagnostic",.string take.diagnostic),
    ("playback",.string take.playback),("traversal",.string take.traversal),
    ("evidence",.string take.evidence),
    ("evidence_reasons",.array (take.evidenceReasons.map Toml.string))] ++
    if take.kind ≠ "" then [("kind",Toml.string take.kind)] else [])

def formatRequestSummary (summary : RequestSummaryDocument) : Toml :=
  .table ([("schema_version",Toml.integer 1),("schema_minor",.integer 2),("kind",.string "request_summary"),
    ("request_id",.string summary.requestId),("conditions_id",.string summary.conditionsId),
    ("run_id",.string summary.runId),("confirmed",.boolean summary.confirmed),
    ("exit_code",.integer summary.exitCode),("linear_complete",.boolean summary.linearComplete),
    ("visual_evaluation",.string "not_evaluated")] ++
    (if summary.materials.any fun material => material.role = "pack" then []
      else [("pack",Toml.string "none")]) ++
    [("material",Toml.array (summary.materials.map formatMaterial)),
     ("effective",.array (summary.values.map formatValue)),("take",.array (summary.takes.map formatTake))])

/-- `read_strings` -/
def readStrings (node : Option Toml) : Option (List String) :=
  (node.bind Toml.asArray).bind fun values => values.mapM Toml.asString

def parseMaterial (row : Toml) : Option StoredMaterial := do
  let role ← row.text "role"
  let field ← row.text "field"
  let path ← row.text "path"
  let sha256 ← row.text "sha256"
  let size ← (row.text "size").bind fun text => fromChars (2 ^ 64) text.toList
  some { role, field, path, sha256, size := UInt64.ofNat size }

def parseValue (row : Toml) : Option EffectiveValue := do
  let key ← row.text "key"
  let value ← row.text "value"
  let source ← (row.text "source").bind parseSource
  some { key, value, source }

def parseTake (row : Toml) : Option StoredTakeSummary := do
  let position ← (row.number "position").filter fun position => 0 ≤ position
  let take ← row.text "path"
  let sha256 ← row.text "sha256"
  let runId ← row.text "run_id"
  let outcome ← row.text "outcome"
  let diagnostic ← row.text "diagnostic"
  let playback ← row.text "playback"
  let traversal ← row.text "traversal"
  let evidence ← row.text "evidence"
  let evidenceReasons ← readStrings (row.get "evidence_reasons")
  let kind ←
    match row.text "kind" with
    | some kind => if kind ≠ "take" ∧ kind ≠ "timeline" then none else some kind
    | none => some ""
  some { position := position.toNat, take, sha256, runId, outcome, diagnostic, playback, traversal, evidence,
         evidenceReasons, kind }

/-- The rows of a list that may be absent. -/
def parseRows {α : Type} (parse : Toml → Option α) : Option (List Toml) → Option (List α)
  | none => some []
  | some rows => rows.mapM parse

/-- `parse_request_summary`, from the document that the library reads. -/
def parseRequestSummary (document : Toml) : Except RequestSummaryReadError RequestSummaryDocument :=
  match document.number "schema_version" with
  | none => .error .invalid
  | some version =>
    if version ≠ 1 then .error .unsupportedVersion
    else
      let parsed : Option RequestSummaryDocument := do
        let _ ← (document.text "kind").filter fun kind => kind = "request_summary"
        let requestId ← document.text "request_id"
        let conditionsId ← document.text "conditions_id"
        let runId ← document.text "run_id"
        let confirmed ← document.flag "confirmed"
        let exitCode ← document.number "exit_code"
        let linearComplete ← document.flag "linear_complete"
        let materials ← parseRows parseMaterial (document.rows "material")
        let values ← parseRows parseValue (document.rows "effective")
        let takes ← (document.rows "take").bind fun rows => rows.mapM parseTake
        some { requestId, conditionsId, runId, confirmed, exitCode := exitCode.toNat, linearComplete, values,
               materials, takes }
      match parsed with
      | some summary => .ok summary
      | none => .error .invalid

end Document

section Inverse

lemma mapM_map_some {α β : Type} {parse : β → Option α} {format : α → β} {l : List α}
    (h : ∀ a ∈ l, parse (format a) = some a) : (l.map format).mapM parse = some l := by
  induction l with
  | nil => rfl
  | cons a l ih =>
    obtain ⟨ha,hl⟩ := List.forall_mem_cons.mp h
    rw [List.map_cons,List.mapM_cons,ha,ih hl]
    rfl

lemma parseMaterial_format (material : StoredMaterial) :
    parseMaterial (formatMaterial material) = some material := by
  have hsize := fromChars_toString (2 ^ 64) material.size.toNat
  rw [if_pos material.size.toNat_lt] at hsize
  unfold parseMaterial formatMaterial
  simp only [Toml.text,Toml.get,Toml.asString,List.find?,Option.map_some,Option.bind_some,decide_true,
    String.reduceEq,decide_false]
  rw [hsize]
  simp

lemma parseValue_format (value : EffectiveValue) : parseValue (formatValue value) = some value := by
  have hsource : parseSource (valueSourceCode value.source) = some value.source := by
    cases value.source <;> decide
  unfold parseValue formatValue
  simp [Toml.text,Toml.get,Toml.asString,hsource]

lemma parseTake_format {take : StoredTakeSummary} (hkind : take.kind = "" ∨ take.kind = "timeline") :
    parseTake (formatTake take) = some take := by
  have hreasons : (take.evidenceReasons.map Toml.string).mapM Toml.asString = some take.evidenceReasons :=
    mapM_map_some fun _ _ => rfl
  obtain ⟨position,path,sha256,runId,outcome,diagnostic,playback,traversal,evidence,reasons,kind⟩ := take
  dsimp only at hkind hreasons
  rcases hkind with rfl | rfl <;>
    simp [parseTake,formatTake,Toml.text,Toml.number,Toml.get,Toml.asString,Toml.asInteger,Toml.asArray,
      readStrings,hreasons,Option.filter_some]

/-- A summary whose takes name their kind as the runner does is read back from its document. -/
lemma parseRequestSummary_format {summary : RequestSummaryDocument}
    (hkinds : ∀ take ∈ summary.takes, take.kind = "" ∨ take.kind = "timeline") :
    parseRequestSummary (formatRequestSummary summary) = .ok summary := by
  have hmaterials := mapM_map_some (l := summary.materials) fun m _ => parseMaterial_format m
  have hvalues := mapM_map_some (l := summary.values) fun v _ => parseValue_format v
  have htakes := mapM_map_some (l := summary.takes) fun t ht => parseTake_format (hkinds t ht)
  obtain ⟨requestId,conditionsId,runId,confirmed,exitCode,linearComplete,values,materials,takes⟩ := summary
  dsimp only at hmaterials hvalues htakes
  unfold parseRequestSummary formatRequestSummary
  by_cases hpack : (materials.any fun material => material.role = "pack") = true <;>
    simp [Toml.number,Toml.text,Toml.flag,Toml.rows,Toml.get,Toml.asString,Toml.asInteger,Toml.asBoolean,
      Toml.asArray,parseRows,hmaterials,hvalues,htakes,hpack,Option.filter_some]

end Inverse
end AytherRuntime.Check
