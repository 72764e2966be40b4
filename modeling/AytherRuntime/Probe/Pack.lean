import AytherRuntime.Library.Lines
import AytherRuntime.Probe.Json

/-! The probe of a pack: the Runtime writes its report as one line, and the supervisor reads it back. -/
namespace AytherRuntime.Probe
open Lines

def packProbePrefix : List Char := "AYTHER_PACK_PROBE ".toList
def packProbeUnusableExitCode : ℕ := 66
def packProbeRegistryInvalidExitCode : ℕ := 78

/-- `PackCatalog`, without its assets, which the line does not carry. -/
structure PackCatalog where
  poses : UInt32
  audioEvents : UInt32
  deriving DecidableEq, Repr

structure PackProbeReport where
  opened : Bool := false
  signedPack : Bool := false
  signature : List Char := "unverified".toList
  trust : List Char := "unverified".toList
  catalog : Option PackCatalog := none
  unreadableAssets : List (List Char) := []
  profiles : List (List Char) := []
  gameId : List Char := []
  errors : List (List Char) := []
  message : List Char := []
  trustRegistryError : List Char := []
  deriving DecidableEq, Repr

/-- `PackProbe`, what the supervisor knows of a pack. -/
structure PackProbe where
  opened : Bool
  signature : List Char
  trust : List Char
  poses : Option ℕ
  audioEvents : Option ℕ
  unreadableAssets : List (List Char)
  profiles : Option (List (List Char))
  gameId : List Char
  errors : List (List Char)
  reason : List Char
  message : List Char
  deriving DecidableEq, Repr

section Writer

def hexDigits : List Char := "0123456789abcdef".toList

/-- The bytes of a string for one of its own. -/
def escape (codeUnit : Char) : List Char :=
  if codeUnit = '"' then ['\\','"']
  else if codeUnit = '\\' then ['\\','\\']
  else if codeUnit = '\x08' then ['\\','b']
  else if codeUnit = '\x0c' then ['\\','f']
  else if codeUnit = '\n' then ['\\','n']
  else if codeUnit = '\r' then ['\\','r']
  else if codeUnit = '\t' then ['\\','t']
  else if codeUnit.toNat < 0x20 then
    ['\\','u','0','0',hexDigits.getD (codeUnit.toNat / 16 % 16) '0',hexDigits.getD (codeUnit.toNat % 16) '0']
  else [codeUnit]

/-- `append_json_string` -/
def jsonString (text : List Char) : List Char := '"' :: text.flatMap escape ++ ['"']

/-- `append_string_array` -/
def stringArray (values : List (List Char)) : List Char := '[' :: [','].intercalate (values.map jsonString) ++ [']']

/-- `append_field` -/
def jsonField (name text : List Char) : List Char := ',' :: jsonString name ++ ':' :: jsonString text

/-- `pack_probe_reason`, empty when the pack can be used. -/
def packProbeReason (report : PackProbeReport) : List Char :=
  if report.trustRegistryError ≠ [] then "trust_registry_invalid".toList
  else if report.errors ≠ [] then "pack_invalid".toList
  else if report.signedPack ∧ report.trust = "unverified".toList then "pack_trust_unverified".toList
  else if report.trust = "untrusted".toList then "pack_untrusted".toList
  else if !report.opened then "pack_open_failed".toList
  else if report.catalog = none then "pack_catalog_invalid".toList
  else if report.unreadableAssets ≠ [] then "pack_assets_unreadable".toList
  else []

def packProbeExitCode (report : PackProbeReport) : ℕ :=
  let reason := packProbeReason report
  if reason = [] then 0
  else if reason = "trust_registry_invalid".toList then packProbeRegistryInvalidExitCode
  else packProbeUnusableExitCode

def catalogJson : Option PackCatalog → List Char
  | some catalog =>
    "\x7b\"poses\":".toList ++ (toString catalog.poses.toNat).toList ++ ",\"audio_events\":".toList ++
      (toString catalog.audioEvents.toNat).toList ++ ['}']
  | none => "null".toList

/-- The reason, with the error of the registry or else the message. -/
def reasonJson (report : PackProbeReport) : List Char :=
  let reason := packProbeReason report
  if reason = [] then []
  else
    jsonField "reason".toList reason ++
      if report.trustRegistryError ≠ [] then jsonField "message".toList report.trustRegistryError
      else if report.message ≠ [] then jsonField "message".toList report.message
      else []

/-- The object of the line. -/
def packProbeJson (report : PackProbeReport) : List Char :=
  "\x7b\"schema\":\"1.0\",\"opened\":".toList ++ (if report.opened then "true".toList else "false".toList) ++
    jsonField "signature".toList report.signature ++ jsonField "trust".toList report.trust ++
    ",\"catalog\":".toList ++ catalogJson report.catalog ++
    ",\"unreadable_assets\":".toList ++ stringArray report.unreadableAssets ++
    ",\"profiles\":".toList ++ stringArray report.profiles ++ jsonField "game_id".toList report.gameId ++
    ",\"errors\":".toList ++ stringArray report.errors ++ reasonJson report ++ ['}']

/-- `format_pack_probe_line` -/
def formatPackProbeLine (report : PackProbeReport) : List Char := packProbePrefix ++ packProbeJson report ++ ['\n']

end Writer

section Reader

/-- `last_line_with`: what follows the text that begins the last line that it begins. -/
def lastLineWith (output beginning : List Char) : Option (List Char) :=
  (linesOf output).foldl
    (fun found line =>
      let line := if line.getLast? = some '\r' then line.dropLast else line
      if beginning.isPrefixOf line then some (line.drop beginning.length) else found)
    none

/-- `read_list` -/
def readList (fields : List JsonField) (path : List Char) : List (List Char) :=
  match sizeField fields path with
  | none => []
  | some count => (List.range count).filterMap fun index => stringField fields (elementPath path index)

/-- The probe of the fields of a line. -/
def packProbeOf (fields : List JsonField) : Option PackProbe :=
  if stringField fields "schema".toList ≠ some "1.0".toList then none
  else
    match booleanField fields "opened".toList,stringField fields "signature".toList,
      stringField fields "trust".toList with
    | some opened,some signature,some trust =>
      some
        { opened := opened
          signature := signature
          trust := trust
          poses := unsignedField fields "catalog.poses".toList
          audioEvents := unsignedField fields "catalog.audio_events".toList
          unreadableAssets := readList fields "unreadable_assets".toList
          errors := readList fields "errors".toList
          profiles :=
            if (sizeField fields "profiles".toList).isSome then some (readList fields "profiles".toList) else none
          gameId := (stringField fields "game_id".toList).getD []
          reason := (stringField fields "reason".toList).getD []
          message := (stringField fields "message".toList).getD [] }
    | _,_,_ => none

/-- `parse_pack_probe` -/
def parsePackProbe (output : List Char) : Option PackProbe :=
  match lastLineWith output packProbePrefix with
  | none => none
  | some line =>
    match parseJsonFields line with
    | none => none
    | some fields => packProbeOf fields

end Reader

example : parsePackProbe (formatPackProbeLine { errors := ["zip".toList], message := "not \"legible\"\x01".toList }) =
    some ⟨false,"unverified".toList,"unverified".toList,none,none,[],some [],[],["zip".toList],"pack_invalid".toList,
      "not \"legible\"\x01".toList⟩ := by decide +kernel

end AytherRuntime.Probe
