import AytherRuntime.Check.EffectiveValues

/-! The options of a request as the launcher reads their table: which are required, which repeat, and the field of the
request that each one sets. -/
namespace AytherRuntime.Launcher
open Check (CheckOptions)

inductive CheckOptionKind
  | text | path | choice | unsignedInteger | keyValue
  deriving DecidableEq, Repr

structure CheckOptionDescriptor where
  flag : String
  kind : CheckOptionKind := .text
  required : Bool := false
  repeatable : Bool := false
  defaultValue : String := ""
  textField : Option (CheckOptions → String → CheckOptions) := none
  listField : Option (CheckOptions → List String → CheckOptions) := none
  requiredGroup : String := ""

/-- A request with nothing given. -/
def emptyRequest : CheckOptions := { runtime := "", rom := "", output := "" }

def checkOptionDescriptors : List CheckOptionDescriptor :=
  [{ flag := "--runtime", kind := .path, required := true,
     textField := some fun r value => { r with runtime := value } },
   { flag := "--rom", kind := .path, required := true, textField := some fun r value => { r with rom := value } },
   { flag := "--core", kind := .path, textField := some fun r value => { r with core := value } },
   { flag := "--reference", kind := .path, textField := some fun r value => { r with reference := value } },
   { flag := "--play-manifest", kind := .path, textField := some fun r value => { r with playManifest := value } },
   { flag := "--pack", kind := .path, textField := some fun r value => { r with pack := value } },
   { flag := "--output", kind := .path, required := true, textField := some fun r value => { r with output := value } },
   { flag := "--request-id", textField := some fun r value => { r with requestId := value } },
   { flag := "--language", kind := .choice, defaultValue := "es",
     textField := some fun r value => { r with language := value } },
   { flag := "--trust-registry", kind := .path, textField := some fun r value => { r with trustRegistry := value } },
   { flag := "--presentation", kind := .choice, defaultValue := "none",
     textField := some fun r value => { r with presentation := value } },
   { flag := "--at-end", kind := .choice, defaultValue := "inspect",
     textField := some fun r value => { r with atEnd := value } },
   { flag := "--pack-mode", kind := .choice, defaultValue := "hd",
     textField := some fun r value => { r with packMode := value } },
   { flag := "--take", kind := .path, repeatable := true, listField := some fun r values => { r with takes := values },
     requiredGroup := "material" },
   { flag := "--timeline", kind := .path, repeatable := true,
     listField := some fun r values => { r with timelines := values }, requiredGroup := "material" },
   { flag := "--profile", textField := some fun r value => { r with profile := value } },
   { flag := "--subsystems", kind := .unsignedInteger,
     textField := some fun r value => { r with subsystems := value } },
   { flag := "--mute-buses", kind := .unsignedInteger, textField := some fun r value => { r with muteBuses := value } },
   { flag := "--video-output", textField := some fun r value => { r with videoOutput := value } },
   { flag := "--patch", kind := .path, textField := some fun r value => { r with patch := value } },
   { flag := "--shaders", kind := .choice, textField := some fun r value => { r with shaders := value } },
   { flag := "--core-option", kind := .keyValue, repeatable := true,
     listField := some fun r values => { r with coreOptions := values } }]

end AytherRuntime.Launcher
