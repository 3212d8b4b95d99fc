import Grading.Duration
import Grading.Feedback
import Grading.Localization

namespace Grading

/-! What is configured outside the documents of a submission. -/

open Json (Field Reader)

structure Catalog where
  linter : LinterCatalog
  feedback : Feedback

namespace Catalog

def default : Catalog := ⟨.empty, .default⟩

def fields : List Field :=
  [.of "linter" LinterCatalog.read, .of "feedback" Feedback.read]

def read : Reader Catalog :=
  Reader.record fields 0 fun given => do
    return { linter := ← given.withDefault "linter" LinterCatalog.read .empty
             feedback := ← given.withDefault "feedback" Feedback.read .default }

end Catalog

inductive RunnerStrategy
  | remote
  /-- Nowhere: commands cannot be run. -/
  | disabled
  /-- A pool that answers every command with success. -/
  | simulated
  deriving DecidableEq, Repr

namespace RunnerStrategy

/-- The strategy of a setting. Unknown strategies run nothing. -/
def ofSetting : Option String → RunnerStrategy
  | none => disabled
  | some setting =>
      match String.ofList (Text.trim setting.toList) with
      | "grpc" => remote
      | "stub" => simulated
      | _ => disabled

end RunnerStrategy

structure Configuration where
  strategy : RunnerStrategy
  serviceUrl : String
  catalogPath : Option String
  /-- How long one search in the output of a learner may take. -/
  searchBudget : Duration
  deriving DecidableEq, Repr

namespace Configuration

def defaultServiceUrl : String := "http://127.0.0.1:7200"

def defaultSearchMillis : Nat := 2000

def settingNames : List String :=
  ["RUNNER_STRATEGY", "RUNNER_MANAGEMENT_URL", "GRADER_CATALOG", "REGEX_BUDGET_MS"]

def ofSettings (setting? : String → Option String) : Configuration :=
  { strategy := .ofSetting (setting? "RUNNER_STRATEGY")
    serviceUrl := (setting? "RUNNER_MANAGEMENT_URL").getD defaultServiceUrl
    catalogPath := (setting? "GRADER_CATALOG").filter (!·.isEmpty)
    searchBudget := .ofMillis
      (((setting? "REGEX_BUDGET_MS").bind fun text =>
        Text.naturalBelow? wordBound text.toList).getD defaultSearchMillis) }

/-- Whether the service has an address that can be read: a path, a host, or a scheme and a host with
a path. -/
def hasServiceAddress (configuration : Configuration) : Bool :=
  let address := configuration.serviceUrl.toList
  let isSchemeCharacter (character : Char) : Bool :=
    character.isAlphanum || "+-.".toList.contains character
  let isHostEnd (character : Char) : Bool := "/?#".toList.contains character
  let isAddressCharacter (character : Char) : Bool :=
    ' ' < character && !"<>\\^\x60".toList.contains character
  address.all isAddressCharacter &&
    match address, address.dropWhile isSchemeCharacter with
    | [], _ => false
    | '/' :: _, _ => true
    | _, ':' :: '/' :: '/' :: first :: _ => !isHostEnd first
    | address, _ => !address.any isHostEnd

inductive CatalogError
  | unreadable
  | invalid (fault : Json.Fault)
  deriving DecidableEq, Repr

/-- The catalog of a file with these bytes, or of a file that is missing. -/
def catalogOfBytes (bytes : Option ByteArray) : Except CatalogError Catalog :=
  match bytes.bind String.fromUTF8? with
  | none => .error .unreadable
  | some text => (Reader.run Catalog.read text).mapError .invalid

def loadCatalog (configuration : Configuration) (bytes? : String → Option ByteArray) :
    Except CatalogError Catalog :=
  match configuration.catalogPath with
  | some path => catalogOfBytes (bytes? path)
  | none => .ok .default

end Configuration

end Grading
