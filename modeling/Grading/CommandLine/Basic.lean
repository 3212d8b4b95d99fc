import Grading.CommandLine.Usage
import Grading.Grader
import Grading.Pool.Remote
import Grading.Pool.Scripted

namespace Grading

/-! What a run of the program prints, writes and ends with. -/

namespace CommandLine

structure Surroundings where
  program : String
  setting? : String → Option String
  bytes? : String → Option ByteArray
  /-- How long searches take here. -/
  searchTime? : Search → Option Duration

structure Ending where
  code : Nat
  stdout : String
  /-- Files to write, with their contents. -/
  written : List (String × String)
  deriving DecidableEq, Repr

namespace Ending

def failed : Ending := ⟨1, "", []⟩

def wrongArguments : Ending := ⟨2, "", []⟩

def printed (text : String) : Ending := ⟨0, text, []⟩

/-- The ending where only some files can be written. -/
def writingTo (ending : Ending) (canWrite : String → Bool) : Ending :=
  let written := ending.written.filter fun (path, _) => canWrite path
  { ending with
    code := if written.length = ending.written.length then ending.code else failed.code
    written := written }

theorem writingTo_all (ending : Ending) : ending.writingTo (fun _ => true) = ending := by
  have kept : ending.written.filter (fun _ => true) = ending.written :=
    List.filter_eq_self.mpr fun _ _ => rfl
  simp [writingTo, kept]

end Ending

namespace Surroundings

def configuration (around : Surroundings) : Configuration := .ofSettings around.setting?

def text? (around : Surroundings) (path : String) : Option String :=
  (around.bytes? path).bind String.fromUTF8?

def read? {α : Type} (around : Surroundings) (reader : Json.Reader α) (path : String) : Option α :=
  (around.text? path).bind fun text => (Json.Reader.run reader text).toOption

def simulatedDelay : Duration := .ofMillis 100

/-- The configured pool. Services cannot be reached from here. -/
def pool (around : Surroundings) : Pool :=
  match around.configuration.strategy with
  | .remote => Service.unreachable.toPool
  | .disabled => .disabled
  | .simulated => (ScriptedPool.succeeding simulatedDelay).toPool

def searching (around : Surroundings) : Searching :=
  ⟨around.configuration.searchBudget, around.searchTime?⟩

/-- The configured grader, if the address of the service and the catalog can be read. -/
def grader? (around : Surroundings) : Option Grader :=
  let configuration := around.configuration
  if configuration.strategy = .remote ∧ !configuration.hasServiceAddress then none
  else (configuration.loadCatalog around.bytes?).toOption.map fun catalog =>
    ⟨around.pool, catalog, around.searching, fun _ => true⟩

end Surroundings

open Json (Value)

def reportValue (score : SubmissionScore Float) (records : Records) : Value :=
  .object (score.members ++ records.members)

def printedValue (value : Value) : String := value.toIndentedText ++ "\n"

def runScore (around : Surroundings) (submission : String) : Ending :=
  let ending? : Option Ending := do
    let submission ← around.read? Submission.read submission
    let grader ← around.grader?
    let (result, world) := (grader.score submission none).perform .start
    match result with
    | some (.ok score) => return .printed (printedValue (reportValue score world.log.records))
    | _ => none
  ending?.getD .failed

def printerCapacity : Nat := 128

def printer : Receiver := ⟨printerCapacity, fun _ => .take 0⟩

/-- The ending of a single run: its output, and its records even if it failed. -/
def runEnding (records : Option String) (result : Grader.RunResult) (log : Log) : Ending :=
  let output := CapturedOutput.ofEvents ((result.channel.map Channel.received).getD [])
  let written := records.map fun path => (path, log.records.toValue.toIndentedText)
  ⟨if result.times.toBool then 0 else 1, output.stdout, written.toList⟩

def runRun (around : Surroundings) (submission file : String) (records : Option String) :
    Ending :=
  let ending? : Option Ending := do
    let submission ← around.read? Submission.read submission
    let grader ← around.grader?
    let (result, world) := (grader.runFile submission file printer none).perform .start
    return runEnding records (← result) world.log
  ending?.getD .failed

def runClassify (around : Surroundings) (environment text : String) : Ending :=
  let ending? : Option Ending := do
    let environment ← around.read? Environment.read environment
    let text ← around.text? text
    let _ ← around.grader?
    let errors ← (environment.classify text around.searching).toOption
    return .printed (printedValue (.array (errors.map StructuredError.toValue)))
  ending?.getD .failed

def frameworksText : String :=
  String.join (Framework.all.map fun framework => framework.name ++ "\t" ++ framework.key ++ "\n")

def Request.paths : Request → List String
  | .score submission | .run submission _ _ => [submission]
  | .classify environment text => [environment, text]
  | .frameworks | .help _ => []

def runRequest (around : Surroundings) : Request → Ending
  | .score submission => runScore around submission
  | .run submission file records => runRun around submission file records
  | .classify environment text => runClassify around environment text
  | .frameworks => .printed frameworksText
  | .help none => .printed (usage around.program)
  | .help (some topic) => .printed (topic.usage around.program)

def run (around : Surroundings) (arguments : List String) : Ending :=
  match Request.ofArguments? arguments with
  | some request => runRequest around request
  | none => .wrongArguments

end CommandLine

end Grading
