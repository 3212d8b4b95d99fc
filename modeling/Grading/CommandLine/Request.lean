namespace Grading

/-! The arguments of the program and what they ask for. -/

namespace CommandLine

structure Switch where
  name : String
  /-- Its first letter stands for the whole name. -/
  letter : Char
  about : String
  isRequired : Bool
  /-- The empty text is a value. -/
  allowsEmpty : Bool
  deriving DecidableEq, Repr

def submissionSwitch : Switch := ⟨"submission", 's', "Submission as JSON", true, false⟩

def fileSwitch : Switch :=
  ⟨"file", 'f', "Path of the file inside the submission, e.g. \x60src/main.py\x60", true, true⟩

def recordsSwitch : Switch :=
  ⟨"records", 'r', "Write the recorded testrun as JSON to this file", false, false⟩

def environmentSwitch : Switch :=
  ⟨"environment", 'e', "Execution environment as JSON", true, false⟩

def textSwitch : Switch := ⟨"text", 't', "File holding the failure text", true, false⟩

inductive Subcommand
  | score
  | run
  | classify
  | frameworks
  | help
  deriving DecidableEq, Repr

namespace Subcommand

def all : List Subcommand := [score, run, classify, frameworks, help]

def name : Subcommand → String
  | score => "score"
  | run => "run"
  | classify => "classify"
  | frameworks => "frameworks"
  | help => "help"

def named? (name : String) : Option Subcommand := all.find? (·.name == name)

def switches : Subcommand → List Switch
  | score => [submissionSwitch]
  | run => [submissionSwitch, fileSwitch, recordsSwitch]
  | classify => [environmentSwitch, textSwitch]
  | frameworks | help => []

theorem named?_name (subcommand : Subcommand) : named? subcommand.name = some subcommand := by
  cases subcommand <;> decide

end Subcommand

abbrev Given := List (Switch × String)

inductive Refusal
  | helpWanted
  | wrong
  deriving DecidableEq, Repr

/-- Adds an option, which can be given once. -/
def give (given : Given) (switch : Switch) (value : String) : Except Refusal Given :=
  if value.isEmpty && !switch.allowsEmpty then .error .wrong
  else if given.any (·.1 == switch) then .error .wrong
  else .ok (given ++ [(switch, value)])

/-- Whether an argument asks for help, by its name or by its letter before any others. -/
def asksForHelp (argument : String) : Bool :=
  argument == "--help" || argument.toList.take 2 == ['-', 'h']

def isValue (argument : String) : Bool :=
  match argument.toList with
  | ['-'] => true
  | '-' :: _ => false
  | _ => true

def switchOf? (switches : List Switch) (argument : List Char) :
    Option (Switch × Option String) :=
  match argument with
  | '-' :: '-' :: rest =>
      let name := rest.takeWhile (· != '=')
      let value := match rest.dropWhile (· != '=') with
        | [] => none
        | _ :: value => some (String.ofList value)
      (switches.find? (·.name == String.ofList name)).map fun switch => (switch, value)
  | '-' :: letter :: rest =>
      let value := match rest with
        | [] => none
        | '=' :: value => some (String.ofList value)
        | value => some (String.ofList value)
      (switches.find? (·.letter == letter)).map fun switch => (switch, value)
  | _ => none

def options (switches : List Switch) (given : Given) : List String → Except Refusal Given
  | [] => .ok given
  | argument :: rest =>
      if asksForHelp argument then .error .helpWanted
      else if argument == "--" then
        if rest.isEmpty then .ok given else .error .wrong
      else
        match switchOf? switches argument.toList, rest with
        | some (switch, some value), rest =>
            match give given switch value with
            | .ok given => options switches given rest
            | .error refusal => .error refusal
        | some (switch, none), value :: rest =>
            if isValue value then
              match give given switch value with
              | .ok given => options switches given rest
              | .error refusal => .error refusal
            else .error .wrong
        | _, _ => .error .wrong

inductive Request
  | score (submission : String)
  /-- Run a file of a submission and perhaps write the records. -/
  | run (submission file : String) (records : Option String)
  | classify (environment text : String)
  | frameworks
  | help (topic : Option Subcommand)
  deriving DecidableEq, Repr

namespace Request

def ofGiven? (given : Given) : Subcommand → Option Request
  | .score => do return .score (← given.lookup submissionSwitch)
  | .run => do
      return .run (← given.lookup submissionSwitch) (← given.lookup fileSwitch)
        (given.lookup recordsSwitch)
  | .classify => do
      return .classify (← given.lookup environmentSwitch) (← given.lookup textSwitch)
  | .frameworks => some .frameworks
  | .help => some (.help none)

def ofArguments? : List String → Option Request
  | [] => none
  | ["help"] => some (.help none)
  | ["help", topic] => (Subcommand.named? topic).map fun topic => .help (some topic)
  | "help" :: _ => none
  | argument :: rest =>
      if asksForHelp argument then some (.help none)
      else do
        let subcommand ← Subcommand.named? argument
        match options subcommand.switches [] rest with
        | .ok given => ofGiven? given subcommand
        | .error .helpWanted => return .help (some subcommand)
        | .error .wrong => none

example : ofArguments? ["run", "-fa.py", "--submission=s.json"] =
    some (.run "s.json" "a.py" none) := by decide +kernel
example : ofArguments? ["score", "-s"] = none := by decide +kernel
example : ofArguments? ["score", "-s", "--help"] = none := by decide +kernel
example : ofArguments? ["run", "--help", "-x"] = some (.help (some .run)) := by decide +kernel

end Request

end CommandLine

end Grading
