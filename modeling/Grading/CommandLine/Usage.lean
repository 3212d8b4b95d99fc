import Grading.CommandLine.Request

namespace Grading

/-! What the program prints about its arguments. -/

namespace CommandLine

def table (rows : List (String × String)) : String :=
  let width := (rows.map (·.1.length)).foldl max 0
  String.join (rows.map fun (left, right) =>
    "  " ++ left ++ String.ofList (List.replicate (width + 2 - left.length) ' ') ++ right ++ "\n")

example : table [("a", "first"), ("long", "second")] = "  a     first\n  long  second\n" := by
  decide +kernel

namespace Switch

def pattern (switch : Switch) : String :=
  "--" ++ switch.name ++ " <" ++ String.ofList (switch.name.toList.map Char.toUpper) ++ ">"

def row (switch : Switch) : String × String :=
  (String.ofList ['-', switch.letter, ',', ' '] ++ switch.pattern, switch.about)

end Switch

def helpRow : String × String := ("-h, --help", "Print help")

namespace Subcommand

def about : Subcommand → String
  | score => "Score every test and linter file of a submission and print the score together " ++
      "with the recorded testruns and structured errors"
  | run => "Execute the run command for one file and stream its output"
  | classify => "Match failure text against the error templates of an environment"
  | frameworks => "List supported testing frameworks"
  | help => "Print this message or the help of the given subcommand(s)"

def arguments (subcommand : Subcommand) : String :=
  let (required, optional) := subcommand.switches.partition Switch.isRequired
  (if optional.isEmpty then "" else " [OPTIONS]") ++
    String.join (required.map fun switch => " " ++ switch.pattern)

def usage (program : String) (subcommand : Subcommand) : String :=
  let heading := subcommand.about ++ "\n\nUsage: " ++ program ++ " " ++ subcommand.name
  match subcommand with
  | .help =>
      heading ++ " [COMMAND]...\n\nArguments:\n" ++
        table [("[COMMAND]...", "Print help for the subcommand(s)")]
  | subcommand =>
      heading ++ subcommand.arguments ++ "\n\nOptions:\n" ++
        table (subcommand.switches.map Switch.row ++ [helpRow])

end Subcommand

def usage (program : String) : String :=
  "Runs submissions in sandboxes and grades their test output\n\nUsage: " ++ program ++
  " <COMMAND>\n\nCommands:\n" ++
  table (Subcommand.all.map fun subcommand => (subcommand.name, subcommand.about)) ++
  "\nOptions:\n" ++ table [helpRow] ++
  "\nTestruns and structured errors are kept in memory only and never persisted: \x60score\x60 " ++
  "prints them next to the score, \x60run\x60 writes them to --records.\n"

example : Subcommand.run.arguments = " [OPTIONS] --submission <SUBMISSION> --file <FILE>" := by
  decide +kernel

end CommandLine

end Grading
