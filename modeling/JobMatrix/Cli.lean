import JobMatrix.Job.Load
import JobMatrix.Job.Report

/-!
The command line: `stepmatrix [OPTIONS] <JOB_FILE>` loads a job file (`job.yaml` when none is
named), plans it and prints the plan as text, or as JSON with `--json`. Arguments are read left
to right: help and version answer at once, `--json` and `--verbose` set flags, any other
argument starting with `-` is unknown, and a second file name is unexpected. The journal goes
to the error stream, debug records only with `--verbose`; warnings and errors carry their
level in brackets.
-/

namespace JobMatrix

namespace Cli

def versionText : String := "StepMatrix 0.1.0"

def defaultJob : String := "job.yaml"

def usage : String :=
  String.join ([
    "Usage: stepmatrix [OPTIONS] <JOB_FILE>",
    "",
    "Arguments:",
    "  <JOB_FILE>   Path to job YAML file (default: " ++ defaultJob ++ ")",
    "",
    "Options:",
    "  --json       Print the plan as JSON",
    "  --verbose    Enable debug logging",
    "  --help       Show this help message",
    "  --version    Show version information"].map (· ++ "\n"))

/-- What the arguments ask for. -/
inductive Request where
  | help
  | version
  | plan (path : String) (json verbose : Bool)
  | bad (message : String)
  deriving DecidableEq, Repr

/-- Reads arguments left to right, given the file named so far, whether one was named, and
the flags. -/
def requestFrom (path : String) (named json verbose : Bool) : List String → Request
  | [] => .plan path json verbose
  | a :: rest =>
    if a == "--help" || a == "-h" then .help
    else if a == "--version" || a == "-V" then .version
    else if a == "--json" then requestFrom path named true verbose rest
    else if a == "--verbose" || a == "-v" then requestFrom path named json true rest
    else if a.toList.head? == some '-' then .bad ("Unknown option: " ++ a)
    else if named then .bad ("Unexpected argument: " ++ a)
    else requestFrom a true json verbose rest

def request (args : List String) : Request :=
  requestFrom defaultJob false false false args

def Request.path? : Request → Option String
  | .plan path _ _ => some path
  | _ => none

/-- What the program leaves behind: its exit code and the text of its two streams. -/
structure Outcome where
  exitCode : Nat
  stdout : String
  stderr : String
  deriving DecidableEq, Repr

def noteLine (n : Note) : String :=
  match n.level with
  | .warn | .error => "[" ++ n.level.label ++ "] " ++ n.text ++ "\n"
  | _ => n.text ++ "\n"

def journalText (verbose : Bool) (notes : List Note) : String :=
  String.join ((notes.filter fun n => verbose || n.level != .debug).map noteLine)

/-- Runs the program on its arguments, given what reading the job file gives. -/
def run (args : List String) (read : String → Except FileFault String) : Outcome :=
  match request args with
  | .help => ⟨0, usage, ""⟩
  | .version => ⟨0, versionText ++ "\n", ""⟩
  | .bad message => ⟨1, usage, "Error: " ++ message ++ "\n\n" ++ "\nError: " ++ message ++ "\n"⟩
  | .plan path json verbose =>
    let content := read path
    let loading := Job.loadNotes path content
    match Job.load path content with
    | .error f =>
      let notes := loading ++ [⟨.error, "Failed to load job: " ++ f.message⟩]
      ⟨1, "", journalText verbose notes ++ "\nError: " ++ f.message ++ "\n"⟩
    | .ok j =>
      let notes := loading ++ j.planNotes
      match j.plan with
      | .error f => ⟨1, "", journalText verbose notes ++ "\nError: " ++ f.message ++ "\n"⟩
      | .ok p =>
        let done : Note := ⟨.info, "Job '" ++ p.job ++ "' expands to " ++ toString p.size ++ " step runs"⟩
        let out := if json then p.json.pretty 0 ++ "\n" else p.text
        ⟨0, out, journalText verbose (notes ++ [done])⟩

end Cli

end JobMatrix
