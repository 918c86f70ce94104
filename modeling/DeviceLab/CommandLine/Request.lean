import DeviceLab.Decimal.Powers
import DeviceLab.CommandLine.Grammar

/-!
# What the program can be asked to do

* `Request`: a run, a check of a configuration, a list of commands, or a verdict on a log.
* `grammar`: the command line of the program.
* `Invocation.parse`: the request that a command line makes.
-/

namespace DeviceLab.CommandLine

/-- What the program is asked to do. -/
inductive Request where
  /-- To carry out a run; with suites in place of the configured ones, if there are any. -/
  | run (config : String) (suites : List String)
  /-- To check a configuration. -/
  | verify (config : String)
  /-- To show the command of each suite. -/
  | commands (config : String) (suites : List String)
  /-- To judge the output of a suite that has ended. -/
  | classify (category : String) (exitCode : Option Int) (suite : String) (config : Option String)
      (log : String)
  deriving DecidableEq, Repr

/-- A request, with the lines of the log that are wanted. -/
structure Invocation where
  request : Request
  logLevel : String
  deriving DecidableEq, Repr

/-- The option that names a configuration. -/
def configOption : OptionRule where
  name := "config"
  short := some 'c'
  placeholder := "CONFIG"
  form := .path
  isRequired := true

/-- The option that selects a suite. -/
def suitesOption : OptionRule where
  name := "suite"
  placeholder := "SUITES"
  repeats := true

/-- The option that selects lines of the log. -/
def logLevelOption : OptionRule where
  name := "log-level"
  placeholder := "LOG_LEVEL"
  about := "Log filter (e.g. \"info\", \"emu_harness=debug\")"
  usual := some "info"

/-- The command that carries out a run. -/
def runCommand : CommandRule where
  name := "run"
  about := "Start devices, run the selected suites and tear everything down"
  options :=
    [{ configOption with about := "Path to the harness config file" },
      { suitesOption with
        about := "Suites to run instead of the configured \x60test_suites\x60 (repeatable)" }]

/-- The command that checks a configuration. -/
def verifyCommand : CommandRule where
  name := "verify"
  about := "Validate the configuration"
  options := [configOption]

/-- The command that shows commands. -/
def commandsCommand : CommandRule where
  name := "commands"
  about := "Print each suite's resolved command line without running anything"
  options := [configOption, suitesOption]

/-- The command that judges a log. -/
def classifyCommand : CommandRule where
  name := "classify"
  about := "Classify an existing suite log"
  options :=
    [{ name := "category", placeholder := "CATEGORY", isRequired := true
       about := "Suite category whose rule table applies" },
      { name := "exit-code", placeholder := "EXIT_CODE"
        form := .whole (-Decimal.twoTo 31) (Decimal.twoTo 31 - 1)
        about := "Exit code the suite ended with; omit for a killed process" },
      { name := "suite", placeholder := "SUITE", usual := some "suite"
        about := "Suite name for the summary line" },
      { configOption with isRequired := false
                          about := "Config file supplying the exit policy and custom rules" }]
  operands :=
    [{ name := "log", placeholder := "LOG", form := .path, isRequired := true
       about := "Captured output to classify" }]

/-- The command line of the program. -/
def grammar : Grammar where
  program := "emu-harness"
  version := "0.1.0"
  about := "Run test suites on emulated devices"
  shared := [logLevelOption]
  commands := [runCommand, verifyCommand, commandsCommand, classifyCommand]

def Parsed.valueOr (p : Parsed) (option : OptionRule) : String :=
  (p.value? option.name).getD (option.usual.getD "")

/-- The request of a command line that fits the grammar. -/
def Request.ofParsed (p : Parsed) : Request :=
  let config := p.valueOr configOption
  if p.command = runCommand.name then .run config (p.values suitesOption.name)
  else if p.command = verifyCommand.name then .verify config
  else if p.command = commandsCommand.name then .commands config (p.values suitesOption.name)
  else
    .classify ((p.value? "category").getD "") ((p.value? "exit-code").bind wholeValue?)
      ((p.value? "suite").getD "suite") (p.value? configOption.name) ((p.value? "log").getD "")

/-- The request that a command line makes. -/
def Invocation.parse (args : List String) : Except Stop Invocation := do
  let p ← grammar.parse args
  return { request := .ofParsed p, logLevel := p.valueOr logLevelOption }

end DeviceLab.CommandLine
