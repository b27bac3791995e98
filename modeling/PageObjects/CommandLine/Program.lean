import PageObjects.Batch.Run
import PageObjects.Catalog.Action
import PageObjects.CommandLine.Help

/-!
# The program

What a call of the program does, as a function of its arguments, the environment and the files: the
exit code, the text printed, the fault of usage, what is logged as errors, and the files after it.
This is the CLI of the specification (6): `compile` runs the Runner, and `actions` lists the action
catalog.
-/

namespace PageObjects

/-- What a call of the program does. -/
structure Response where
  exitCode : Nat
  output : String := ""
  usageError : Option UsageError := none
  log : List String := []
  tree : FileTree

namespace Program

/-- A text followed by blanks up to a width. -/
def padded (width : Nat) (text : String) : String :=
  text ++ String.ofList (List.replicate (width - text.length) ' ')

/-- A row of the table of actions. -/
def actionRow (name returns parameters interface : String) : String :=
  " ".intercalate [padded 20 name, padded 10 returns, padded 20 parameters, padded 12 interface]

/-- The table of actions. -/
def actionTable (actions : List Action) : List String :=
  ["", actionRow "Action" "Returns" "Parameters" "Interface",
    String.ofList (List.replicate 64 '-')] ++
    actions.map fun a =>
      actionRow a.name a.returns.simpleName
        (", ".intercalate (a.parameters.map ResultType.simpleName)) a.interface

/-- Lines as printed text. -/
def printed (lines : List String) : String := String.join (lines.map (· ++ "\n"))

/-- Lists the actions of an interface. -/
def listActions (tree : FileTree) (interface : String) : Response :=
  match Action.list interface with
  | .ok actions => { exitCode := 0, output := printed (actionTable actions), tree }
  | .error e => { exitCode := 1, log := [e.message], tree }

/-- What an option is given as a setting: null for an option that is not there, and an empty list for
one without value. -/
def settingOf (write : α → Json) : Given α → Json
  | .absent => .null
  | .empty => .list []
  | .value a => write a

/-- The output directory as a setting; one without text counts as not given. -/
def outputSetting : Given String → Json
  | .value text => if text.isEmpty then .null else .text text
  | _ => .null

/-- The settings that the options of a call give. -/
def settingsOf (sourceDir : String) (o : CompileOptions) : Fields :=
  [("source_dir", .text sourceDir), ("output_dir", outputSetting o.output),
    ("module_name", settingOf .text o.moduleName),
    ("package_root", settingOf .text o.packageRoot), ("max_workers", settingOf .int o.workers)]

/-- The line about one document. -/
def resultLine (r : BatchResult) : String :=
  match r.error? with
  | none => "✅ " ++ r.fullName
  | some e => "❌ " ++ r.source.text ++ ": " ++ e

/-- The lines about a run. -/
def summaryLines (s : BatchSummary) : List String :=
  s.results.map resultLine ++
    ["", s!"{s.succeeded.length} compiled, {s.failed.length} failed"]

/-- Compiles the documents under a directory, on a machine. -/
def compileDirectory (environment : List (String × String)) (tree : FileTree) (sourceDir : String)
    (o : CompileOptions) (machine : Machine) : Except RunError Response :=
  match Config.ofSettings (Config.withEnvironment environment (settingsOf sourceDir o)) with
  | .error problems =>
    .ok { exitCode := 1, log := ["Invalid configuration: " ++ Config.headline problems], tree }
  | .ok config =>
    match tree.isDirectory config.sourceDir with
    | .error e => .error (.search (.file e))
    | .ok false =>
      .ok { exitCode := 1, log := ["Source directory not found: " ++ config.sourceDir.text], tree }
    | .ok true =>
      (Config.run { config with machine } tree).map fun summary =>
        { exitCode := if summary.isSuccess then 0 else 1,
          output := printed (summaryLines summary),
          log := summary.results.flatMap BatchResult.log, tree := summary.tree }

/-- A call of the program, on a machine. -/
def call (environment : List (String × String)) (tree : FileTree) (arguments : List String)
    (machine : Machine := {}) : Except RunError Response :=
  match Arguments.parse arguments with
  | .error e => .ok { exitCode := 2, usageError := some e, tree }
  | .ok .nothing => .ok { exitCode := 1, output := Topic.program.help, tree }
  | .ok (.help topic) => .ok { exitCode := 0, output := topic.help, tree }
  | .ok (.actions interface) => .ok (listActions tree interface)
  | .ok (.compile sourceDir options) => compileDirectory environment tree sourceDir options machine

/-- The configuration of a call that compiles a directory. -/
def config? (environment : List (String × String)) (arguments : List String) : Option Config :=
  match Arguments.parse arguments with
  | .ok (.compile sourceDir options) =>
    (Config.ofSettings (Config.withEnvironment environment (settingsOf sourceDir options))).toOption
  | _ => none

/-- What goes to the error stream: how the topic is used and the fault, and what is logged. -/
def errorLines (r : Response) : List String :=
  match r.usageError with
  | some e => e.topic.usageLines ++ [e.message]
  | none => r.log

end Program
end PageObjects
