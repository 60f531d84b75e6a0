import LiveSession.Cli.Args
import LiveSession.Cli.ConfigFile
/-!
# The `nirvana` command

The command line reads its arguments, and runs the subcommands that need only the configuration
file of the current directory: `config validate`, `config show` and `version`. Starting a
session and the doctor drive node processes, which this program does not run.
-/

open LiveSession LiveSession.Cli LiveSession.Files

/-- The program's version. -/
def versionText : String := "nirvana 0.1.0"

/-- A short usage text. -/
def usageText : String :=
  "Usage: nirvana <COMMAND>\n\nCommands:\n  start    Build the project in watch mode and open a session\n" ++
  "  doctor   Check that a project and this installation are ready\n" ++
  "  config   Configuration utilities (validate, show)\n  version  Print version information\n"

/-- The current directory with its configuration file, when there is one, as a tree. -/
def currentTree (wd : String) : IO Tree := do
  let path := Path.join wd configFileName
  try
    let bytes ← IO.FS.readBinFile path
    return (Tree.empty.put wd .dir).put path (.file bytes.toList)
  catch _ =>
    return Tree.empty.put wd .dir

/-- Runs a command that needs the configuration, printing an error when it cannot be read. -/
def withConfig (act : Config → String → IO UInt32) : IO UInt32 := do
  let wd := (← IO.currentDir).toString
  match loadConfig (← currentTree wd) wd with
  | .ok (c, path) => act c path
  | .error m =>
    IO.eprintln ("Error: " ++ m)
    return 1

/-- Runs the command line. -/
def main (args : List String) : IO UInt32 := do
  match parseCommandLine args with
  | .error .displayHelp | .error .displayHelpOnMissingArgumentOrSubcommand =>
    IO.print usageText
    return (if args.isEmpty then 2 else 0)
  | .error .displayVersion =>
    IO.println versionText
    return 0
  | .error e =>
    IO.eprintln ("error: " ++ e.kind)
    IO.eprint usageText
    return 2
  | .ok .version =>
    IO.println versionText
    return 0
  | .ok .configValidate => withConfig fun c path => do
    let (text, ok) := validateReport c path
    IO.print text
    return (if ok then 0 else 1)
  | .ok .configShow => withConfig fun c _ => do
    match showConfig c with
    | .ok text =>
      IO.print text
      return 0
    | .error m =>
      IO.eprintln ("Error: " ++ m)
      return 1
  | .ok (.start _) | .ok (.doctor _) =>
    IO.eprintln "Error: this command drives node processes, which this program does not run"
    return 1
