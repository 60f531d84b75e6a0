import LiveSession.Config.Toml
import LiveSession.Files.Tree
/-!
# The configuration file

The command line reads its configuration from `nirvana.toml` in the working directory; a
missing file means the defaults. `validateReport` and `showConfig` are the two `config`
subcommands: the first prints each issue and a count line (or that all is well) and succeeds
when there is no error, the second prints the configuration as TOML.

The assets directory is the one given on the command line, else the configured one, else the
directory installed next to the program.
-/

namespace LiveSession.Cli

open LiveSession.Config LiveSession.Files

/-- The configuration file's name. -/
def configFileName : String := "nirvana.toml"

/-- The assets installed with the program. -/
def builtinAssetsDir : String := "$CLI_MANIFEST_DIR/../../assets"

/-- Loads the configuration of a working directory, with the path it was looked for at. -/
def loadConfig (t : Tree) (wd : String) : Except String (Config × String) :=
  let path := Path.join wd configFileName
  if !t.present path then .ok ({}, path)
  else match t.readText path with
    | .error e => .error ("reading " ++ path ++ ": " ++ e)
    | .ok raw => match fromToml raw with
      | some c => .ok (c, path)
      | none => .error ("parsing " ++ path)

/-- The assets directory: the flag, else the configured one, else the installed one. -/
def resolveAssetsDir (flag : Option String) (c : Config) : String :=
  match flag with
  | some d => d
  | none => c.paths.assetsDir.getD builtinAssetsDir

/-- What `config validate` prints, and whether the configuration has no error. -/
def validateReport (c : Config) (path : String) : String × Bool :=
  let issues := c.validate
  if issues.isEmpty then ("Config OK (" ++ path ++ ")\n", true)
  else
    let errors := (errorsOf issues).length
    let warnings := issues.length - errors
    (String.join (issues.map fun i => i.display ++ "\n") ++ "\n" ++ toString errors ++
      " error(s), " ++ toString warnings ++ " warning(s) in " ++ path ++ "\n", errors == 0)

/-- What `config show` prints. -/
def showConfig (c : Config) : Except String String :=
  match c.toToml with
  | .ok s => .ok s
  | .error e => .error ("failed to serialize config: config: " ++ e)

end LiveSession.Cli
