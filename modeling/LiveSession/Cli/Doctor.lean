import LiveSession.Config.Basic
import LiveSession.Scaffold.Synthesis
import LiveSession.Scaffold.Discover
import LiveSession.Scaffold.Preflight
import LiveSession.Compile.WatchConfig
/-!
# The doctor

`doctor` checks that a project and the installation are ready for a session and prints one line
per check, `[PASS]` or `[FAIL]` with the check's name and a detail:

1. the configuration file (always passing: a missing file means the defaults) and its
   validation, which fails on an error and lists every issue;
2. the node executable, which must answer `--version` successfully;
3. the installed assets: the bridge template, the helper scope, the type declarations (which
   may be missing) and the watch driver;
4. the project directory, and inside it the framework's packages, `tsconfig.json`, the first
   five main module candidates and the env files (the last three are informative only).

It ends with whether every check passed.
-/

namespace LiveSession.Cli

open LiveSession.Config LiveSession.Files LiveSession.Scaffold

/-- One check's line. -/
def checkLine (name : String) (passed : Bool) (detail : String) : String :=
  "  [" ++ (if passed then "PASS" else "FAIL") ++ "] " ++ name ++ ": " ++ detail ++ "\n"

/-- What the doctor printed and whether everything passed. -/
structure DoctorReport where
  text : String
  passed : Bool
  deriving DecidableEq, Repr

/-- Adds a check's line, failing the report when a check that counts did not pass. -/
def DoctorReport.check (r : DoctorReport) (name : String) (passed : Bool) (detail : String) :
    DoctorReport :=
  ⟨r.text ++ checkLine name passed detail, r.passed && passed⟩

/-- Adds a line of text. -/
def DoctorReport.say (r : DoctorReport) (line : String) : DoctorReport :=
  ⟨r.text ++ line ++ "\n", r.passed⟩

/-- The configuration checks. -/
def reportConfig (t : Tree) (c : Config) (path : String) (r : DoctorReport) : DoctorReport :=
  let r := r.check "Config file" true
    (if t.present path then path else path ++ " not found (using defaults)")
  let issues := c.validate
  let errors := (errorsOf issues).length
  let r := r.check "Config validation" (errors == 0)
    (if issues.isEmpty then "no issues"
     else toString issues.length ++ " issue(s) (" ++ toString errors ++ " error(s))")
  issues.foldl (fun r i => r.say ("      " ++ i.display)) r

/-- The node check, given what `node --version` printed when it ran and succeeded. -/
def reportNode (node : String) (version : Option String) (r : DoctorReport) : DoctorReport :=
  match version with
  | some v => r.check "Node.js available" true (node ++ " " ++ Text.trim v)
  | none => r.check "Node.js available" false ("`" ++ node ++ "` not found on PATH")

/-- The installed assets, with whether each is required. -/
def doctorAssets : List (String × String × Bool) :=
  [("Bridge template", templateAsset, true), ("Bridge helpers", scopeAsset, true),
   ("Type declarations", typeDeclAsset, false), ("Watch driver", Compile.watchDriver, true)]

/-- The asset checks. -/
def reportAssets (t : Tree) (assets : String) (r : DoctorReport) : DoctorReport :=
  doctorAssets.foldl (fun r (name, rel, required) =>
    let path := Path.join assets rel
    let exists_ := t.isFile path
    let detail := if exists_ then path
      else if required then path ++ " (missing)"
      else path ++ " (missing, will be skipped)"
    r.check name (exists_ || !required) detail) r

/-- The project checks. -/
def reportProject (t : Tree) (wd : String) (r : DoctorReport) : DoctorReport :=
  if !t.isDir wd then r.check "Project directory" false (wd ++ " (does not exist)")
  else
    let r := r.check "Project directory" true wd
    let missing := missingPackages t wd .nestJs
    let r := r.check "NestJS dependencies" missing.isEmpty
      (if missing.isEmpty then ", ".intercalate (requiredPackages .nestJs)
       else "missing " ++ ", ".intercalate missing ++ " (run: npm install " ++
         " ".intercalate missing ++ ")")
    let r := r.check "tsconfig.json" true
      (if t.isFile (Path.join wd "tsconfig.json") then "present"
       else "absent (include-list will not be patched)")
    let candidates := ((candidateModules t wd).filter (·.endsWith ".module.ts")).take 5
    let r := r.check "Main module candidates" true
      (if candidates.isEmpty then "none found (pass --main-module)" else ", ".intercalate candidates)
    let envs := envFiles t wd
    if envs.isEmpty then r else r.check "Env files" true (", ".intercalate envs)

/-- Runs every check. `nodeVersion` is what `node --version` printed, when it ran and
succeeded. -/
def doctor (t : Tree) (c : Config) (configPath wd assets : String)
    (nodeVersion : Option String) : DoctorReport :=
  let r : DoctorReport := ⟨"nirvana doctor\n==============\n\n", true⟩
  let r := reportConfig t c configPath r
  let r := reportNode c.build.node nodeVersion r
  let r := reportAssets t assets r
  let r := reportProject t wd r
  let r := r.say ""
  r.say (if r.passed then "All checks passed." else "Some checks failed. Review the output above.")

end LiveSession.Cli
