import LiveSession.Api.Basic
import LiveSession.Api.Config
import LiveSession.Scaffold.Synthesis
import LiveSession.Scaffold.Discover
import LiveSession.Scaffold.Preflight
import LiveSession.Scaffold.EnvFile
import LiveSession.Scaffold.Patch
/-!
# Scaffolding requests

`preflight`, `discover` and `synthesize` run on a file tree built from the request under the
working root: the project at `$ROOT/project` and the assets at `$ROOT/assets` for synthesis,
the root itself for the others.
-/

namespace LiveSession.Api

open LiveSession.Json LiveSession.Files LiveSession.Scaffold

/-- The project directory of requests that have one. -/
def projectDir : String := Path.join rootDir "project"

/-- The assets directory of requests that have one. -/
def assetsDir : String := Path.join rootDir "assets"

/-- The integration a request names, `nestjs` by default. -/
def integrationOf (req : Value) : Except Value Integration :=
  match Integration.parse (strOr req "integration" "nestjs") with
  | .ok i => .ok i
  | .error m => .error (errorWith "parse" m)

/-- `preflight`: checks a working directory's packages. -/
def preflightOp (req : Value) : Answer := do
  let i ← integrationOf req
  let t := plant Tree.empty rootDir ((req.get? "files").getD (.obj []))
  let (t, wd) :=
    if !boolOr req "exists" true then (t, Path.join rootDir "absent")
    else if boolOr req "wd_is_file" false then
      (t.put (Path.join rootDir "wdfile") (.file []), Path.join rootDir "wdfile")
    else (t, rootDir)
  let result := match validateDependencies t wd i with
    | .ok () => Value.str "ok"
    | .error e => preflightJson e
  .ok (obj [("required", Value.strs (requiredPackages i)),
    ("missing", Value.strs (missingPackages t wd i)), ("result", result)])

/-- `discover`: lists the candidate modules and env files. -/
def discoverOp (req : Value) : Answer := do
  let t := plant Tree.empty rootDir ((req.get? "files").getD (.obj []))
  .ok (obj [("modules", Value.strs (candidateModules t rootDir)),
    ("env_files", Value.strs (envFiles t rootDir))])

/-- The project and assets trees of a request. -/
def projectTree (req : Value) : Tree :=
  let t := Tree.empty.put rootDir .dir
  let t := plant t projectDir ((req.get? "project").getD (.obj []))
  plant t assetsDir ((req.get? "assets").getD (.obj []))

/-- A synthesis report in answer form. -/
def reportJson (r : Report) : Value :=
  obj [("bridge_source", .str r.bridgeSource), ("bridge_scope", .str r.bridgeScope),
    ("type_decl", Value.optStr r.typeDecl), ("symbol", .str r.symbol),
    ("import_path", .str r.importPath)]

/-- Runs synthesis `n` times, collecting the results. -/
def synthesizeRounds (ctx : Context) : Nat → Tree → List Value → Tree × List Value
  | 0, t, acc => (t, acc.reverse)
  | n + 1, t, acc =>
    let (t, r) := synthesize t ctx
    let v := match r with
      | .ok rep => reportJson rep
      | .error e => synthesisJson e
    synthesizeRounds ctx n t (v :: acc)

/-- `synthesize`: writes the bridge files, one or more times. -/
def synthesizeOp (req : Value) : Answer := do
  let i ← integrationOf req
  let ctx ← match Context.make projectDir i (optStr req "composition_root") none assetsDir with
    | .ok c => pure c
    | .error m => throw (contextError m)
  let rounds := max 1 (min 3 (natOr req "rounds" 1))
  let (t, results) := synthesizeRounds ctx rounds (projectTree req) []
  .ok (obj [("results", .arr results), ("scratch", listing t ctx.layout.dir)])

/-- `env`: reads an env file written under the root, or none when no path is given. -/
def envOp (req : Value) : Answer :=
  let path := Path.join rootDir (strOr req "name" ".env")
  let t := Tree.empty.put rootDir .dir
  let t := match req.get? "content" with
    | none | some .null => t
    | some v => t.put path (nodeOf v)
  let given := if boolOr req "path_given" true then some path else none
  match loadOptionalEnvFile t given with
  | .ok pairs => .ok (.arr (pairs.map fun (k, v) => .arr [.str k, .str v]))
  | .error e => .error (preflightJson e)

/-- A patch result in answer form: the outcome's name or the warning. -/
def patchResultJson : PatchResult → Value
  | .ok o => .str o.label
  | .error w => obj [("warning", .str w.message), ("file", .str w.file), ("display", .str w.display)]

/-- Which files a `patch` request patches. -/
inductive PatchTarget where
  | project
  | tsconfig
  | gitignore

/-- Runs `rounds` patches of the target, each answered with the outcomes and both files after. -/
def patchRounds (target : PatchTarget) : Nat → Tree → List Value → List Value
  | 0, _, acc => acc.reverse
  | n + 1, t, acc =>
    let ts := Path.join rootDir tsconfigFile
    let gi := Path.join rootDir gitignoreFile
    let (t, fields) := match target with
      | .project =>
        let (t, r) := patchProject t rootDir
        (t, [("tsconfig", patchResultJson r.tsconfig), ("gitignore", patchResultJson r.gitignore),
          ("warnings", Value.nat r.warnings.length)])
      | .tsconfig => let (t, r) := patchTsconfig t ts; (t, [("tsconfig", patchResultJson r)])
      | .gitignore => let (t, r) := patchGitignore t gi; (t, [("gitignore", patchResultJson r)])
    let round := obj (fields ++ [("tsconfig_after", fileJson t ts), ("gitignore_after", fileJson t gi)])
    patchRounds target n t (round :: acc)

/-- `patch`: patches the compiler configuration and the ignore file written under the root. -/
def patchOp (req : Value) : Answer := do
  let target ← match strOr req "which" "project" with
    | "project" => pure PatchTarget.project
    | "tsconfig" => pure .tsconfig
    | "gitignore" => pure .gitignore
    | w => throw (badInput ("unknown patch target `" ++ w ++ "`"))
  let plantFile (t : Tree) (f name : String) : Tree := match req.get? f with
    | none | some .null => t
    | some v => t.put (Path.join rootDir name) (nodeOf v)
  let t := Tree.empty.put rootDir .dir
  let t := plantFile (plantFile t "tsconfig" tsconfigFile) "gitignore" gitignoreFile
  let rounds := max 1 (min 5 (natOr req "rounds" 1))
  .ok (obj [("scratch_include", .str scratchInclude),
    ("rounds", .arr (patchRounds target rounds t []))])

end LiveSession.Api
