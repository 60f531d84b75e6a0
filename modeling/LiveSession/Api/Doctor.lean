import LiveSession.Api.Scaffold
import LiveSession.Cli.Doctor
/-!
# Doctor requests

`doctor` runs the checks on a project at `$ROOT/project` with the assets at `$ROOT/assets` and
the configuration file at `$ROOT/nirvana.toml`. A fake node executable at `$ROOT/bin/node`
stands in for the configured one when the request gives its version text and exit code.
-/

namespace LiveSession.Api

open LiveSession.Json LiveSession.Config LiveSession.Files LiveSession.Cli

/-- `doctor`: runs the checks and answers with what they printed. -/
def doctorOp (req : Value) : Answer := do
  let configPath := Path.join rootDir configFileName
  let (c, t) ← match req.get? "config" with
    | some (.str text) => match fromToml text with
      | some c =>
        let t := Tree.empty.put rootDir .dir
        let t := if boolOr req "config_file" true then t.put configPath (.file text.toUTF8.toList)
          else t
        pure (c, t)
      | none => throw configError
    | _ => pure (({} : Config), Tree.empty.put rootDir .dir)
  let t := if boolOr req "project_exists" true then
      plant t projectDir ((req.get? "project").getD (.obj []))
    else t
  let t := plant t assetsDir ((req.get? "assets").getD (.obj []))
  let (c, version) := match req.get? "fake_node" with
    | some fake =>
      let node := Path.join rootDir "bin/node"
      ({ c with build := { c.build with node := node } },
        if natOr fake "code" 0 == 0 then some (strOr fake "version" "") else none)
    | none => (c, none)
  let r := doctor t c configPath projectDir assetsDir version
  .ok (obj [("passed", .bool r.passed), ("stdout", .str r.text)])

end LiveSession.Api
