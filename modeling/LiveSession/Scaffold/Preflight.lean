import LiveSession.Files.Tree
import LiveSession.Context
import LiveSession.Scaffold.Error
/-!
# Preflight checks

Before anything is generated, the working directory must exist and the framework's packages
must be installed: a NestJS project needs `@nestjs/core` and `@nestjs/common` as directories
under `node_modules`; the other integrations need nothing.
-/

namespace LiveSession.Scaffold

open LiveSession.Files

/-- The directory packages are installed in. -/
def dependencyDir : String := "node_modules"

/-- The packages an integration needs. -/
def requiredPackages : Integration → List String
  | .nestJs => ["@nestjs/core", "@nestjs/common"]
  | _ => []

/-- How an integration's framework is named in messages. -/
def frameworkName : Integration → String
  | .nestJs => "NestJS"
  | .none => "runtime"
  | .other => "framework"

/-- The required packages that are not installed. -/
def missingPackages (t : Tree) (wd : String) (i : Integration) : List String :=
  let modules := Path.join wd dependencyDir
  (requiredPackages i).filter fun p => !t.isDir (Path.join modules p)

/-- Checks the working directory and the installed packages. -/
def validateDependencies (t : Tree) (wd : String) (i : Integration) : Except PreflightError Unit :=
  if !t.isDir wd then .error (.workingDirectoryMissing wd)
  else match missingPackages t wd i with
    | [] => .ok ()
    | missing => .error (.missingDependencies (frameworkName i) missing)

end LiveSession.Scaffold
