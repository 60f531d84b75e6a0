import LiveSession.Path
import LiveSession.Text.Blank
/-!
# Session context

What a session runs on: the project's working directory, the framework integration, the
project's main module (its composition root), an optional env file and the directory of
installed assets. Relative main-module and env-file paths are resolved against the working
directory.

The session writes its generated files into the scratch directory `.nirvana` of the working
directory: the bridge source `hmrEntry.ts`, the helper scope `bridgeScope.js`, the type
declarations `nestjsTypeDef.d.ts` and, once built, the bundle `hmrEntryBundle.js`.
-/

namespace LiveSession

/-- The scratch directory's name. -/
def scratchDirName : String := ".nirvana"

/-- The generated bridge source. -/
def bridgeSourceFile : String := "hmrEntry.ts"

/-- The helper scope copied next to the bridge source. -/
def bridgeScopeFile : String := "bridgeScope.js"

/-- The type declarations copied next to the bridge source. -/
def typeDeclFile : String := "nestjsTypeDef.d.ts"

/-- The bundle the watch compiler writes. -/
def artifactFile : String := "hmrEntryBundle.js"

/-- The framework integration of a project. -/
inductive Integration where
  | nestJs
  | none
  | other
  deriving DecidableEq, Repr, Inhabited

namespace Integration

/-- The integration's name. -/
def label : Integration → String
  | .nestJs => "nestjs"
  | .none => "none"
  | .other => "other"

/-- Whether the integration needs a main module. -/
def requiresCompositionRoot : Integration → Bool
  | .nestJs => true
  | _ => false

/-- Whether sessions can run with this integration. -/
def isSupported : Integration → Bool
  | .nestJs => true
  | _ => false

/-- Reads an integration name: trimmed, ASCII case ignored, `nest` standing for `nestjs`. -/
def parse (s : String) : Except String Integration :=
  let key := Text.asciiLower (Text.trim s)
  if key == "nestjs" || key == "nest" then .ok .nestJs
  else if key == "none" then .ok .none
  else if key == "other" then .ok .other
  else .error ("unknown integration `" ++ key ++ "` (expected nestjs, none or other)")

end Integration

/-- Where the session's generated files go, under a working directory. -/
structure ScratchLayout where
  dir : String
  deriving DecidableEq, Repr

namespace ScratchLayout

/-- The layout of a working directory. -/
def ofWorkingDirectory (wd : String) : ScratchLayout := ⟨Path.join wd scratchDirName⟩

/-- The generated bridge source. -/
def bridgeSource (l : ScratchLayout) : String := Path.join l.dir bridgeSourceFile

/-- The copied helper scope. -/
def bridgeScope (l : ScratchLayout) : String := Path.join l.dir bridgeScopeFile

/-- The copied type declarations. -/
def typeDecl (l : ScratchLayout) : String := Path.join l.dir typeDeclFile

end ScratchLayout

/-- A validated session context. -/
structure Context where
  workingDirectory : String
  integration : Integration
  compositionRoot : Option String
  envFile : Option String
  assetsDir : String
  deriving DecidableEq, Repr

namespace Context

/-- Checks and builds a context: the working directory must be non-empty, and a main module is
given exactly when the integration needs one. -/
def make (wd : String) (integration : Integration) (root envFile : Option String)
    (assets : String) : Except String Context :=
  if wd.isEmpty then .error "working directory must not be empty"
  else match integration.requiresCompositionRoot, root with
    | true, Option.none =>
      .error ("the " ++ integration.label ++ " integration requires a main module path")
    | false, some p =>
      .error ("the " ++ integration.label ++ " integration does not take a main module (got " ++
        p ++ ")")
    | _, _ => .ok ⟨wd, integration, root.map (Path.resolve wd), envFile.map (Path.resolve wd),
        assets⟩

/-- The scratch layout of the context's working directory. -/
def layout (c : Context) : ScratchLayout := .ofWorkingDirectory c.workingDirectory

end Context

end LiveSession
