import LiveSession.Error
/-!
# Scaffolding errors

Errors of the two stages that prepare a project before it is compiled: the preflight checks
(working directory, framework packages, env file) and the synthesis of the bridge files. Both
become session errors of their own kind, carrying the displayed text.
-/

namespace LiveSession.Scaffold

/-- A failed preflight check. -/
inductive PreflightError where
  | missingDependencies (framework : String) (missing : List String)
  | envFileMissing (path : String)
  | envFileInvalid (path : String) (message : String)
  | workingDirectoryMissing (path : String)
  deriving DecidableEq, Repr

/-- A failed synthesis step. -/
inductive SynthesisError where
  | templateNotFound (path : String)
  | assetNotFound (path : String)
  | unknownVariable (name : String) (offset : Nat)
  | compositionRootMissing (path : String)
  | write (path : String) (reason : String)
  | read (path : String) (reason : String)
  deriving DecidableEq, Repr

namespace PreflightError

/-- The variant's name. -/
def variant : PreflightError → String
  | .missingDependencies .. => "MissingDependencies"
  | .envFileMissing .. => "EnvFileMissing"
  | .envFileInvalid .. => "EnvFileInvalid"
  | .workingDirectoryMissing .. => "WorkingDirectoryMissing"

/-- The error as shown. -/
def display : PreflightError → String
  | .missingDependencies fw missing =>
    "Missing required " ++ fw ++ " dependencies: " ++ ", ".intercalate missing ++
      ". Please run: npm install " ++ " ".intercalate missing
  | .envFileMissing p => "env file not found: " ++ p
  | .envFileInvalid p m => "failed to parse env file " ++ p ++ ": " ++ m
  | .workingDirectoryMissing p => "working directory not found: " ++ p

/-- The session error it becomes. -/
def toSession (e : PreflightError) : SessionError := .preflight e.display

end PreflightError

namespace SynthesisError

/-- The variant's name. -/
def variant : SynthesisError → String
  | .templateNotFound .. => "TemplateNotFound"
  | .assetNotFound .. => "AssetNotFound"
  | .unknownVariable .. => "UnknownVariable"
  | .compositionRootMissing .. => "CompositionRootMissing"
  | .write .. => "Write"
  | .read .. => "Read"

/-- The error as shown. -/
def display : SynthesisError → String
  | .templateNotFound p => "Template file not found: " ++ p
  | .assetNotFound p => "Bridge asset not found: " ++ p
  | .unknownVariable n o => "template references unknown variable `" ++ n ++ "` at byte " ++
      toString o
  | .compositionRootMissing p => "main module not found: " ++ p
  | .write p r => "cannot write " ++ p ++ ": " ++ r
  | .read p r => "cannot read " ++ p ++ ": " ++ r

/-- The session error it becomes. -/
def toSession (e : SynthesisError) : SessionError := .synthesis e.display

end SynthesisError

end LiveSession.Scaffold
