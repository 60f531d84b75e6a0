/-!
# Session errors

The error a session reports to its user, sorted by the stage that failed. Each kind has a short
label, and the displayed text prefixes the message for the kinds whose message alone would not
say what failed.
-/

namespace LiveSession

/-- A session error: its kind and message. -/
inductive SessionError where
  | preflight (message : String)
  | synthesis (message : String)
  | compileFatal (message : String)
  | launch (message : String)
  | unsupported (message : String)
  | context (message : String)
  | config (message : String)
  | other (message : String)
  deriving DecidableEq, Repr

namespace SessionError

/-- The label of the error's kind. -/
def kind : SessionError → String
  | .preflight _ => "preflight"
  | .synthesis _ => "synthesis"
  | .compileFatal _ => "compile_fatal"
  | .launch _ => "launch"
  | .unsupported _ => "unsupported"
  | .context _ => "context"
  | .config _ => "config"
  | .other _ => "other"

/-- The error as shown. -/
def display : SessionError → String
  | .preflight m => m
  | .synthesis m => m
  | .compileFatal m => "compilation failed: " ++ m
  | .launch m => m
  | .unsupported m => "unsupported: " ++ m
  | .context m => "session context: " ++ m
  | .config m => "config: " ++ m
  | .other m => m

/-- Builds an error from its kind label; unknown labels are `other`. -/
def ofKind (kind message : String) : SessionError :=
  if kind == "Preflight" then .preflight message
  else if kind == "Synthesis" then .synthesis message
  else if kind == "CompileFatal" then .compileFatal message
  else if kind == "Launch" then .launch message
  else if kind == "Unsupported" then .unsupported message
  else if kind == "Context" then .context message
  else if kind == "Config" then .config message
  else .other message

end SessionError

end LiveSession
