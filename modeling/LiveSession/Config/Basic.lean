import LiveSession.Text.Blank
/-!
# Configuration

The settings of a session, in five sections: how to build (the node executable, the watch
timings), how to launch (how long to wait for the application, for a request, for shutdown),
the session itself (prompt, history, whether to echo the application's output), where the
assets are, and where to log. Every setting has a default, so an empty configuration is a
complete one.

`validate` checks the settings that cannot work and warns about the ones that may surprise,
always in the same order.

A setting has its default twice: a section that is missing takes the section's default, and a
section that is there without the setting's key takes the setting's own default function (`dNode`,
`d300` and so on). The section defaults are the records' field defaults, which name some of those
functions and write the other numbers again.
-/

namespace LiveSession.Config

/-- The node executable a build section without the key runs. -/
def dNode : String := "node"

/-- 300 ms, the debounce window a build section without the key waits. -/
def d300 : Nat := 300

/-- 1000 ms, the hot update poll a build section without the key uses. -/
def d1000 : Nat := 1000

/-- 10 s, the wait for the application a launch section without the key allows. -/
def d10000 : Nat := 10000

/-- 30 s, the request timeout a launch section without the key allows. -/
def d30000 : Nat := 30000

/-- 5 s, the shutdown grace a launch section without the key allows. -/
def d5000 : Nat := 5000

/-- The prompt a session section without the key shows. -/
def dPrompt : String := "NestJS (HMR) > "

/-- A session switch that is on when its key is missing. -/
def dTrue : Bool := true

/-- How to build. -/
structure Build where
  node : String := dNode
  aggregateTimeoutMs : Nat := 300
  hotPollMs : Nat := 1000
  pollMs : Option Nat := none
  deriving DecidableEq, Repr

/-- How to launch. -/
structure Launch where
  handleWaitMs : Nat := 10000
  requestTimeoutMs : Nat := 30000
  shutdownGraceMs : Nat := 5000
  deriving DecidableEq, Repr

/-- The session itself. -/
structure SessionSettings where
  prompt : String := dPrompt
  history : Bool := true
  echoAppOutput : Bool := true
  deriving DecidableEq, Repr

/-- Where the assets are. -/
structure Paths where
  assetsDir : Option String := none
  deriving DecidableEq, Repr

/-- Where to log. -/
structure Logging where
  file : Option String := none
  deriving DecidableEq, Repr

end LiveSession.Config

namespace LiveSession

/-- A whole configuration. -/
structure Config where
  build : Config.Build := {}
  launch : Config.Launch := {}
  session : Config.SessionSettings := {}
  paths : Config.Paths := {}
  logging : Config.Logging := {}
  deriving DecidableEq, Repr

end LiveSession

namespace LiveSession.Config

/-- How serious an issue is. -/
inductive Severity where
  | error
  | warning
  deriving DecidableEq, Repr

/-- A problem found in a configuration: its severity, the field and what is wrong. -/
structure Issue where
  severity : Severity
  field : String
  message : String
  deriving DecidableEq, Repr

/-- The severity's name. -/
def Severity.label : Severity → String
  | .error => "error"
  | .warning => "warning"

/-- The issue as shown: `[ERROR] field: message` or `[WARN] field: message`. -/
def Issue.display (i : Issue) : String :=
  let tag := match i.severity with
    | .error => "ERROR"
    | .warning => "WARN"
  "[" ++ tag ++ "] " ++ i.field ++ ": " ++ i.message

/-- An issue when the condition holds. -/
def issueIf (cond : Bool) (sev : Severity) (field message : String) : List Issue :=
  if cond then [⟨sev, field, message⟩] else []

/-- The problems of a configuration, in a fixed order. -/
def validate (c : Config) : List Issue :=
  issueIf (Text.isBlankText c.build.node) .error "build.node"
      "node executable must not be empty" ++
  issueIf (c.build.hotPollMs == 0) .error "build.hot_poll_ms" "must be greater than 0" ++
  issueIf (c.build.pollMs == some 0) .error "build.poll_ms" "must be greater than 0 when set" ++
  issueIf (c.build.aggregateTimeoutMs == 0) .warning "build.aggregate_timeout_ms"
      "0 disables save coalescing; every write triggers a rebuild" ++
  issueIf (c.launch.handleWaitMs == 0) .error "launch.handle_wait_ms" "must be greater than 0" ++
  issueIf (c.launch.requestTimeoutMs == 0) .error "launch.request_timeout_ms"
      "must be greater than 0" ++
  issueIf c.session.prompt.isEmpty .warning "session.prompt" "empty prompt" ++
  issueIf (c.paths.assetsDir == some "") .error "paths.assets_dir" "must not be empty when set"

/-- The issues that are errors. -/
def errorsOf (issues : List Issue) : List Issue := issues.filter (·.severity == .error)

end LiveSession.Config
