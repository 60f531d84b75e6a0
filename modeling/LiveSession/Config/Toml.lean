import LiveSession.Config.Basic
import LiveSession.Toml.Read
import LiveSession.Toml.Write
/-!
# Configuration files

A configuration is read from a TOML document and written back as one.

Reading takes each section from its table (or, positionally, from an array of its fields) and
each setting from its key; a missing section or setting takes its default and unknown keys are
ignored, as are positional fields past the last setting, whatever they hold. A setting of the
wrong type or a negative number where a count is wanted makes the document unreadable.

Writing gives every section its own table, in a fixed order, with the settings that are set;
the tables are separated by blank lines and an empty section is still written as its header.
-/

namespace LiveSession.Config

open LiveSession.Toml

/-- A count: a non-negative integer. -/
def readCount : Toml.Value → Option Nat
  | .int i => if 0 ≤ i then some i.toNat else none
  | _ => none

/-- A string. -/
def readString : Toml.Value → Option String
  | .str s => some s
  | _ => none

/-- A boolean. -/
def readBool : Toml.Value → Option Bool
  | .bool b => some b
  | _ => none

/-- The raw settings of a section by field name, from a table or positionally from an array
(elements past the last field are not looked at); `none` when the section has the wrong
shape. -/
def sectionFields (fields : List String) : Toml.Value → Option (List (Option Toml.Value))
  | .table kvs => some (fields.map fun f => List.lookup f kvs)
  | .arr items => some ((List.range fields.length).map fun i => items[i]?)
  | _ => none

/-- A setting read with a decoder, the default when absent; `none` when present and unreadable. -/
def setting (raw : List (Option Toml.Value)) (i : Nat) (read : Toml.Value → Option α) (d : α) :
    Option α :=
  match raw.getD i none with
  | some v => read v
  | none => some d

/-- An optional setting: absent is none. -/
def optSetting (raw : List (Option Toml.Value)) (i : Nat) (read : Toml.Value → Option α) :
    Option (Option α) :=
  match raw.getD i none with
  | some v => (read v).map some
  | none => some none

/-- Reads the build section. -/
def readBuild (v : Toml.Value) : Option Build := do
  let raw ← sectionFields ["node", "aggregate_timeout_ms", "hot_poll_ms", "poll_ms"] v
  return ⟨← setting raw 0 readString dNode, ← setting raw 1 readCount d300,
    ← setting raw 2 readCount d1000, ← optSetting raw 3 readCount⟩

/-- Reads the launch section. -/
def readLaunch (v : Toml.Value) : Option Launch := do
  let raw ← sectionFields ["handle_wait_ms", "request_timeout_ms", "shutdown_grace_ms"] v
  return ⟨← setting raw 0 readCount d10000, ← setting raw 1 readCount d30000,
    ← setting raw 2 readCount d5000⟩

/-- Reads the session section. -/
def readSession (v : Toml.Value) : Option SessionSettings := do
  let raw ← sectionFields ["prompt", "history", "echo_app_output"] v
  return ⟨← setting raw 0 readString dPrompt, ← setting raw 1 readBool dTrue,
    ← setting raw 2 readBool dTrue⟩

/-- Reads the paths section. -/
def readPaths (v : Toml.Value) : Option Paths := do
  let raw ← sectionFields ["assets_dir"] v
  return ⟨← optSetting raw 0 readString⟩

/-- Reads the logging section. -/
def readLogging (v : Toml.Value) : Option Logging := do
  let raw ← sectionFields ["file"] v
  return ⟨← optSetting raw 0 readString⟩

/-- A section read with its reader, the default when absent. -/
def section? (root : Toml.Value) (name : String) (read : Toml.Value → Option α) (d : α) :
    Option α :=
  match root.get? name with
  | some v => read v
  | none => some d

/-- Reads a configuration from a TOML document's root table. -/
def ofToml (root : Toml.Value) : Option Config := do
  match root with
  | .table _ => pure ()
  | _ => none
  return ⟨← section? root "build" readBuild {}, ← section? root "launch" readLaunch {},
    ← section? root "session" readSession {}, ← section? root "paths" readPaths {},
    ← section? root "logging" readLogging {}⟩

/-- Reads a configuration from TOML text. -/
def fromToml (text : String) : Option Config := (readDocument text).bind ofToml

/-- The largest integer a TOML document can hold, `2^63 - 1`. -/
def tomlIntMax : Nat := 9223372036854775807

/-- A `key = value` line for a count, if it fits a TOML integer. -/
def countLine (key : String) (n : Nat) : Except String String :=
  if n ≤ tomlIntMax then .ok (key ++ " = " ++ toString n ++ "\n")
  else .error "u64 out of range"

/-- A `key = value` line for a string. -/
def stringLine (key s : String) : String := key ++ " = " ++ stringRepr s ++ "\n"

/-- A `key = value` line for a boolean. -/
def boolLine (key : String) (b : Bool) : String :=
  key ++ " = " ++ (if b then "true" else "false") ++ "\n"

/-- Writes a configuration as a TOML document. -/
def toToml (c : Config) : Except String String := do
  let poll ← match c.build.pollMs with
    | some n => countLine "poll_ms" n
    | none => pure ""
  let build := "[build]\n" ++ stringLine "node" c.build.node ++
    (← countLine "aggregate_timeout_ms" c.build.aggregateTimeoutMs) ++
    (← countLine "hot_poll_ms" c.build.hotPollMs) ++ poll
  let launch := "[launch]\n" ++ (← countLine "handle_wait_ms" c.launch.handleWaitMs) ++
    (← countLine "request_timeout_ms" c.launch.requestTimeoutMs) ++
    (← countLine "shutdown_grace_ms" c.launch.shutdownGraceMs)
  let session := "[session]\n" ++ stringLine "prompt" c.session.prompt ++
    boolLine "history" c.session.history ++ boolLine "echo_app_output" c.session.echoAppOutput
  let paths := "[paths]\n" ++ ((c.paths.assetsDir.map (stringLine "assets_dir")).getD "")
  let logging := "[logging]\n" ++ ((c.logging.file.map (stringLine "file")).getD "")
  return "\n".intercalate [build, launch, session, paths, logging]

end LiveSession.Config
