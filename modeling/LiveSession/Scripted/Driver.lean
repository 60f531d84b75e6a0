import LiveSession.Rpc.Message
import LiveSession.Supervisor.Child
/-!
# A scripted watch driver

A stand-in for the watch driver whose output is a script. After reading its configuration
line it plays the script's lines in order: `!config` prints a clean build whose one warning is
the configuration line it read, `!exit N` exits at once, `!hold` stops printing and keeps the
driver running until it is stopped, and any other line is printed as it is. After the last line
the driver exits.
-/

namespace LiveSession.Scripted

open LiveSession.Json LiveSession.Rpc LiveSession.Supervisor

/-- The clean build `!config` reports. -/
def configEcho (config : String) : String :=
  frameLine (Notification.new "compile/done"
    (some (.obj [("ok", .bool true), ("hash", .str "cfg"), ("warnings", .arr [.str config])]))).toJson

/-- What the driver prints after reading `config`, playing the script's lines. -/
def driverRun (config : String) : List String → Printed
  | [] => ⟨[], true⟩
  | l :: ls =>
    if l == "!hold" then ⟨[], false⟩
    else if l.startsWith "!exit" then ⟨[], true⟩
    else
      let rest := driverRun config ls
      ⟨(if l == "!config" then configEcho config else l) :: rest.lines, rest.exits⟩

end LiveSession.Scripted
