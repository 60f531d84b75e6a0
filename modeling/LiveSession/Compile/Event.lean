import LiveSession.Rpc.Message
/-!
# Compile events

The watch compiler reports each build as a notification. `compile/done` carries `ok`, an
optional `hash`, and lists of `errors` and `warnings`: a build that is `ok` with no errors
succeeded, any other is a build with diagnostics, and params that do not decode are a fatal
event naming the decoding error. `compile/fatal` carries an optional `message`, with
`unknown compiler failure` standing in when it is absent or unreadable. Every other method is
no compile event at all.
-/

namespace LiveSession.Compile

open LiveSession.Json LiveSession.Rpc

/-- The outcome of one compilation. -/
inductive Event where
  /-- The compiler cannot continue. -/
  | fatal (message : String)
  /-- Output was produced but the build reported errors. -/
  | diagnostics (errors : List String) (warnings : List String)
  /-- A clean build. -/
  | succeeded (hash : Option String) (warnings : List String)
  deriving DecidableEq

/-- The params of `compile/done`. -/
structure Done where
  ok : Bool
  hash : Option String
  errors : List String
  warnings : List String

/-- Decodes the params of `compile/done`. -/
def Done.decode : Decoder Done := fun v => do
  let raw ← readRecord "CompileDone"
    [.of "ok" Decoder.bool .required, .of "hash" (Decoder.option Decoder.string) .defaulted,
     .of "errors" (Decoder.list Decoder.string) .defaulted,
     .of "warnings" (Decoder.list Decoder.string) .defaulted] v
  return ⟨member raw 0 Decoder.bool false, member raw 1 (Decoder.option Decoder.string) none,
    member raw 2 (Decoder.list Decoder.string) [], member raw 3 (Decoder.list Decoder.string) []⟩

/-- Decodes the optional message of `compile/fatal`. -/
def fatalMessage : Decoder (Option String) := fun v => do
  let raw ← readRecord "CompileFatal" [.of "message" (Decoder.option Decoder.string) .defaulted] v
  return member raw 0 (Decoder.option Decoder.string) none

/-- The compile event a notification stands for, if any. -/
def Event.ofNotification (n : Notification) : Option Event :=
  if n.method == "compile/done" then
    match n.paramsAs Done.decode with
    | .ok d => if d.ok && d.errors.isEmpty then some (.succeeded d.hash d.warnings)
        else some (.diagnostics d.errors d.warnings)
    | .error e => some (.fatal ("watch driver sent an unreadable compile result: " ++ e.text))
  else if n.method == "compile/fatal" then
    match n.paramsAs fatalMessage with
    | .ok (some m) => some (.fatal m)
    | _ => some (.fatal "unknown compiler failure")
  else none

/-- The JSON form of an event. -/
def Event.toJson : Event → Value
  | .fatal m => .obj [("type", .str "fatal"), ("message", .str m)]
  | .diagnostics es ws => .obj [("type", .str "diagnostics"), ("errors", Value.strs es),
      ("warnings", Value.strs ws)]
  | .succeeded h ws => .obj [("type", .str "succeeded"), ("hash", Value.optStr h),
      ("warnings", Value.strs ws)]

end LiveSession.Compile
