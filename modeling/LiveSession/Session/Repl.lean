import LiveSession.Json.Print
import LiveSession.Text.Blank
import LiveSession.Session.Console
/-!
# Session commands

`execute` answers one line typed into a session. A line that does not start with `.` is code,
evaluated in the application. Otherwise the line is a command: the text up to the first blank
names it and the trimmed rest, when non-empty, is its argument.

Values are shown as they are when they are strings and as pretty JSON otherwise. The `.app`
summary shows when the application was loaded, read off a clock the session is given: the local
time of day each published application was loaded at.
-/

namespace LiveSession.Session

open LiveSession.Json

/-- The answer to one line. -/
inductive Reply where
  | exit
  | clear
  | text (s : String)
  | error (s : String)
  deriving DecidableEq, Repr

/-- The command list shown by `.help`. -/
def helpText : String :=
  "Commands:\n" ++
  "  .app            Show the running application\n" ++
  "  .status         Show the session status\n" ++
  "  .tokens         List resolvable container tokens\n" ++
  "  .get <token>    Resolve a provider (null when unknown)\n" ++
  "  .try <token>    Resolve a provider, reporting why it failed\n" ++
  "  .clear          Clear the screen\n" ++
  "  .exit           Leave the session\n" ++
  "  .help           Show this help\n" ++
  "Anything else is evaluated in the application with app, get, tryGet and tokens in scope."

/-- A value as shown: a string as it is, anything else as pretty JSON. -/
def showValue : Value → String
  | .str s => s
  | v => v.pretty

/-- A local time of day. -/
structure TimeOfDay where
  hour : Fin 24
  minute : Fin 60
  second : Fin 60
  deriving DecidableEq, Repr

/-- A number below a hundred as two digits, a leading zero below ten. -/
def twoDigits (n : Nat) : String := if n < 10 then "0" ++ toString n else toString n

/-- The time as `%H:%M:%S` shows it. -/
def TimeOfDay.text (t : TimeOfDay) : String :=
  twoDigits t.hour ++ ":" ++ twoDigits t.minute ++ ":" ++ twoDigits t.second

/-- Splits a command line at its first blank into the command and its argument, if any. -/
def splitCommand (line : String) : String × Option String :=
  let cs := line.toList
  let cmd := cs.takeWhile (!Text.isBlank ·)
  let rest := cs.drop (cmd.length + 1)
  let arg := Text.trim (String.ofList rest)
  (String.ofList cmd, if cmd.length < cs.length && !arg.isEmpty then some arg else none)

variable {m : Type → Type} [Monad m] {h : Type}

/-- The `.app` summary, with the time `loadedAt` gives the application. -/
def appSummary (loadedAt : LiveApp h → TimeOfDay) (s : Console m h) : m Reply := do
  match ← s.app with
  | none => pure (.error "application is not running")
  | some app =>
    let st ← s.status
    let line := app.module ++ " (generation " ++ toString app.generation ++ ", loaded " ++
      (loadedAt app).text ++ ", " ++ st.label ++ ")"
    match ← s.describe with
    | .ok v => pure (.text (if v.isNull then line else line ++ "\n" ++ showValue v))
    | .error _ => pure (.text line)

/-- Answers one line, reading load times off `loadedAt`. -/
def execute (loadedAt : LiveApp h → TimeOfDay) (s : Console m h) (line : String) : m Reply := do
  if !line.startsWith "." then
    match ← s.eval line with
    | .ok v => return .text (showValue v)
    | .error e => return .error e.display
  let (cmd, arg) := splitCommand line
  if cmd == ".exit" || cmd == ".quit" then return .exit
  if cmd == ".help" then return .text helpText
  if cmd == ".clear" then return .clear
  if cmd == ".status" then return .text (← s.status).label
  if cmd == ".app" then return ← appSummary loadedAt s
  if cmd == ".tokens" then return .text (showValue (← s.tokens))
  if cmd == ".get" || cmd == ".try" then
    match arg with
    | some t =>
      if cmd == ".get" then return .text (showValue (← s.get t))
      else return .text (showValue (← s.tryGet t))
    | none => return .error ("usage: " ++ cmd ++ " <token>")
  return .error ("unknown command: " ++ cmd ++ " (type .help for a list)")

end LiveSession.Session
