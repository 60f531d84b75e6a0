import LiveSession.Context
/-!
# The command line

`nirvana` takes one of the subcommands `start`, `doctor`, `config validate`, `config show` and
`version`. `start` takes `--dir`, `--integration` (default `nestjs`), `--main-module`,
`--env-file`, `--assets` and `-v`/`--verbose`; `doctor` takes `--dir`.

Arguments are read left to right and the first problem stops the reading: an unknown flag or a
stray word, an option given twice, an option without a value or with an empty path, an
integration that is not one of the known names, or a request for help or for the version.
A value may follow its option as the next argument or after `=`; the next argument is not a
value when it looks like a flag. A value after `=` is checked at once, a value given as the
next argument only when the argument after it is read, so a stray word or an unknown flag there
is reported first. With no arguments at all, or with `config` alone, the help is shown.
-/

namespace LiveSession.Cli

/-- Why reading the command line stopped before a command. -/
inductive ParseStop where
  | displayHelp
  | displayVersion
  | displayHelpOnMissingArgumentOrSubcommand
  | invalidSubcommand
  | unknownArgument
  | argumentConflict
  | invalidValue
  | valueValidation
  | tooManyValues
  deriving DecidableEq, Repr

/-- The kind's name. -/
def ParseStop.kind : ParseStop → String
  | .displayHelp => "DisplayHelp"
  | .displayVersion => "DisplayVersion"
  | .displayHelpOnMissingArgumentOrSubcommand => "DisplayHelpOnMissingArgumentOrSubcommand"
  | .invalidSubcommand => "InvalidSubcommand"
  | .unknownArgument => "UnknownArgument"
  | .argumentConflict => "ArgumentConflict"
  | .invalidValue => "InvalidValue"
  | .valueValidation => "ValueValidation"
  | .tooManyValues => "TooManyValues"

/-- The flags of `start`. -/
structure StartArgs where
  dir : Option String := none
  integration : Integration := .nestJs
  mainModule : Option String := none
  envFile : Option String := none
  assets : Option String := none
  verbose : Bool := false
  deriving DecidableEq, Repr

/-- The main module assumed when none is given. -/
def defaultMainModule : String := "src/app.module.ts"

/-- The main module to hand over: the flag, else the conventional one when the integration
needs one. -/
def StartArgs.resolvedMainModule (a : StartArgs) : Option String :=
  match a.mainModule with
  | some p => some p
  | none => if a.integration.requiresCompositionRoot then some defaultMainModule else none

/-- The working directory when it does not depend on the current one: the absolute `--dir`. -/
def StartArgs.absoluteDir (a : StartArgs) : Option String :=
  a.dir.filter Path.isAbsolute

/-- A command the line names. -/
inductive Command where
  | start (args : StartArgs)
  | doctor (dir : Option String)
  | configValidate
  | configShow
  | version
  deriving DecidableEq, Repr

/-- A flag of a subcommand: its long name, its short letter, and, for an option, how its value
is checked. -/
structure Flag where
  long : String
  short : Option Char
  check : Option (String → Option ParseStop)

/-- A path value: any string but the empty one. -/
def pathValue (v : String) : Option ParseStop := if v.isEmpty then some .invalidValue else none

/-- An integration value: one of the known names. -/
def integrationValue (v : String) : Option ParseStop :=
  match Integration.parse v with
  | .ok _ => none
  | .error _ => some .valueValidation

/-- The flags of `start`. -/
def startFlags : List Flag :=
  [⟨"dir", none, some pathValue⟩, ⟨"integration", none, some integrationValue⟩,
   ⟨"main-module", none, some pathValue⟩, ⟨"env-file", none, some pathValue⟩,
   ⟨"assets", none, some pathValue⟩, ⟨"verbose", some 'v', none⟩]

/-- The flags of `doctor`. -/
def doctorFlags : List Flag := [⟨"dir", none, some pathValue⟩]

/-- Whether an argument reads as a flag rather than a value. -/
def looksLikeFlag (a : String) : Bool := a.startsWith "-" && a != "-"

/-- What stops the reading when a flag-like argument `a` comes where an option still waits for
its value: an unknown flag is reported as such, a flag without values given one as surplus, and
any other flag leaves the waiting option without a value. -/
def pendingStop (flags : List Flag) (a : String) : ParseStop :=
  if a.startsWith "--" then
    let body := a.toList.drop 2
    let name := String.ofList (body.takeWhile (· != '='))
    let takesNoValue := name == "help" || flags.any (fun f => f.long == name && f.check.isNone)
    if name != "help" && !flags.any (·.long == name) then .unknownArgument
    else if takesNoValue && body.contains '=' then .tooManyValues
    else .invalidValue
  else match a.toList.drop 1 with
    | c :: _ => if c == 'h' || flags.any (·.short == some c) then .invalidValue else .unknownArgument
    | [] => .unknownArgument

/-- Records one occurrence of a flag, refusing a second one and a value that does not check. -/
def record (f : Flag) (v : String) (seen : List (String × String)) :
    Except ParseStop (List (String × String)) :=
  if (seen.lookup f.long).isSome then .error .argumentConflict
  else match f.check.bind (· v) with
    | some e => .error e
    | none => .ok (seen ++ [(f.long, v)])

/-- Settles the option whose value was given as a separate argument, if there is one: records
it, or reports what is wrong with it. -/
def settle (pending : Option (Flag × String)) (seen : List (String × String)) :
    Except ParseStop (List (String × String)) :=
  match pending with
  | some (f, v) => record f v seen
  | none => .ok seen

/-- Reads a cluster of short flags such as `-vh`. -/
def readShorts (flags : List Flag) (seen : List (String × String)) :
    List Char → Except ParseStop (List (String × String))
  | [] => .ok seen
  | c :: cs =>
    if c == 'h' then .error .displayHelp
    else match flags.find? (·.short == some c) with
      | some f => do
        let seen ← record f "" seen
        readShorts flags seen cs
      | none => .error .unknownArgument

/-- Reads the flags of a subcommand, in order, into the flags seen and their values.

An option's value given as the next argument is `pending` until the argument after it is taken
up: a known flag, or the end of the arguments, settles it first, so a problem with it (a
repeated option, an empty path, an unknown integration) is reported then; an unknown flag, a
stray word, or a flag given a value it does not take is reported instead, and the pending
value is not looked at. An argument after `--` can still be the value an option waits for;
any other argument after `--` is a stray word. -/
def readFlags (flags : List Flag) (seen : List (String × String))
    (pending : Option (Flag × String)) : List String → Except ParseStop (List (String × String))
  | [] => settle pending seen
  | a :: rest =>
    if a == "--" then if rest.isEmpty then settle pending seen else .error .unknownArgument
    else if a.startsWith "--" then
      let body := a.toList.drop 2
      let name := String.ofList (body.takeWhile (· != '='))
      let attached : Option String :=
        if body.contains '=' then some (String.ofList ((body.dropWhile (· != '=')).drop 1))
        else none
      if name == "help" then
        if attached.isSome then .error .tooManyValues
        else do
          let _ ← settle pending seen
          .error .displayHelp
      else match flags.find? (·.long == name) with
        | none => .error .unknownArgument
        | some f =>
          match f.check, attached with
          | none, some _ => .error .tooManyValues
          | none, none => do
            let seen ← settle pending seen
            let seen ← record f "" seen
            readFlags flags seen none rest
          | some _, some v => do
            let seen ← settle pending seen
            let seen ← record f v seen
            readFlags flags seen none rest
          | some _, none => do
            let seen ← settle pending seen
            match rest with
            | [] => .error .invalidValue
            | v :: more =>
              if v == "--" then
                match more with
                | [] => .error .invalidValue
                | w :: after =>
                  if after.isEmpty then settle (some (f, w)) seen else .error .unknownArgument
              else if looksLikeFlag v then .error (pendingStop flags v)
              else readFlags flags seen (some (f, v)) more
    else if a.startsWith "-" && a.length > 1 then
      match a.toList.drop 1 with
      | c :: cs =>
        if c == 'h' || flags.any (·.short == some c) then do
          let seen ← settle pending seen
          let seen ← readShorts flags seen (c :: cs)
          readFlags flags seen none rest
        else .error .unknownArgument
      | [] => .error .unknownArgument
    else .error .unknownArgument

/-- The arguments of `start` from the flags seen. -/
def startArgsOf (seen : List (String × String)) : StartArgs :=
  { dir := seen.lookup "dir"
    integration := match (seen.lookup "integration").map Integration.parse with
      | some (.ok i) => i
      | _ => .nestJs
    mainModule := seen.lookup "main-module"
    envFile := seen.lookup "env-file"
    assets := seen.lookup "assets"
    verbose := (seen.lookup "verbose").isSome }

/-- The subcommands of the program and of `config`. -/
def topCommands : List String := ["start", "doctor", "config", "version", "help"]
def configCommands : List String := ["validate", "show", "help"]

/-- `help` followed by a path of subcommands: the help, when every name is known. Every word
after `help` names a subcommand, so a flag there is an unknown subcommand too. -/
def helpPath : List String → List String → Except ParseStop Command
  | _, [] => .error .displayHelp
  | known, a :: rest =>
    if !known.contains a then .error .invalidSubcommand
    else helpPath (if a == "config" then configCommands else []) rest

/-- What follows a `--` where a subcommand was expected: nothing is a missing subcommand; a
subcommand's name is an unknown argument (the `--` was not needed before it); any other word an
unknown subcommand, since no positional argument is taken there. -/
def afterDoubleDash (known : List String) : List String → ParseStop
  | [] => .displayHelpOnMissingArgumentOrSubcommand
  | b :: _ => if known.contains b then .unknownArgument else .invalidSubcommand

/-- Reads a subcommand's own arguments when it takes only `--help`. -/
def bare (c : Command) (rest : List String) : Except ParseStop Command := do
  let _ ← readFlags [] [] none rest
  pure c

/-- Reads the arguments of `config`. -/
def readConfig : List String → Except ParseStop Command
  | [] => .error .displayHelpOnMissingArgumentOrSubcommand
  | a :: rest =>
    if a == "validate" then bare .configValidate rest
    else if a == "show" then bare .configShow rest
    else if a == "help" then helpPath configCommands rest
    else if a == "--help" || a == "-h" then .error .displayHelp
    else if a.startsWith "--help=" then .error .tooManyValues
    else if a == "--" then .error (afterDoubleDash configCommands rest)
    else if looksLikeFlag a then
      if a.startsWith "--" || (a.toList.drop 1).head? != some 'h' then .error .unknownArgument
      else .error .displayHelp
    else .error .invalidSubcommand

/-- Reads the whole command line after the program's name. -/
def parseCommandLine : List String → Except ParseStop Command
  | [] => .error .displayHelpOnMissingArgumentOrSubcommand
  | a :: rest =>
    if a == "start" then (readFlags startFlags [] none rest).map (.start ∘ startArgsOf)
    else if a == "doctor" then (readFlags doctorFlags [] none rest).map fun seen =>
      .doctor (seen.lookup "dir")
    else if a == "config" then readConfig rest
    else if a == "version" then bare .version rest
    else if a == "help" then helpPath topCommands rest
    else if a == "--help" then .error .displayHelp
    else if a == "--version" then .error .displayVersion
    else if a.startsWith "--help=" || a.startsWith "--version=" then .error .tooManyValues
    else if a == "--" then .error (afterDoubleDash topCommands rest)
    else if a.startsWith "--" then .error .unknownArgument
    else if a.startsWith "-" && a.length > 1 then
      match a.toList.drop 1 with
      | 'h' :: _ => .error .displayHelp
      | 'V' :: _ => .error .displayVersion
      | _ => .error .unknownArgument
    else .error .invalidSubcommand

end LiveSession.Cli
