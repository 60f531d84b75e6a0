import LiveSession.Files.Tree
import LiveSession.Context
import LiveSession.Text.Blank
import LiveSession.Json.Print
import LiveSession.Json5.Read
/-!
# Patching the project's configuration

Two edits make a project see the scratch directory, both only ever appending and both idempotent:
the compiler's include list in `tsconfig.json` gains the scratch directory and the catch-all
pattern, and `.gitignore` gains a marker comment and the scratch directory's name.

Neither edit stops a session: a problem comes back as a warning naming the file. A
`tsconfig.json` may hold comments and trailing commas; it is rewritten, pretty-printed, only
when an entry had to be appended. A `.gitignore` line already ignores the scratch directory when,
trimmed of blanks and then of slashes on both ends, it is the directory's name.
-/

namespace LiveSession.Scaffold

open LiveSession.Files LiveSession.Json

/-- The compiler configuration file. -/
def tsconfigFile : String := "tsconfig.json"

/-- The version-control ignore file. -/
def gitignoreFile : String := ".gitignore"

/-- The comment written above the scratch directory's entry. -/
def gitignoreMarker : String := "# Ignore Nirvana extension folder"

/-- The include entry covering the rest of the project. -/
def catchAllInclude : String := "**/*"

/-- The include entry covering the scratch directory. -/
def scratchInclude : String := scratchDirName ++ "/**/*"

/-- What a patch did. -/
inductive PatchOutcome where
  /-- The file was changed. -/
  | applied
  /-- The file already had everything; nothing was written. -/
  | alreadyPresent
  /-- There was nothing to patch. -/
  | skipped
  deriving DecidableEq, Repr

/-- The outcome's name. -/
def PatchOutcome.label : PatchOutcome → String
  | .applied => "Applied"
  | .alreadyPresent => "AlreadyPresent"
  | .skipped => "Skipped"

/-- A problem met while patching a file. -/
structure PatchWarning where
  file : String
  message : String
  deriving DecidableEq, Repr

/-- The warning as shown: the file, then the message. -/
def PatchWarning.display (w : PatchWarning) : String := w.file ++ ": " ++ w.message

/-- A patch's result: its outcome or a warning. -/
abbrev PatchResult := Except PatchWarning PatchOutcome

/-- Appends the wanted entries missing from an include list, with the ones appended. -/
def appendMissing (entries : List Value) : List String → List Value × List String
  | [] => (entries, [])
  | w :: ws =>
    let present := entries.any fun e => match e with
      | .str s => s == w
      | _ => false
    let entries := if present then entries else entries ++ [.str w]
    let (entries, added) := appendMissing entries ws
    (entries, if present then added else w :: added)

/-- Makes the include list of a parsed `tsconfig.json` cover the scratch directory and the rest
of the project: the new document when entries were appended, none when all were present. -/
def includeBoth (doc : Value) : Except String (Option Value) :=
  match doc with
  | .obj ms =>
    let ms := if (ms.lookup "include").isSome then ms else ms ++ [("include", .arr [])]
    match ms.lookup "include" with
    | some (.arr entries) =>
      let (entries, added) := appendMissing entries [scratchInclude, catchAllInclude]
      if added.isEmpty then .ok none else .ok (some (.obj (setMember "include" (.arr entries) ms)))
    | _ => .error "`include` is not an array"
  | _ => .error "top-level value is not an object"

/-- Patches the include list of the `tsconfig.json` at `path`; skipped when it is not a regular
file. -/
def patchTsconfig (t : Tree) (path : String) : Tree × PatchResult :=
  if !t.isFile path then (t, .ok .skipped)
  else
    let warn (m : String) : Tree × PatchResult := (t, .error ⟨path, m⟩)
    match t.readText path with
    | .error e => warn ("read failed: " ++ e)
    | .ok raw =>
      match Json5.read raw with
      | none => warn "Failed to parse tsconfig.json: <json5 error>"
      | some doc =>
        match includeBoth doc with
        | .error m => warn m
        | .ok none => (t, .ok .alreadyPresent)
        | .ok (some doc) =>
          match t.writeText path (doc.pretty ++ "\n") with
          | .ok t => (t, .ok .applied)
          | .error e => warn ("write failed: " ++ e)

/-- Whether an ignore-file line already ignores the scratch directory. -/
def ignoresScratchDir (line : String) : Bool :=
  let bare := (Text.trim line).toList.dropWhile (· == '/')
  String.ofList (bare.reverse.dropWhile (· == '/')).reverse == scratchDirName

/-- Appends the marker comment and the scratch directory's name to the `.gitignore` at `path`
unless a line already ignores it; the file is made when absent. -/
def patchGitignore (t : Tree) (path : String) : Tree × PatchResult :=
  let warn (m : String) : Tree × PatchResult := (t, .error ⟨path, m⟩)
  let content := if t.present path then t.readText path else .ok ""
  match content with
  | .error e => warn ("read failed: " ++ e)
  | .ok content =>
    if (Text.lines content).any ignoresScratchDir then (t, .ok .alreadyPresent)
    else
      let content := if !content.isEmpty && !content.endsWith "\n" then content ++ "\n"
        else content
      let content := content ++ gitignoreMarker ++ "\n" ++ scratchDirName ++ "\n"
      match t.writeText path content with
      | .ok t => (t, .ok .applied)
      | .error e => warn ("write failed: " ++ e)

/-- What patching a project did to each file. -/
structure PatchReport where
  tsconfig : PatchResult
  gitignore : PatchResult

/-- The warnings of a report, the compiler configuration's first. -/
def PatchReport.warnings (r : PatchReport) : List PatchWarning :=
  [r.tsconfig, r.gitignore].filterMap fun res => match res with
    | .error w => some w
    | .ok _ => none

/-- Patches both files in the working directory. -/
def patchProject (t : Tree) (wd : String) : Tree × PatchReport :=
  let (t, ts) := patchTsconfig t (Path.join wd tsconfigFile)
  let (t, gi) := patchGitignore t (Path.join wd gitignoreFile)
  (t, ⟨ts, gi⟩)

end LiveSession.Scaffold
