import LiveSession.Path
/-!
# File trees

The files a session reads and writes, as a finite tree: every entry is a regular file holding
bytes or a directory, named by its key, the names from the start of a path to the entry joined by
`/` (after a `/` for an absolute path). Every operation walks its path as the operating system
does: an empty or `.` part stays where the walk is, `..` goes up one level (never above the start)
and a name goes down, and wherever the walk stays, turns back or goes down it must stand on a
directory of the tree or on the start, which is one. So `a//b`, `a/./b` and, when `a/d` is a
directory, `a/d/../b` all name the entry `a/b`, and `a/b/` names it only when it is a directory.
A write lands where its path leads, and making a directory walks the path making each missing
directory on the way.

Reads and writes fail the way the operating system reports it: reading or writing a directory is
`Is a directory`, a missing entry `No such file or directory`, a path through a regular file
`Not a directory`, and making a directory where a file stands `File exists`. Text reads also
require well-formed UTF-8.
-/

namespace LiveSession.Files

/-- An entry of a tree. -/
inductive Node where
  | file (bytes : List UInt8)
  | dir
  deriving DecidableEq, Repr, Inhabited

/-- An error reported by the file system, as its text. -/
abbrev IoError := String

/-- The error for a directory where a file was expected. -/
def isADirectory : IoError := "Is a directory (os error 21)"

/-- The error for a missing entry. -/
def notFound : IoError := "No such file or directory (os error 2)"

/-- The error for a path that passes through a regular file. -/
def notADirectory : IoError := "Not a directory (os error 20)"

/-- The error for making a directory where an entry exists. -/
def fileExists : IoError := "File exists (os error 17)"

/-- The error for text that is not UTF-8. -/
def invalidUtf8 : IoError := "stream did not contain valid UTF-8"

/-- The key of the entry reached by going down the given names from the start. -/
def keyOf (absolute : Bool) (names : List String) : String :=
  (if absolute then "/" else "") ++ "/".intercalate names

/-- The parts a path is walked by: all its parts, but for the leading `/` of an absolute path. -/
def walkParts (p : String) : List String :=
  if Path.isAbsolute p then (Path.parts p).drop 1 else Path.parts p

/-- Where one part of a path leads from the names walked so far: an empty or `.` part stays, `..`
goes up one level, never above the start, and a name goes down. -/
def stepName (here : List String) (part : String) : List String :=
  if part.isEmpty || part == "." then here
  else if part == ".." then here.dropLast
  else here ++ [part]

/-- A path in the form entries are keyed by, its empty and `.` parts dropped. -/
def key (p : String) : String :=
  keyOf (Path.isAbsolute p) ((Path.parts p).filter fun s => !s.isEmpty && s != ".")

/-- The keys of the proper ancestors of a key, outermost first. -/
def ancestors (k : String) : List String :=
  let absolute := k.startsWith "/"
  let parts := (Path.parts k).filter fun s => !s.isEmpty
  let prefixes := (List.range parts.length).map fun i => parts.take i
  (prefixes.filter (!·.isEmpty)).map (keyOf absolute)

/-- A finite tree of files and directories, keyed by path. -/
structure Tree where
  entries : List (String × Node)
  deriving Inhabited

namespace Tree

/-- The empty tree. -/
def empty : Tree := ⟨[]⟩

/-- The entry reached by going down the given names: the start of a walk is a directory. -/
def entryAt (t : Tree) (absolute : Bool) (here : List String) : Option Node :=
  if here.isEmpty then some .dir else t.entries.lookup (keyOf absolute here)

/-- Why a walk cannot go on from where it stands, if it cannot: it must stand on a directory. -/
def dirProblem (t : Tree) (absolute : Bool) (here : List String) : Option IoError :=
  match t.entryAt absolute here with
  | some .dir => none
  | some (.file _) => some notADirectory
  | none => some notFound

/-- Walks parts from the names reached so far; before each part the walk must stand on a
directory. The names reached, or why the walk stopped. -/
def walk (t : Tree) (absolute : Bool) : List String → List String → Except IoError (List String)
  | here, [] => .ok here
  | here, part :: parts =>
    match t.dirProblem absolute here with
    | some e => .error e
    | none => t.walk absolute (stepName here part) parts

/-- Where a path leads: the names from the start, or why the walk stopped. -/
def resolve (t : Tree) (p : String) : Except IoError (List String) :=
  t.walk (Path.isAbsolute p) [] (walkParts p)

/-- The key a path leads to, or none when its walk stops. -/
def locate (t : Tree) (p : String) : Option String :=
  match t.resolve p with
  | .ok here => some (keyOf (Path.isAbsolute p) here)
  | .error _ => none

/-- The entry at a path. -/
def node? (t : Tree) (p : String) : Option Node :=
  match t.resolve p with
  | .ok here => t.entryAt (Path.isAbsolute p) here
  | .error _ => none

/-- Whether a regular file is at the path. -/
def isFile (t : Tree) (p : String) : Bool :=
  match t.node? p with
  | some (.file _) => true
  | _ => false

/-- Whether a directory is at the path. -/
def isDir (t : Tree) (p : String) : Bool :=
  match t.node? p with
  | some .dir => true
  | _ => false

/-- Whether anything is at the path. -/
def present (t : Tree) (p : String) : Bool := (t.node? p).isSome

/-- Sets the entry at a key, replacing an existing one. -/
def setEntry (t : Tree) (k : String) (n : Node) : Tree :=
  if (t.entries.lookup k).isSome then
    ⟨t.entries.map fun (k', m) => if k' == k then (k', n) else (k', m)⟩
  else ⟨t.entries ++ [(k, n)]⟩

/-- Adds an entry and every missing ancestor directory, replacing what was at the path. -/
def put (t : Tree) (p : String) (n : Node) : Tree :=
  let k := key p
  let t := (ancestors k).foldl (fun t a => if (t.entries.lookup a).isSome then t
    else t.setEntry a .dir) t
  t.setEntry k n

/-- The bytes of a regular file. -/
def readBytes (t : Tree) (p : String) : Except IoError (List UInt8) :=
  match t.resolve p with
  | .error e => .error e
  | .ok here =>
    match t.entryAt (Path.isAbsolute p) here with
    | some (.file b) => .ok b
    | some .dir => .error isADirectory
    | none => .error notFound

/-- Decodes UTF-8 bytes, if they are well formed. -/
def utf8? (bytes : List UInt8) : Option String := String.fromUTF8? ⟨bytes.toArray⟩

/-- The text of a regular file. -/
def readText (t : Tree) (p : String) : Except IoError String := do
  let b ← t.readBytes p
  match utf8? b with
  | some s => .ok s
  | none => .error invalidUtf8

/-- Writes a regular file where the path leads, creating or truncating it. -/
def writeBytes (t : Tree) (p : String) (bytes : List UInt8) : Except IoError Tree :=
  match t.resolve p with
  | .error e => .error e
  | .ok here =>
    match t.entryAt (Path.isAbsolute p) here with
    | some .dir => .error isADirectory
    | _ => .ok (t.setEntry (keyOf (Path.isAbsolute p) here) (.file bytes))

/-- Writes text as a regular file. -/
def writeText (t : Tree) (p : String) (s : String) : Except IoError Tree :=
  t.writeBytes p s.toUTF8.toList

/-- Walks parts from the names reached so far, making each missing directory on the way. A
regular file in the way is `File exists` when only empty parts follow it, else
`Not a directory`. -/
def makeDirs (absolute : Bool) (t : Tree) (here : List String) :
    List String → Except IoError Tree
  | [] => .ok t
  | part :: parts =>
    if part.isEmpty || part == "." || part == ".." then makeDirs absolute t (stepName here part) parts
    else
      let next := here ++ [part]
      match t.entryAt absolute next with
      | some .dir => makeDirs absolute t next parts
      | some (.file _) => .error (if parts.all (·.isEmpty) then fileExists else notADirectory)
      | none => makeDirs absolute (t.setEntry (keyOf absolute next) .dir) next parts

/-- Makes a directory and the missing directories on its way; one already there is fine. -/
def createDirAll (t : Tree) (p : String) : Except IoError Tree :=
  makeDirs (Path.isAbsolute p) t [] (walkParts p)

/-- Copies a regular file's bytes to another path. -/
def copy (t : Tree) (src dst : String) : Except IoError Tree := do
  let b ← t.readBytes src
  t.writeBytes dst b

/-- The entries strictly below a directory, with paths relative to it. -/
def below (t : Tree) (p : String) : List (String × Node) :=
  let k := key p
  let pre := if k.isEmpty then "" else if k == "/" then "/" else k ++ "/"
  t.entries.filterMap fun (k', n) =>
    if k'.startsWith pre && k' != k then some (String.ofList (k'.toList.drop pre.length), n)
    else none

end Tree

end LiveSession.Files
