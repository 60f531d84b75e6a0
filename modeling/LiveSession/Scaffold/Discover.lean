import LiveSession.Files.Glob
import LiveSession.Context
/-!
# Discovering modules and env files

The candidates offered for a project's main module are its TypeScript sources: regular files
whose name ends in `.ts` but not `.d.ts`. The env files are those whose name ends in `.env`.
Both are searched everywhere below the working directory, hidden entries included, except under
`node_modules`, `dist`, `build`, `out`, `test` and the scratch directory. They are listed by
their `/`-joined path relative to the working directory, in ascending order.
-/

namespace LiveSession.Scaffold

open LiveSession.Files

/-- The directories never searched. -/
def excludedDirs : List String := ["node_modules", "dist", "build", "out", "test", scratchDirName]

/-- The regular files a glob pattern names below a directory, outside the excluded directories,
by `/`-joined path relative to the directory, in the order the walk finds them. The directory's
path is put in front of the pattern as it is, so glob characters in it act as wildcards, and the
files kept are those whose path, as the walk shows it, starts with the directory's components. -/
def globFiles (t : Tree) (root : String) (pattern : String) : List String :=
  let full := Path.join root pattern
  let absolute := Path.isAbsolute full
  match t.globPaths full with
  | none => []
  | some spots =>
    spots.filterMap fun p =>
      if t.isFileAt absolute p.here then
        match Glob.stripPrefix (Glob.prefixComponents root) p.shown with
        | some rel => if rel.any (excludedDirs.contains ·) then none else some ("/".intercalate rel)
        | none => none
      else none

/-- The files a glob pattern names below a directory, in ascending order. -/
def findFiles (t : Tree) (root : String) (pattern : String) : List String :=
  (globFiles t root pattern).mergeSort fun a b => decide (a ≤ b)

/-- The candidate main modules of a project. -/
def candidateModules (t : Tree) (root : String) : List String :=
  (findFiles t root "**/*.ts").filter (!·.endsWith ".d.ts")

/-- The env files of a project. -/
def envFiles (t : Tree) (root : String) : List String := findFiles t root "**/*.env"

end LiveSession.Scaffold
