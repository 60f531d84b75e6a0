/-!
# Paths

Paths are strings in the Unix form. Joining follows the usual rule: a path that starts with `/`
replaces the base; otherwise a `/` is put between them unless the base is empty or already ends
with one. Nothing is normalised, so `.` and `..` parts stay as they are.
-/

namespace LiveSession.Path

/-- Whether a path is absolute. -/
def isAbsolute (p : String) : Bool := p.startsWith "/"

/-- `base` joined with `p`. -/
def join (base p : String) : String :=
  if isAbsolute p then p
  else if base.isEmpty || base.endsWith "/" then base ++ p
  else base ++ "/" ++ p

/-- A path resolved against a base: kept when absolute, joined otherwise. -/
def resolve (base p : String) : String := if isAbsolute p then p else join base p

/-- The texts between the separators of a path, empty ones included: `a//b/` has the four parts
`a`, an empty one, `b` and another empty one. -/
def parts (p : String) : List String := (p.toList.splitOn '/').map String.ofList

/-- The parts of a path between separators, with empty and `.` parts dropped and a leading
`/` kept as a part of its own. -/
def components (p : String) : List String :=
  let rest := (parts p).filter fun s => !s.isEmpty && s != "."
  if isAbsolute p then "/" :: rest else rest

/-- The last part of a path, if it is a normal name. -/
def fileName (p : String) : Option String :=
  match (components p).getLast? with
  | some "/" | some ".." | some "." | none => none
  | some n => some n

/-- The path without its last part. -/
def parent (p : String) : Option String :=
  let cs := components p
  match cs with
  | [] => none
  | ["/"] => none
  | _ =>
    let init := cs.dropLast
    match init with
    | [] => some ""
    | "/" :: rest => some ("/" ++ "/".intercalate rest)
    | _ => some ("/".intercalate init)

end LiveSession.Path
