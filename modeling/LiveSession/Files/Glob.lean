import LiveSession.Files.Tree
/-!
# Glob patterns

A glob pattern names paths by their shape, one part between separators at a time. In a part, `?`
stands for one character, `*` for any run of characters, `[...]` for one character of a set of
characters and ranges such as `a-z` (`[!...]` for one character outside it), and every other
character for itself; a `]` right after `[` or `[!` is a member of the set. `**` standing alone
as a part stands for any number of directories. `***`, `**` next to other characters in a part,
and a `[` that opens no set make the text no pattern. Wildcards match hidden names like any
other name, and characters compare exactly.

A pattern is walked over a tree part by part from the start of the walk (`Tree.globPaths`): a
part without wildcards steps to the entry of that name (`.` and `..` as the operating system
steps), a part with wildcards to each entry of the directory whose name it matches, and `**` to
each entry below the directory through directories. The walk yields each path it reaches at the
end of the pattern, as the names it showed on the way and where they lead, once for each way of
reaching it.
-/

namespace LiveSession.Files

namespace Glob

/-- A member of a bracketed set: one character, or a range of them. -/
inductive CharSpec where
  | single (c : Char)
  | range (lo hi : Char)
  deriving DecidableEq, Repr

/-- Whether a character is the member, or lies in its range. -/
def CharSpec.admits (c : Char) : CharSpec → Bool
  | .single d => c == d
  | .range lo hi => lo ≤ c && c ≤ hi

/-- The members of a set as written between its brackets: `a-z` is a range. -/
def charSpecs : List Char → List CharSpec
  | a :: '-' :: b :: rest => .range a b :: charSpecs rest
  | a :: rest => .single a :: charSpecs rest
  | [] => []

/-- One piece of a pattern. -/
inductive Token where
  | char (c : Char)
  | any
  | run
  | dirs
  | within (set : List CharSpec)
  | except (set : List CharSpec)
  deriving DecidableEq, Repr

mutual

/-- The tokens of a pattern's text, or none when it is no pattern; `afterSep` says whether the
text before is empty or ends with a separator, where `**` may stand. -/
def compileFrom : Bool → List Char → Option (List Token)
  | _, [] => some []
  | _, '?' :: cs => (compileFrom false cs).map (.any :: ·)
  | _, '*' :: '*' :: '*' :: _ => none
  | afterSep, '*' :: '*' :: cs =>
    if afterSep then
      match cs with
      | [] => some [.dirs]
      | '/' :: cs' => (compileFrom true cs').map (.dirs :: ·)
      | _ => none
    else none
  | _, '*' :: cs => (compileFrom false cs).map (.run :: ·)
  | _, '[' :: '!' :: c :: d :: cs => compileSet true [c] (d :: cs)
  | _, '[' :: c :: d :: cs => if c == '!' then none else compileSet false [c] (d :: cs)
  | _, '[' :: _ => none
  | _, c :: cs => (compileFrom (c == '/') cs).map (.char c :: ·)

/-- The tokens of a pattern's text inside a set, its members so far gathered in reverse. -/
def compileSet (negated : Bool) (members : List Char) : List Char → Option (List Token)
  | [] => none
  | ']' :: cs =>
    let set := charSpecs members.reverse
    (compileFrom false cs).map ((if negated then .except set else .within set) :: ·)
  | c :: cs => compileSet negated (c :: members) cs

end

/-- The tokens of a pattern's text, or none when it is no pattern. -/
def compile (text : String) : Option (List Token) := compileFrom true text.toList

/-- Whether tokens match the whole of a name: `*` any run of characters, `**` a run that is
empty or ends with a separator. -/
def accepts : List Token → List Char → Bool
  | [], cs => cs.isEmpty
  | .run :: ts, cs => (List.range (cs.length + 1)).any fun k => accepts ts (cs.drop k)
  | .dirs :: ts, cs => (List.range (cs.length + 1)).any fun k =>
    (k == 0 || cs[k - 1]? == some '/') && accepts ts (cs.drop k)
  | .char d :: ts, c :: cs => c == d && accepts ts cs
  | .any :: ts, _ :: cs => accepts ts cs
  | .within set :: ts, c :: cs => set.any (·.admits c) && accepts ts cs
  | .except set :: ts, c :: cs => !set.any (·.admits c) && accepts ts cs
  | _ :: _, [] => false

/-- The character a token stands for, if it is one. -/
def Token.char? : Token → Option Char
  | .char c => some c
  | _ => none

/-- The text of tokens without wildcards, if they have none. -/
def literalText (ts : List Token) : Option String := (ts.mapM Token.char?).map String.ofList

/-- Where a walk stands: the components of the path it shows so far (`/` first for an absolute
one, `.` alone where a relative one starts, then names and `..`), and where that path leads, as
names from the start. -/
structure Spot where
  shown : List String
  here : List String
  deriving DecidableEq, Repr

/-- Where a walk starts: the root, shown as `/`, or the working directory, shown as `.`. -/
def Spot.start (absolute : Bool) : Spot := ⟨if absolute then ["/"] else ["."], []⟩

/-- Whether the walk stands where a relative one starts: a step from there shows only the names
it goes to, as a path of its own. -/
def Spot.atCurDir (p : Spot) : Bool := p.shown == ["."]

/-- The components a step from the spot shows before its own. -/
def Spot.base (p : Spot) : List String := if p.atCurDir then [] else p.shown

/-- The spot some names further down. -/
def Spot.down (p : Spot) (ns : List String) : Spot := ⟨p.base ++ ns, p.here ++ ns⟩

/-- Parts without a trailing empty one: a separator at the end of a text ends its last part. -/
def withoutEmptyLast (ps : List String) : List String :=
  if ps.getLast? == some "" then ps.dropLast else ps

/-- The parts of a pattern after the leading `/` of an absolute one, split at each separator; a
pattern with no part left has one empty part. -/
def parts (pattern : String) : List String :=
  match withoutEmptyLast (walkParts pattern) with
  | [] => [""]
  | ps => ps

/-- The components a path is compared by when a leading path is taken off it: `/` for the start
of an absolute path, `.` for the start of a relative path whose first part is `.`, then its names
and `..`. -/
def prefixComponents (p : String) : List String :=
  if !Path.isAbsolute p && (Path.parts p).head? == some "." then "." :: Path.components p
  else Path.components p

/-- The components left when a leading path is taken off a path's components, if it leads it. -/
def stripPrefix (lead : List String) (cs : List String) : Option (List String) :=
  if lead.isPrefixOf cs then some (cs.drop lead.length) else none

end Glob

namespace Tree

open Glob

/-- The names of a key of the given kind: its parts but for the leading `/` of an absolute key,
empty ones dropped. -/
def keyNames (absolute : Bool) (k : String) : Option (List String) :=
  if Path.isAbsolute k == absolute then some ((walkParts k).filter (!·.isEmpty)) else none

/-- Whether the names reached lead to a directory. -/
def isDirAt (t : Tree) (absolute : Bool) (here : List String) : Bool :=
  t.entryAt absolute here == some .dir

/-- Whether the names reached lead to a regular file. -/
def isFileAt (t : Tree) (absolute : Bool) (here : List String) : Bool :=
  match t.entryAt absolute here with
  | some (.file _) => true
  | _ => false

/-- Whether every entry on the way from the names reached down some names, but the last, is a
directory. -/
def dirsBetween (t : Tree) (absolute : Bool) (here : List String) : List String → Bool
  | [] | [_] => true
  | n :: ns => t.isDirAt absolute (here ++ [n]) && t.dirsBetween absolute (here ++ [n]) ns

/-- The entries below the names reached, through directories, by the names leading to each. -/
def namesBelow (t : Tree) (absolute : Bool) (here : List String) : List (List String) :=
  t.entries.filterMap fun (k, _) => do
    let names ← keyNames absolute k
    let ns := names.drop here.length
    if here.isPrefixOf names && !ns.isEmpty && t.dirsBetween absolute here ns then some ns
    else none

/-- The names of the entries one level below the names reached. -/
def childNames (t : Tree) (absolute : Bool) (here : List String) : List String :=
  (t.namesBelow absolute here).filterMap fun | [n] => some n | _ => none

/-- One step of a walk by a part without wildcards, from a directory: `.` stays, and so does an
empty part but where a relative walk starts, `..` goes up, and a name goes down to the entry of
that name. -/
def literalStep (t : Tree) (absolute : Bool) (s : String) (p : Spot) : Option Spot :=
  if !t.isDirAt absolute p.here then none
  else if s == "." then some p
  else if s.isEmpty then if p.atCurDir then none else some p
  else if s == ".." then some ⟨p.base ++ [".."], p.here.dropLast⟩
  else if (t.entryAt absolute (p.here ++ [s])).isSome then some (p.down [s])
  else none

mutual

/-- The spots a walk by the remaining parts of a pattern reaches from a spot. -/
def globFrom (t : Tree) (absolute : Bool) : List (List Token) → Spot → List Spot
  | [], p => [p]
  | part :: parts, p =>
    match literalText part with
    | some s =>
      match t.literalStep absolute s p with
      | some p' => t.globFrom absolute parts p'
      | none => []
    | none =>
      if !t.isDirAt absolute p.here then []
      else if part == [.dirs] then t.globBelow absolute parts p
      else
        (((t.childNames absolute p.here).filter fun n => Glob.accepts part n.toList).flatMap
          fun n => t.globFrom absolute parts (p.down [n])) ++
        -- a part that starts with `.` also steps to `.` and `..` when it matches them
        (if part.head? == some (.char '.') then
          ([".", ".."].filter fun s => Glob.accepts part s.toList).flatMap fun s =>
            t.globFrom absolute parts
              (if s == "." then p else ⟨p.shown ++ [".."], p.here.dropLast⟩)
        else [])

/-- The spots a walk reaches from a directory through a run of `**` and then the remaining parts:
every entry below it through directories whose name the next part matches. -/
def globBelow (t : Tree) (absolute : Bool) : List (List Token) → Spot → List Spot
  | [], p => (t.namesBelow absolute p.here).filterMap fun ns =>
    if t.isDirAt absolute (p.here ++ ns) then some (p.down ns) else none
  | part :: parts, p =>
    if part == [.dirs] then t.globBelow absolute parts p
    else (t.namesBelow absolute p.here).flatMap fun ns =>
      if Glob.accepts part (ns.getLast?.getD "").toList then t.globFrom absolute parts (p.down ns)
      else []

end

/-- The spots a pattern names in a tree, or none when the pattern or one of its parts is no
pattern. A pattern that ends with a separator names directories only. -/
def globPaths (t : Tree) (pattern : String) : Option (List Spot) := do
  let _ ← compile pattern
  let parts ← (Glob.parts pattern).mapM compile
  let absolute := Path.isAbsolute pattern
  let found := t.globFrom absolute parts (Spot.start absolute)
  some (if pattern.endsWith "/" then found.filter fun p => t.isDirAt absolute p.here else found)

end Tree

end LiveSession.Files
