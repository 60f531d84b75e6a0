import LiveSession.Text.Blank
/-!
# Bridge templates

A template is text with markers `{{ name }}`: two opening braces, optional blanks, an
identifier (a letter or underscore, then letters, digits or underscores), optional blanks and
two closing braces. `pieces` cuts a template into literal text and markers, always taking the
leftmost marker that starts at or after the end of the previous one, so no marker starts inside
a literal piece. Each piece keeps its source text, and the sources put together give back the
template.

`render` replaces each marker by its variable's value. Values are not scanned again, so a value
that looks like a marker stays as it is. The first marker whose name has no value is the error
`UnknownVariable`, with the byte offset at which the marker starts.
-/

namespace LiveSession.Scaffold

/-- A piece of a template: literal text, or a marker naming a variable with its source text. -/
inductive Piece where
  | text (s : String)
  | marker (name : String) (source : String)
  deriving DecidableEq, Repr

/-- The text a piece was cut from. -/
def Piece.source : Piece → String
  | .text s => s
  | .marker _ s => s

/-- Whether a character may start an identifier. -/
def isIdentStart (c : Char) : Bool := c.isAlpha || c == '_'

/-- Whether a character may continue an identifier. -/
def isIdentChar (c : Char) : Bool := c.isAlphanum || c == '_'

/-- The marker at the very start of the text, if there is one: its name and its length in
characters. -/
def markerAt (cs : List Char) : Option (String × Nat) :=
  match cs with
  | '{' :: '{' :: rest =>
    let blanks1 := rest.takeWhile Text.isBlank
    match rest.drop blanks1.length with
    | c :: more =>
      if isIdentStart c then
        let tailName := more.takeWhile isIdentChar
        let after := more.drop tailName.length
        let blanks2 := after.takeWhile Text.isBlank
        match after.drop blanks2.length with
        | '}' :: '}' :: _ =>
          some (String.ofList (c :: tailName),
            2 + blanks1.length + 1 + tailName.length + blanks2.length + 2)
        | _ => none
      else none
    | [] => none
  | _ => none

/-- The literal piece holding the characters `lit` (kept in reverse), if any. -/
def flushText (lit : List Char) : List Piece :=
  if lit.isEmpty then [] else [.text (String.ofList lit.reverse)]

/-- Cuts text into pieces. `lit` holds the literal characters seen since the last marker, in
reverse, and `mark` the characters of the current marker still to be passed over. -/
def cut (lit : List Char) (mark : List Char) (skip : Nat) (name : String) :
    List Char → List Piece
  | [] => flushText lit
  | c :: cs =>
    match skip with
    | k + 1 =>
      if k = 0 then .marker name (String.ofList (c :: mark).reverse) :: cut [] [] 0 "" cs
      else cut lit (c :: mark) k name cs
    | 0 =>
      match markerAt (c :: cs) with
      | some (n, len) =>
        if len ≤ 1 then cut (c :: lit) [] 0 "" cs
        else flushText lit ++ cut [] [c] (len - 1) n cs
      | none => cut (c :: lit) [] 0 "" cs

/-- The pieces of a template. -/
def pieces (template : String) : List Piece := cut [] [] 0 "" template.toList

/-- A template variable that has no value. -/
structure UnknownVariable where
  name : String
  offset : Nat
  deriving DecidableEq, Repr

/-- Renders pieces, `offset` being the byte length of the source already passed. -/
def renderPieces (vars : List (String × String)) (offset : Nat) :
    List Piece → Except UnknownVariable String
  | [] => .ok ""
  | .text s :: ps => (renderPieces vars (offset + s.utf8ByteSize) ps).map (s ++ ·)
  | .marker n src :: ps =>
    match vars.lookup n with
    | some v => (renderPieces vars (offset + src.utf8ByteSize) ps).map (v ++ ·)
    | none => .error ⟨n, offset⟩

/-- Replaces every marker of a template by its variable's value. -/
def render (template : String) (vars : List (String × String)) : Except UnknownVariable String :=
  renderPieces vars 0 (pieces template)

end LiveSession.Scaffold
