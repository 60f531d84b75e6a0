/-!
# Child processes

A session drives two child processes over their standard streams: the watch driver and the
built application. What matters of a child here is what it prints, in answer to what it is
sent, and whether it then exits; its behaviour is therefore data handed to the models that read
it.

Every printed text ends with a line break, so a text holding line breaks reaches the reader as
several lines.

A reader takes a child's output one line at a time. Each request for the next line gives a line,
the end of the output, or a read error: a line that is not UTF-8 is one. What a child prints here
is text, so reading it never fails; the readers are written for every sequence of reads.
-/

namespace LiveSession.Supervisor

/-- What a child printed in answer to something, and whether it then exited. -/
structure Printed where
  lines : List String
  exits : Bool
  deriving DecidableEq, Repr

/-- The lines a reader of the child's output sees. -/
def Printed.readLines (p : Printed) : List String := p.lines.flatMap fun l => l.splitOn "\n"

/-- What one request for the next line of a child's output gives. -/
inductive LineRead where
  /-- A line, without its line break. -/
  | line (text : String)
  /-- The end of the output. -/
  | ended
  /-- A read error, with its text. -/
  | failed (reason : String)
  deriving DecidableEq, Repr

/-- The reads of what a child printed: its lines, then the end of its output if it exited. -/
def Printed.reads (p : Printed) : List LineRead :=
  p.readLines.map .line ++ if p.exits then [.ended] else []

end LiveSession.Supervisor
