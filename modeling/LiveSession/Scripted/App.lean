import LiveSession.Supervisor.Runner
/-!
# A scripted application

A stand-in for the built application whose output is a script, a JSON object. At startup it
prints the `startup` lines. For each request it looks up its answer in `replies`, first under
`<method>:<token, else code, else nothing>`, then under the method alone, then falls back to
`default_reply`, and else answers that the method is not found. Each line of an answer is
printed with `$ID` replaced by the request's id, except that `!exit N` makes the application
exit there and `!ignore` prints nothing.
-/

namespace LiveSession.Scripted

open LiveSession.Json LiveSession.Rpc LiveSession.Supervisor

/-- The lines a script entry holds: the strings of an array, or a single string. -/
def linesOf : Option Value → List String
  | some (.arr xs) => xs.filterMap fun x => match x with
    | .str s => some s
    | _ => none
  | some (.str s) => [s]
  | _ => []

/-- Plays lines of a script: printed in order up to an exit. -/
def play : List String → Printed
  | [] => ⟨[], false⟩
  | l :: ls =>
    if l.startsWith "!exit" then ⟨[], true⟩
    else if l == "!ignore" then play ls
    else
      let rest := play ls
      ⟨l :: rest.lines, rest.exits⟩

/-- The part of a request that selects a specific reply: its token, else its code. -/
def requestKey (req : Request) : String :=
  let p := req.params.getD .null
  match p.getStr? "token" with
  | some t => t
  | none => (p.getStr? "code").getD ""

/-- The answer to a request the script does not know. -/
def methodNotFound (id : Nat) : String :=
  frameLine (Response.toJson ⟨"2.0", id, none, some ⟨-32601, "method not found", none⟩⟩)

/-- The script lines answering a request. -/
def replyLines (spec : Value) (req : Request) : List String :=
  let replies := (spec.get? "replies").getD (.obj [])
  match replies.get? (req.method ++ ":" ++ requestKey req) with
  | some v => linesOf (some v)
  | none => match replies.get? req.method with
    | some v => linesOf (some v)
    | none => match spec.get? "default_reply" with
      | some v => linesOf (some v)
      | none => [methodNotFound req.id]

/-- The scripted application as a child process. -/
def scriptedApp (spec : Value) : AppProcess where
  boot := play (linesOf (spec.get? "startup"))
  answer req := play ((replyLines spec req).map fun l => l.replace "$ID" (toString req.id))

end LiveSession.Scripted
