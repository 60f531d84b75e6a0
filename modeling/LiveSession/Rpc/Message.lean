import LiveSession.Json.Read
import LiveSession.Json.Decode
/-!
# Framed JSON-RPC messages

A child process talks to the session on its standard streams. A line that starts with the frame
prefix `@@nirvana:` carries one JSON-RPC 2.0 message as compact JSON; any other line is the
child's ordinary output.

`frameLine` writes a message after the prefix. `classifyLine` reads a line back: it strips
trailing carriage returns and newlines, treats an unprefixed line as output, and otherwise reads
the payload as JSON and decodes it as a response when it has a non-null `id` member and as a
notification otherwise. A payload that is not JSON, or does not decode, is malformed, with the
reader's or decoder's message as the reason.
-/

namespace LiveSession.Rpc

open LiveSession.Json

/-- The marker that starts a framed line. -/
def framePrefix : String := "@@nirvana:"

/-- Error code for a token the application container does not know. -/
def errNotRegistered : Int := -32001

/-- Error code for container internals of an unexpected shape. -/
def errIntrospection : Int := -32002

/-- Error code for evaluated code that threw. -/
def errEvaluation : Int := -32003

/-- A request: it has an `id` and expects a response. -/
structure Request where
  jsonrpc : String
  id : Nat
  method : String
  params : Option Value

/-- A notification: no `id`, no response. -/
structure Notification where
  jsonrpc : String
  method : String
  params : Option Value

/-- The error object of a response. -/
structure RpcError where
  code : Int
  message : String
  data : Option Value

/-- A response to the request with the same `id`. -/
structure Response where
  jsonrpc : String
  id : Nat
  result : Option Value
  error : Option RpcError

/-- A request of protocol version 2.0. -/
def Request.new (id : Nat) (method : String) (params : Option Value) : Request :=
  ⟨"2.0", id, method, params⟩

/-- A notification of protocol version 2.0. -/
def Notification.new (method : String) (params : Option Value) : Notification :=
  ⟨"2.0", method, params⟩

/-- How an error is shown: `JSON-RPC error <code>: <message>`. -/
def RpcError.display (e : RpcError) : String :=
  "JSON-RPC error " ++ toString e.code ++ ": " ++ e.message

/-- The outcome a response carries: its error if it has one, else its result (`null` if none). -/
def Response.outcome (r : Response) : Except RpcError Value :=
  match r.error with
  | some e => .error e
  | none => .ok (r.result.getD .null)

/-- Appends a member only when the value is present. -/
def withOpt (key : String) : Option Value → List (String × Value)
  | some v => [(key, v)]
  | none => []

/-- The JSON form of an error object; absent data is left out. -/
def RpcError.toJson (e : RpcError) : Value :=
  .obj ([("code", Value.int e.code), ("message", .str e.message)] ++ withOpt "data" e.data)

/-- The JSON form of a request; absent params are left out. -/
def Request.toJson (r : Request) : Value :=
  .obj ([("jsonrpc", .str r.jsonrpc), ("id", Value.nat r.id), ("method", .str r.method)] ++
    withOpt "params" r.params)

/-- The JSON form of a notification; absent params are left out. -/
def Notification.toJson (n : Notification) : Value :=
  .obj ([("jsonrpc", .str n.jsonrpc), ("method", .str n.method)] ++ withOpt "params" n.params)

/-- The JSON form of a response; an absent result or error is left out. -/
def Response.toJson (r : Response) : Value :=
  .obj ([("jsonrpc", .str r.jsonrpc), ("id", Value.nat r.id)] ++
    withOpt "result" r.result ++ withOpt "error" (r.error.map RpcError.toJson))

/-- A framed line (without its newline) carrying a JSON value. -/
def frameLine (v : Value) : String := framePrefix ++ v.compact

/-- Decodes an error object. -/
def RpcError.decode : Decoder RpcError := fun v => do
  let raw ← readRecord "JsonRpcError"
    [.of "code" Decoder.i64 .required, .of "message" Decoder.string .required,
     .of "data" (Decoder.option Decoder.any) .defaulted] v
  return ⟨member raw 0 Decoder.i64 0, member raw 1 Decoder.string "",
    member raw 2 (Decoder.option Decoder.any) none⟩

/-- Decodes a request. -/
def Request.decode : Decoder Request := fun v => do
  let raw ← readRecord "JsonRpcRequest"
    [.of "jsonrpc" Decoder.string .required, .of "id" Decoder.u64 .required,
     .of "method" Decoder.string .required, .of "params" (Decoder.option Decoder.any) .optional] v
  return ⟨member raw 0 Decoder.string "", member raw 1 Decoder.u64 0,
    member raw 2 Decoder.string "", member raw 3 (Decoder.option Decoder.any) none⟩

/-- Decodes a notification. -/
def Notification.decode : Decoder Notification := fun v => do
  let raw ← readRecord "JsonRpcNotification"
    [.of "jsonrpc" Decoder.string .required, .of "method" Decoder.string .required,
     .of "params" (Decoder.option Decoder.any) .defaulted] v
  return ⟨member raw 0 Decoder.string "", member raw 1 Decoder.string "",
    member raw 2 (Decoder.option Decoder.any) none⟩

/-- Decodes a response. -/
def Response.decode : Decoder Response := fun v => do
  let raw ← readRecord "JsonRpcResponse"
    [.of "jsonrpc" Decoder.string .required, .of "id" Decoder.u64 .required,
     .of "result" (Decoder.option Decoder.any) .defaulted,
     .of "error" (Decoder.option RpcError.decode) .defaulted] v
  return ⟨member raw 0 Decoder.string "", member raw 1 Decoder.u64 0,
    member raw 2 (Decoder.option Decoder.any) none,
    member raw 3 (Decoder.option RpcError.decode) none⟩

/-- The params of a notification decoded as a record; absent params read as `{}`. -/
def Notification.paramsAs (n : Notification) (d : Decoder α) : Except DecodeError α :=
  d (n.params.getD (.obj []))

/-- A message received from a child. -/
inductive Incoming where
  | response (r : Response)
  | notification (n : Notification)

/-- One line of child output, classified. -/
inductive Line where
  /-- A framed message that decoded. -/
  | message (m : Incoming)
  /-- A framed payload that did not decode, and why. -/
  | malformed (raw : String) (reason : String)
  /-- Ordinary output. -/
  | output (text : String)

/-- Drops trailing carriage returns and newlines. -/
def trimLineEnd (s : String) : String :=
  String.ofList (s.toList.reverse.dropWhile (fun c => c == '\r' || c == '\n')).reverse

/-- Whether a JSON value has a non-null `id` member. -/
def hasId (v : Value) : Bool :=
  match v.get? "id" with
  | some .null => false
  | some _ => true
  | none => false

/-- Classifies one line read from a child process. -/
def classifyLine (line : String) : Line :=
  let trimmed := trimLineEnd line
  if trimmed.startsWith framePrefix then
    let payload := String.ofList (trimmed.toList.drop framePrefix.length)
    match readValue payload with
    | .error e => .malformed payload e.text
    | .ok v =>
      if hasId v then
        match Response.decode v with
        | .ok r => .message (.response r)
        | .error e => .malformed payload e.text
      else
        match Notification.decode v with
        | .ok n => .message (.notification n)
        | .error e => .malformed payload e.text
  else .output trimmed

end LiveSession.Rpc
