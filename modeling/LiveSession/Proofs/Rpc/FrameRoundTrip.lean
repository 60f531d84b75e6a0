import LiveSession.Rpc.Message
import LiveSession.Proofs.Json.RoundTrip
/-!
# Framed messages read back

A response or a notification written as a framed line, with any run of carriage returns and
newlines after it, is classified as that message again, up to one normal form: an explicit
`null` in `params`, `result` or an error's `data` reads back as absent (`Response.norm`,
`Notification.norm`). This holds of every message whose JSON form the compact text carries
exactly (`Value.faithful`) and whose error code is a signed 64-bit integer, exactly when the
message nests fewer than 128 containers deep, the reader's limit.

* `classifyLine_frameLine_norm_iff`: the round trip, as an `↔` on the depth, for responses and
  notifications; and every message a line is classified as is already in normal form, so
  framing and classifying are inverse on the messages that lines carry;
* `deep_notification_malformed`: a notification whose `params` nest 127 arrays deep is
  classified as malformed.

Responses and notifications are told apart by a non-null `id` (`hasId_response`,
`hasId_notification`); both decoders give back the normal form of what was written
(`Response.decode_toJson`, `Notification.decode_toJson`) and only ever return normal forms
(`Response.norm_of_decode`, `Notification.norm_of_decode`).
-/

namespace LiveSession.Rpc

open LiveSession.Json

/-! ### Messages as they read back -/

/-- An optional value with an explicit `null` made absent: a `null` reads back as no value. -/
def dropNull : Option Value → Option Value
  | some .null => none
  | v => v

/-- An error object as it reads back from its frame. -/
def RpcError.norm (e : RpcError) : RpcError := { e with data := dropNull e.data }

/-- A response as it reads back from its frame. -/
def Response.norm (r : Response) : Response :=
  { r with result := dropNull r.result, error := r.error.map RpcError.norm }

/-- A notification as it reads back from its frame. -/
def Notification.norm (n : Notification) : Notification := { n with params := dropNull n.params }

/-! ### The line around a framed payload -/

/-- Trailing carriage returns and newlines after a text that does not end in one are dropped,
and nothing else is. -/
theorem trimLineEnd_append (s : String) (ends : List Char)
    (hlast : ∀ ch ∈ s.toList.getLast?, (ch == '\r' || ch == '\n') = false)
    (hends : ∀ ch ∈ ends, ch = '\r' ∨ ch = '\n') :
    trimLineEnd (s ++ String.ofList ends) = s := by
  have hdrop : ∀ ch ∈ ends.reverse, (ch == '\r' || ch == '\n') = true := by
    intro ch hch
    rcases hends ch (List.mem_reverse.mp hch) with rfl | rfl <;> rfl
  rw [trimLineEnd, String.toList_append, String.toList_ofList, List.reverse_append,
    List.dropWhile_append_of_pos hdrop]
  cases hs : s.toList.reverse with
  | nil => simp_all
  | cons ch rest =>
    have hch : (ch == '\r' || ch == '\n') = false := by
      apply hlast
      rw [← List.head?_reverse, hs]; rfl
    rw [List.dropWhile_cons_of_neg (by simp [hch]), ← hs, List.reverse_reverse,
      String.ofList_toList]

/-- A framed line starts with the frame prefix. -/
theorem startsWith_framePrefix (t : String) : (framePrefix ++ t).startsWith framePrefix = true := by
  rw [String.startsWith, String.Slice.startsWith_string_iff]
  simp

/-- Dropping the frame prefix leaves the payload. -/
theorem payload_framePrefix (t : String) :
    String.ofList ((framePrefix ++ t).toList.drop framePrefix.length) = t := by
  rw [String.toList_append, ← String.length_toList, List.drop_left, String.ofList_toList]

/-- The compact text of an object ends in its closing brace. -/
theorem getLast_compact_obj (ms : List (String × Value)) :
    ((Value.obj ms).compact).toList.getLast? = some '}' := by
  simp only [Value.compact, String.toList_append]
  rw [List.getLast?_append]
  simp

/-- What a framed line becomes once its payload has been read as the value `v`: a response when
`v` has a non-null `id`, a notification otherwise, and malformed when that decoder refuses. -/
def classifyValue (payload : String) (v : Value) : Line :=
  if hasId v then
    match Response.decode v with
    | .ok r => .message (.response r)
    | .error e => .malformed payload e.text
  else
    match Notification.decode v with
    | .ok n => .message (.notification n)
    | .error e => .malformed payload e.text

/-- A framed object, whatever line ending follows it, is classified by reading its compact
text back. -/
theorem classifyLine_frameLine (ms : List (String × Value)) (ends : List Char)
    (hends : ∀ ch ∈ ends, ch = '\r' ∨ ch = '\n') :
    classifyLine (frameLine (.obj ms) ++ String.ofList ends) =
      match readValue (Value.obj ms).compact with
      | .error e => .malformed (Value.obj ms).compact e.text
      | .ok v => classifyValue (Value.obj ms).compact v := by
  have htrim : trimLineEnd (frameLine (.obj ms) ++ String.ofList ends) = frameLine (.obj ms) := by
    apply trimLineEnd_append _ _ _ hends
    intro ch hch
    rw [frameLine, String.toList_append, List.getLast?_append, getLast_compact_obj] at hch
    simp at hch
    subst hch; rfl
  simp only [classifyLine]
  rw [htrim]
  simp only [frameLine, startsWith_framePrefix, if_true, payload_framePrefix]
  rfl

/-! ### Decoding a message's JSON form -/

/-- The decoder of an optional value reads `null` as absent and keeps any other value. -/
theorem option_any_eq (v : Value) : Decoder.option Decoder.any v = .ok (dropNull (some v)) := by
  cases v <;> rfl

/-- A notification's JSON form has no `id` member. -/
theorem hasId_notification (n : Notification) : hasId n.toJson = false := by
  obtain ⟨jsonrpc, method, params⟩ := n
  cases params <;> simp [hasId, Notification.toJson, withOpt, Value.get?, List.lookup_cons]

/-- A response's JSON form has a non-null `id`. -/
theorem hasId_response (r : Response) : hasId r.toJson = true := by
  obtain ⟨jsonrpc, id, result, error⟩ := r
  cases result <;> cases error <;>
    simp [hasId, Response.toJson, withOpt, Value.get?, Value.nat, List.lookup_cons]

/-- A notification's JSON form decodes to its normal form. -/
theorem Notification.decode_toJson (n : Notification) :
    Notification.decode n.toJson = .ok n.norm := by
  obtain ⟨jsonrpc, method, params⟩ := n
  cases params <;>
    simp [Notification.decode, Notification.toJson, withOpt, readRecord, checkMembers,
      FieldSpec.of, member, Decoder.string, Notification.norm, dropNull, List.lookup_cons,
      bind, Except.bind, pure, Except.pure, option_any_eq]

/-- An error object with a signed 64-bit code decodes to its normal form. -/
theorem RpcError.decode_toJson (e : RpcError) (hcode : e.code < 9223372036854775808) :
    RpcError.decode e.toJson = .ok e.norm := by
  obtain ⟨code, message, data⟩ := e
  cases data <;>
    simp_all [RpcError.decode, RpcError.toJson, withOpt, readRecord, checkMembers, FieldSpec.of,
      member, Decoder.string, Decoder.i64, Value.int, RpcError.norm, dropNull,
      List.lookup_cons, bind, Except.bind, pure, Except.pure, option_any_eq]

/-- An error object decodes through the optional decoder of the `error` member. -/
theorem option_decode_toJson (e : RpcError) (hcode : e.code < 9223372036854775808) :
    Decoder.option RpcError.decode e.toJson = .ok (some e.norm) := by
  rw [RpcError.toJson, Decoder.option, ← RpcError.toJson, RpcError.decode_toJson e hcode]
  · rfl
  · intro h; cases h

/-- A response's JSON form decodes to its normal form when its error code is a signed 64-bit
integer. -/
theorem Response.decode_toJson (r : Response)
    (hcode : ∀ e ∈ r.error, e.code < 9223372036854775808) :
    Response.decode r.toJson = .ok r.norm := by
  obtain ⟨jsonrpc, id, result, error⟩ := r
  cases result <;> cases error <;>
    simp_all [Response.decode, Response.toJson, withOpt, readRecord, checkMembers, FieldSpec.of,
      member, Decoder.string, Decoder.u64, Value.nat, Response.norm, dropNull,
      List.lookup_cons, bind, Except.bind, pure, Except.pure, option_any_eq, option_decode_toJson]

/-! ### Decoded messages are in normal form -/

/-- Making a `null` absent twice is making it absent once. -/
theorem dropNull_dropNull (o : Option Value) : dropNull (dropNull o) = dropNull o := by
  rcases o with _ | (_ | _ | _ | _ | _ | _) <;> rfl

/-- An optional member decoded as any value is the member with a `null` made absent. -/
theorem member_option_any (raw : List (Option Value)) (i : Nat) :
    member raw i (Decoder.option Decoder.any) none = dropNull (raw.getD i none) := by
  unfold member
  cases raw.getD i none with
  | none => rfl
  | some v => simp only [option_any_eq]

/-- Every error object the decoder returns is in normal form. -/
theorem RpcError.norm_of_decode {v : Value} {e : RpcError} (h : RpcError.decode v = .ok e) :
    e.norm = e := by
  unfold RpcError.decode at h
  simp only [bind, Except.bind] at h
  split at h
  · cases h
  · simp only [pure, Except.pure, Except.ok.injEq] at h
    subst h
    simp [RpcError.norm, member_option_any, dropNull_dropNull]

/-- Every notification the decoder returns is in normal form. -/
theorem Notification.norm_of_decode {v : Value} {n : Notification}
    (h : Notification.decode v = .ok n) : n.norm = n := by
  unfold Notification.decode at h
  simp only [bind, Except.bind] at h
  split at h
  · cases h
  · simp only [pure, Except.pure, Except.ok.injEq] at h
    subst h
    simp [Notification.norm, member_option_any, dropNull_dropNull]

/-- An optional field that decodes to a value was decoded by the field's own decoder. -/
theorem ok_of_option_ok_some {d : Decoder α} {v : Value} {a : α}
    (h : Decoder.option d v = .ok (some a)) : d v = .ok a := by
  unfold Decoder.option at h
  split at h
  · cases h
  · cases hd : d v <;> simp_all [Except.map]

/-- The error the response decoder returns is itself in normal form. -/
theorem norm_member_error (raw : List (Option Value)) :
    (member raw 3 (Decoder.option RpcError.decode) none).map RpcError.norm =
      member raw 3 (Decoder.option RpcError.decode) none := by
  unfold member
  cases raw.getD 3 none with
  | none => rfl
  | some w =>
    simp only
    cases hw : Decoder.option RpcError.decode w with
    | error err => rfl
    | ok o =>
      cases o with
      | none => rfl
      | some e => simp [RpcError.norm_of_decode (ok_of_option_ok_some hw)]

/-- Every response the decoder returns is in normal form. -/
theorem Response.norm_of_decode {v : Value} {r : Response} (h : Response.decode v = .ok r) :
    r.norm = r := by
  unfold Response.decode at h
  simp only [bind, Except.bind] at h
  split at h
  · cases h
  · simp only [pure, Except.pure, Except.ok.injEq] at h
    subst h
    simp [Response.norm, member_option_any, dropNull_dropNull, norm_member_error]

/-! ### Framing and classifying are inverse -/

/-- The normal form of a received message. -/
def Incoming.norm : Incoming → Incoming
  | .response r => .response r.norm
  | .notification n => .notification n.norm

/-- A line classified as a message holds what the response or notification decoder returned. -/
theorem classifyLine_eq_message {line : String} {m : Incoming}
    (h : classifyLine line = .message m) :
    (∃ v r, Response.decode v = .ok r ∧ m = .response r) ∨
      (∃ v n, Notification.decode v = .ok n ∧ m = .notification n) := by
  unfold classifyLine at h
  dsimp only at h
  split at h
  case isFalse => cases h
  case isTrue =>
    split at h
    case h_1 => cases h
    case h_2 v _ =>
      split at h
      case isTrue =>
        split at h
        case h_1 r hr => cases h; exact .inl ⟨v, r, hr, rfl⟩
        case h_2 => cases h
      case isFalse =>
        split at h
        case h_1 n hn => cases h; exact .inr ⟨v, n, hn, rfl⟩
        case h_2 => cases h

/-- Every message a line is classified as is in normal form. -/
theorem norm_of_classifyLine {line : String} {m : Incoming}
    (h : classifyLine line = .message m) : m.norm = m := by
  rcases classifyLine_eq_message h with ⟨v, r, hr, rfl⟩ | ⟨v, n, hn, rfl⟩
  · rw [Incoming.norm, Response.norm_of_decode hr]
  · rw [Incoming.norm, Notification.norm_of_decode hn]

/-- A framed faithful object that its own decoder turns into the message `m` is classified as
`m` exactly when it nests fewer than 128 containers deep. -/
theorem classifyLine_frameLine_eq_message_iff (ms : List (String × Value)) (ends : List Char)
    (hends : ∀ ch ∈ ends, ch = '\r' ∨ ch = '\n') (hv : (Value.obj ms).faithful = true)
    {m : Incoming} (hm : classifyValue (Value.obj ms).compact (.obj ms) = .message m) :
    classifyLine (frameLine (.obj ms) ++ String.ofList ends) = .message m ↔
      (Value.obj ms).depth < 128 := by
  rw [classifyLine_frameLine ms ends hends]
  constructor
  · intro h
    rcases Nat.lt_or_ge (Value.obj ms).depth 128 with hd | hd
    · exact hd
    · -- too deep: the reader refuses, and the line is malformed
      obtain ⟨e, he⟩ := readValue_compact_deep _ hv hd
      rw [he] at h
      cases h
  · intro hd
    rw [readValue_compact _ hv hd]
    exact hm

/-- A framed response reads back as its normal form exactly when it nests fewer than 128 deep. -/
theorem classifyLine_frame_response (r : Response) (ends : List Char)
    (hv : r.toJson.faithful = true) (hcode : ∀ e ∈ r.error, e.code < 9223372036854775808)
    (hends : ∀ ch ∈ ends, ch = '\r' ∨ ch = '\n') :
    classifyLine (frameLine r.toJson ++ String.ofList ends) = .message (.response r.norm) ↔
      r.toJson.depth < 128 := by
  have hm : classifyValue r.toJson.compact r.toJson = .message (.response r.norm) := by
    simp only [classifyValue, hasId_response, if_true, Response.decode_toJson r hcode]
  exact classifyLine_frameLine_eq_message_iff _ ends hends hv hm

/-- A framed notification reads back as its normal form exactly when it nests fewer than 128
deep. -/
theorem classifyLine_frame_notification (n : Notification) (ends : List Char)
    (hv : n.toJson.faithful = true) (hends : ∀ ch ∈ ends, ch = '\r' ∨ ch = '\n') :
    classifyLine (frameLine n.toJson ++ String.ofList ends) = .message (.notification n.norm) ↔
      n.toJson.depth < 128 := by
  have hm : classifyValue n.toJson.compact n.toJson = .message (.notification n.norm) := by
    simp only [classifyValue, hasId_notification, Bool.false_eq_true, if_false,
      Notification.decode_toJson]
  exact classifyLine_frameLine_eq_message_iff _ ends hends hv hm

/-- Framing a message and classifying the line, whatever line ends follow it, gives the message
back in normal form exactly when it nests fewer than 128 containers deep; and a line is only
ever classified as a message in normal form. -/
theorem classifyLine_frameLine_norm_iff :
    (∀ (r : Response) (ends : List Char), r.toJson.faithful = true →
      (∀ e ∈ r.error, e.code < 9223372036854775808) →
      (∀ ch ∈ ends, ch = '\r' ∨ ch = '\n') →
      (classifyLine (frameLine r.toJson ++ String.ofList ends) = .message (.response r.norm) ↔
        r.toJson.depth < 128)) ∧
    (∀ (n : Notification) (ends : List Char), n.toJson.faithful = true →
      (∀ ch ∈ ends, ch = '\r' ∨ ch = '\n') →
      (classifyLine (frameLine n.toJson ++ String.ofList ends) = .message (.notification n.norm) ↔
        n.toJson.depth < 128)) ∧
    (∀ (line : String) (m : Incoming), classifyLine line = .message m → m.norm = m) :=
  ⟨classifyLine_frame_response, classifyLine_frame_notification,
    fun _ _ => norm_of_classifyLine⟩

/-- An error response and a notification, each with an explicit `null`, read back from their
frames with the `null` made absent. -/
theorem classifyLine_frameLine_crlf :
    classifyLine
        (frameLine (Response.toJson ⟨"2.0", 7, none, some ⟨-32001, "gone", some .null⟩⟩) ++
          String.ofList ['\r', '\n']) =
      .message (.response ⟨"2.0", 7, none, some ⟨-32001, "gone", none⟩⟩) ∧
    classifyLine (frameLine (Notification.toJson ⟨"2.0", "ready", some .null⟩) ++
        String.ofList ['\n']) =
      .message (.notification ⟨"2.0", "ready", none⟩) :=
  ⟨(classifyLine_frameLine_norm_iff.1 _ _ (by decide) (by decide) (by simp)).2 (by decide),
    (classifyLine_frameLine_norm_iff.2.1 _ _ (by decide) (by simp)).2 (by decide)⟩

/-! ### The depth limit -/

/-- Arrays nested `k + 1` deep, the innermost empty. -/
def nestedArrays : Nat → Value
  | 0 => .arr []
  | k + 1 => .arr [nestedArrays k]

theorem nestedArrays_faithful (k : Nat) : (nestedArrays k).faithful = true := by
  induction k with
  | zero => rfl
  | succ k ih => simp [nestedArrays, Value.faithful, itemsFaithful, ih]

theorem nestedArrays_depth (k : Nat) : (nestedArrays k).depth = k + 1 := by
  induction k with
  | zero => rfl
  | succ k ih => simp [nestedArrays, Value.depth, itemsDepth, ih]

/-- A notification whose params nest 127 arrays deep, so the message nests 128 deep. -/
def deepNotification : Notification := ⟨"2.0", "m", some (nestedArrays 126)⟩

/-- A notification nested 128 deep is framed, but its line is malformed. -/
theorem deep_notification_malformed :
    ∃ reason, classifyLine (frameLine deepNotification.toJson) =
      .malformed deepNotification.toJson.compact reason := by
  have hv : deepNotification.toJson.faithful = true := by
    simp [deepNotification, Notification.toJson, withOpt, Value.faithful, membersFaithful,
      nestedArrays_faithful]
  have hd : 128 ≤ deepNotification.toJson.depth := by
    simp [deepNotification, Notification.toJson, withOpt, Value.depth, membersDepth,
      nestedArrays_depth]
  obtain ⟨e, he⟩ := readValue_compact_deep _ hv hd
  obtain ⟨ms, hms⟩ : ∃ ms, deepNotification.toJson = .obj ms := ⟨_, rfl⟩
  have hline := classifyLine_frameLine ms [] (fun _ h => nomatch h)
  rw [String.ofList_nil, String.append_empty, ← hms, he] at hline
  exact ⟨e.text, hline⟩

end LiveSession.Rpc
