import Mathlib
import LiveSession.Supervisor.Client
/-!
# Steps of the bridge client

Every step of the bridge client keeps two invariants, whether a request, the reader or the
process takes it. `Client.Coherent` is about routing: the pending map holds one entry per id,
and registers each request under its own id exactly while the request can still receive; a reply
a request holds bears its id, and every failure is a bridge error. `Client.Serial` is about ids:
they are handed out in order from 1 by a 64-bit counter that wraps round, so below `2^64`
requests no two requests share one. On top of them, `Client.Coherent.step_moves` says once what
one step can do to one request (`Client.Moves`), and later facts about a request are read off
its moves.

* `Client.Coherent.run`, `Client.Serial.run`: both invariants hold after every run from a fresh
  client;
* `Client.Serial.id_inj`: below `2^64` requests, requests sent under one id are one request;
* `Client.Coherent.step_moves`: a step keeps a request's command and id and moves its state by
  one of the `Moves`;
* `Client.Coherent.step_line_listening`: a response read while a request listens under the
  response's id reaches that request.
-/

namespace LiveSession.Supervisor

open LiveSession.Json LiveSession.Rpc LiveSession.Session

/-! ### Where a request can stand -/

namespace CallState

/-- Holding its receiver with nothing in it yet. -/
def Listening : CallState → Prop
  | .writing .empty | .waiting .empty => True
  | _ => False

/-- A state whose sender can still be in the pending map: listening, or timed out with its id
not yet taken out. -/
def Registered : CallState → Prop
  | .writing .empty | .waiting .empty | .expiring => True
  | _ => False

/-- The reply `r` is in the request's hands: received, or taken. -/
def Holds (r : Response) : CallState → Prop
  | .writing (.reply r') | .waiting (.reply r') | .answered r' => r' = r
  | _ => False

/-- Finished, with a reply or an error. -/
def Finished : CallState → Prop
  | .answered _ | .failed _ => True
  | _ => False

/-- How many steps of its own the request still takes at most. -/
def rank : CallState → Nat
  | .writing _ => 3
  | .waiting _ => 2
  | .expiring => 1
  | _ => 0

/-- A request has no steps left exactly when it has finished. -/
theorem rank_eq_zero_iff {s : CallState} : s.rank = 0 ↔ s.Finished := by
  rcases s with _ | _ | _ | _ | _ <;> simp [rank, Finished]

end CallState

/-! ### What each step does to one request -/

namespace Call

theorem deliver_eq (r : Response) (c : Call) :
    c.deliver r = { c with state := (c.deliver r).state } := by
  unfold deliver; split <;> rfl

@[simp] theorem id_deliver (r : Response) (c : Call) : (c.deliver r).id = c.id := by
  unfold deliver; split <;> rfl

@[simp] theorem command_drop (c : Call) : c.drop.command = c.command := by
  unfold drop; split <;> rfl

@[simp] theorem id_drop (c : Call) : c.drop.id = c.id := by
  unfold drop; split <;> rfl

theorem not_listening_drop (c : Call) : ¬ c.drop.state.Listening := by
  rcases c with ⟨cmd, i, (_ | _ | _) | (_ | _ | _) | _ | _ | _⟩ <;>
    simp [drop, CallState.Listening]

/-- Dropping a sender takes no reply out of a request's hands and puts none in. -/
theorem holds_drop {c : Call} {r : Response} : c.drop.state.Holds r ↔ c.state.Holds r := by
  rcases c with ⟨cmd, i, (_ | _ | _) | (_ | _ | _) | _ | _ | _⟩ <;>
    simp [drop, CallState.Holds]

/-- Dropping a sender leaves a failure as it is and makes none. -/
theorem drop_eq_failed {c : Call} {e : ContainerError} :
    c.drop.state = .failed e ↔ c.state = .failed e := by
  rcases c with ⟨cmd, i, (_ | _ | _) | (_ | _ | _) | _ | _ | _⟩ <;> simp [drop]

/-- Two requests with the same command, id and state are the same. -/
theorem ext_state {c c' : Call} (hcmd : c'.command = c.command) (hid : c'.id = c.id)
    (hs : c'.state = c.state) : c' = c := by
  cases c; cases c'; simp_all

end Call

/-- In a map with one entry per key, a key has one value. -/
theorem eq_of_mem_keys {l : List (Nat × Nat)} (hl : (l.map Prod.fst).Nodup) {i j k : Nat}
    (hj : (i, j) ∈ l) (hk : (i, k) ∈ l) : j = k :=
  (Prod.ext_iff.mp (List.inj_on_of_nodup_map hl hj hk rfl)).2

theorem mem_of_lookup {l : List (Nat × Nat)} {i k : Nat} (h : l.lookup i = some k) :
    (i, k) ∈ l := by
  obtain ⟨l₁, l₂, rfl, -⟩ := List.lookup_eq_some_iff.mp h
  simp

/-- In a map with one entry per key, looking a key up finds its entry. -/
theorem lookup_of_mem {l : List (Nat × Nat)} (hl : (l.map Prod.fst).Nodup) {i k : Nat}
    (h : (i, k) ∈ l) : l.lookup i = some k := by
  obtain ⟨j, hj⟩ : ∃ j, l.lookup i = some j :=
    Option.isSome_iff_exists.mp (List.lookup_isSome_iff.mpr ⟨_, h, by simp⟩)
  rw [hj, eq_of_mem_keys hl (mem_of_lookup hj) h]

namespace Client

variable {cl : Client} {k j : Nat} {p : CallState}

@[simp] theorem setState_pending : (cl.setState k p).pending = cl.pending := rfl

@[simp] theorem setState_nextId : (cl.setState k p).nextId = cl.nextId := rfl

@[simp] theorem setState_length : (cl.setState k p).calls.length = cl.calls.length := by
  simp [setState]

theorem setState_get : (cl.setState k p).calls[j]? =
    if k = j then (cl.calls[j]?).map fun c => { c with state := p } else cl.calls[j]? := by
  by_cases h : k = j
  · subst h; simp [setState]
  · simp [setState, h]

theorem get_setState_eq_some {c' : Call} : (cl.setState k p).calls[j]? = some c' ↔
    (k = j ∧ ∃ c, cl.calls[j]? = some c ∧ c' = { c with state := p }) ∨
      (k ≠ j ∧ cl.calls[j]? = some c') := by
  rw [setState_get]
  by_cases h : k = j
  · subst h
    simp only [if_true, Option.map_eq_some_iff, true_and, ne_eq, not_true_eq_false, false_and,
      or_false]
    constructor <;> rintro ⟨c, hc, rfl⟩ <;> exact ⟨c, hc, rfl⟩
  · simp [h]

theorem get_setState_self {c : Call} (hk : cl.calls[k]? = some c) :
    (cl.setState k p).calls[k]? = some { c with state := p } := by
  simp [setState_get, hk]

theorem get_setState_of_ne (h : j ≠ k) : (cl.setState j p).calls[k]? = cl.calls[k]? := by
  simp [setState_get, h]

@[simp] theorem forget_nextId {i : Nat} : (cl.forget i).nextId = cl.nextId := rfl

/-- Taking an id out of the map drops the sender registered under it, and only that one. -/
theorem get_forget {i : Nat} : (cl.forget i).calls[j]? =
    (cl.calls[j]?).map fun c => if cl.pending.lookup i = some j then c.drop else c := by
  unfold forget
  cases hl : cl.pending.lookup i with
  | none => simp
  | some j' =>
    rw [List.getElem?_modify]
    by_cases h : j' = j <;> simp [h]

@[simp] theorem forget_length {i : Nat} : (cl.forget i).calls.length = cl.calls.length := by
  unfold forget; split <;> simp

theorem mem_forget_pending {i : Nat} {q : Nat × Nat} :
    q ∈ (cl.forget i).pending ↔ q ∈ cl.pending ∧ q.1 ≠ i := by
  simp [forget]

theorem get_forget_setState_self {i : Nat} {c : Call} (hk : cl.calls[k]? = some c) :
    ((cl.forget i).setState k p).calls[k]? = some { c with state := p } := by
  rw [setState_get, if_pos rfl, get_forget, hk]
  split <;> simp

theorem get_markExited : cl.markExited.calls[j]? =
    (cl.calls[j]?).map fun c => if (cl.pending.map Prod.snd).contains j then c.drop else c := by
  simp [markExited]

/-- A response routed to request `k` changes only its state. -/
theorem modify_deliver {l : List Call} {c : Call} (hk : l[k]? = some c) (r : Response) :
    l.modify k (Call.deliver r) =
      l.modify k fun c' => { c' with state := (c.deliver r).state } := by
  apply List.ext_getElem?
  intro j
  rw [List.getElem?_modify, List.getElem?_modify]
  by_cases hj : k = j
  · subst hj
    rw [hk]
    simp only [if_true, Option.map_eq_map, Option.map_some]
    rw [Call.deliver_eq]
  · simp [hj]

/-- Routing a response to the request registered under its id: the id leaves the map and the
request's state takes the reply. -/
theorem complete_of_lookup {r : Response} {c : Call} (hl : cl.pending.lookup r.id = some k)
    (hk : cl.calls[k]? = some c) :
    cl.complete r = (cl.forget r.id).setState k (c.deliver r).state := by
  unfold Client.complete Client.forget Client.setState
  rw [hl]
  simp only [modify_deliver hk, List.modify_modify_eq]
  congr 3
  funext c'
  simp

theorem get_append_singleton {l : List Call} {a b : Call} {j : Nat} :
    (l ++ [a])[j]? = some b ↔ l[j]? = some b ∨ (j = l.length ∧ b = a) := by
  rcases Nat.lt_or_ge j l.length with hj | hj
  · rw [List.getElem?_append_left hj]
    constructor
    · exact Or.inl
    · rintro (h | ⟨rfl, -⟩)
      · exact h
      · exact absurd hj (Nat.lt_irrefl _)
  · rw [List.getElem?_append_right hj, List.getElem?_eq_none hj]
    rcases Nat.eq_or_lt_of_le hj with rfl | hlt
    · simp [eq_comm]
    · have hnone : [a][j - l.length]? = none :=
        List.getElem?_eq_none (by rw [List.length_singleton]; omega)
      rw [hnone]
      constructor
      · intro h; cases h
      · rintro (h | ⟨rfl, -⟩)
        · cases h
        · exact absurd hlt (Nat.lt_irrefl _)

/-! ### Routing -/

/-- What every client reached by steps from a fresh one satisfies about the pending map. -/
structure Coherent (cl : Client) : Prop where
  /-- A request without an id was refused. -/
  unsent : ∀ (k : Nat) (c : Call), cl.calls[k]? = some c → c.id = none →
    c.state = .failed exitedError
  /-- The pending map registers requests under their own ids, in states that can be
  registered. -/
  registered : ∀ i k : Nat, (i, k) ∈ cl.pending →
    ∃ c, cl.calls[k]? = some c ∧ c.id = some i ∧ c.state.Registered
  /-- A listening request is registered. -/
  listening : ∀ (k : Nat) (c : Call), cl.calls[k]? = some c → c.state.Listening →
    ∃ i, c.id = some i ∧ (i, k) ∈ cl.pending
  /-- A reply in a request's hands bears the request's id. -/
  holds_own : ∀ (k : Nat) (c : Call) (r : Response), cl.calls[k]? = some c → c.state.Holds r →
    c.id = some r.id
  /-- Every failure is a bridge error. -/
  failed_bridge : ∀ (k : Nat) (c : Call) (e : ContainerError), cl.calls[k]? = some c →
    c.state = .failed e → ∃ m, e = .bridge m
  /-- The pending map holds one entry per id. -/
  keys_nodup : (cl.pending.map Prod.fst).Nodup

theorem coherent_init (t : Nat) : ({ timeoutMs := t } : Client).Coherent where
  unsent := by simp
  registered := by simp
  listening := by simp
  holds_own := by simp
  failed_bridge := by simp
  keys_nodup := List.nodup_nil

/-- Moving request `k` to a new state while keeping a part of the pending map keeps the
invariant, when the part kept holds the other requests' entries and agrees with the new state. -/
theorem Coherent.update (h : cl.Coherent) {c : Call} (hk : cl.calls[k]? = some c)
    (hid : c.id ≠ none) {P : List (Nat × Nat)} (hsub : P.Sublist cl.pending)
    (hkeep : ∀ q ∈ cl.pending, q.2 ≠ k → q ∈ P)
    (hreg : ∀ i, (i, k) ∈ P → p.Registered)
    (hlisten : p.Listening → ∃ i, c.id = some i ∧ (i, k) ∈ P)
    (hholds : ∀ r, p.Holds r → c.id = some r.id)
    (hfail : ∀ e, p = .failed e → ∃ m, e = .bridge m) :
    ({ cl.setState k p with pending := P } : Client).Coherent where
  unsent := by
    intro j c' hj hn
    rcases get_setState_eq_some.mp hj with ⟨rfl, c₀, hc₀, rfl⟩ | ⟨-, hj⟩
    · rw [hk] at hc₀; cases hc₀; exact absurd hn hid
    · exact h.unsent _ _ hj hn
  registered := by
    intro i j hij
    obtain ⟨c₀, hc₀, hi, hr⟩ := h.registered i j (hsub.subset hij)
    by_cases hkj : k = j
    · subst hkj
      rw [hk] at hc₀; cases hc₀
      exact ⟨{ c with state := p }, by simp [setState_get, hk], hi, hreg i hij⟩
    · exact ⟨c₀, by simp [setState_get, hkj, hc₀], hi, hr⟩
  listening := by
    intro j c' hj hl
    rcases get_setState_eq_some.mp hj with ⟨rfl, c₀, hc₀, rfl⟩ | ⟨hkj, hj⟩
    · rw [hk] at hc₀; cases hc₀; exact hlisten hl
    · obtain ⟨i, hi, hmem⟩ := h.listening _ _ hj hl
      exact ⟨i, hi, hkeep _ hmem (Ne.symm hkj)⟩
  holds_own := by
    intro j c' r hj hr
    rcases get_setState_eq_some.mp hj with ⟨rfl, c₀, hc₀, rfl⟩ | ⟨-, hj⟩
    · rw [hk] at hc₀; cases hc₀; exact hholds r hr
    · exact h.holds_own _ _ _ hj hr
  failed_bridge := by
    intro j c' e hj he
    rcases get_setState_eq_some.mp hj with ⟨rfl, c₀, hc₀, rfl⟩ | ⟨-, hj⟩
    · exact hfail e he
    · exact h.failed_bridge _ _ _ hj he
  keys_nodup := (hsub.map _).nodup h.keys_nodup

/-- Moving one request to a new state that agrees with the pending map keeps the invariant. -/
theorem Coherent.setState (h : cl.Coherent) {c : Call} (hk : cl.calls[k]? = some c)
    (hid : c.id ≠ none) (hreg : ∀ i, (i, k) ∈ cl.pending → p.Registered)
    (hlisten : p.Listening → ∃ i, c.id = some i ∧ (i, k) ∈ cl.pending)
    (hholds : ∀ r, p.Holds r → c.id = some r.id)
    (hfail : ∀ e, p = .failed e → ∃ m, e = .bridge m) : (cl.setState k p).Coherent :=
  h.update hk hid (List.Sublist.refl _) (fun _ hq _ => hq) hreg hlisten hholds hfail

/-- Dropping the senders of some requests keeps the invariant, when their entries leave the
pending map and the others' stay. -/
theorem Coherent.dropSenders (h : cl.Coherent) {cl' : Client} (D : Nat → Prop) [DecidablePred D]
    (hcalls : ∀ j, cl'.calls[j]? = (cl.calls[j]?).map fun c => if D j then c.drop else c)
    (hsub : cl'.pending.Sublist cl.pending) (hkeep : ∀ q ∈ cl.pending, ¬ D q.2 → q ∈ cl'.pending)
    (hdrop : ∀ q ∈ cl'.pending, ¬ D q.2) : cl'.Coherent := by
  -- each request is the old one, kept, or the old one with its sender dropped
  have old : ∀ {j : Nat} {c' : Call}, cl'.calls[j]? = some c' →
      ∃ c, cl.calls[j]? = some c ∧ (¬ D j ∧ c' = c ∨ c' = c.drop) := by
    intro j c' hj
    rw [hcalls, Option.map_eq_some_iff] at hj
    obtain ⟨c, hc, rfl⟩ := hj
    refine ⟨c, hc, ?_⟩
    by_cases hD : D j <;> simp [hD]
  constructor
  · intro j c' hj hn
    obtain ⟨c, hc, ⟨-, rfl⟩ | rfl⟩ := old hj
    · exact h.unsent j c' hc hn
    · exact Call.drop_eq_failed.mpr (h.unsent j c hc (by simpa using hn))
  · intro i j hij
    obtain ⟨c, hc, hi, hr⟩ := h.registered i j (hsub.subset hij)
    refine ⟨c, ?_, hi, hr⟩
    simp [hcalls, hc, hdrop _ hij]
  · intro j c' hj hl
    obtain ⟨c, hc, ⟨hD, rfl⟩ | rfl⟩ := old hj
    · obtain ⟨i, hi, hmem⟩ := h.listening j c' hc hl
      exact ⟨i, hi, hkeep _ hmem hD⟩
    · exact absurd hl (Call.not_listening_drop c)
  · intro j c' r hj hr
    obtain ⟨c, hc, ⟨-, rfl⟩ | rfl⟩ := old hj
    · exact h.holds_own j c' r hc hr
    · rw [Call.id_drop]
      exact h.holds_own j c r hc (Call.holds_drop.mp hr)
  · intro j c' e hj he
    obtain ⟨c, hc, ⟨-, rfl⟩ | rfl⟩ := old hj
    · exact h.failed_bridge j c' e hc he
    · exact h.failed_bridge j c e hc (Call.drop_eq_failed.mp he)
  · exact (hsub.map _).nodup h.keys_nodup

/-- Taking an id out of the map keeps the invariant: the sender registered under it is the
one dropped. -/
theorem Coherent.forget (h : cl.Coherent) (i : Nat) : (cl.forget i).Coherent := by
  refine h.dropSenders (fun j => cl.pending.lookup i = some j) (fun _ => get_forget)
    List.filter_sublist ?_ ?_
  · -- an entry for a request not registered under `i` has another key
    rintro ⟨i', j'⟩ hq hD
    refine mem_forget_pending.mpr ⟨hq, fun hi => hD ?_⟩
    subst hi
    exact lookup_of_mem h.keys_nodup hq
  · -- the request registered under `i` has no entry under another key
    rintro ⟨i', j'⟩ hq hD
    obtain ⟨hq, hne⟩ := mem_forget_pending.mp hq
    obtain ⟨c, hc, hid, -⟩ := h.registered _ _ (mem_of_lookup hD)
    obtain ⟨c', hc', hid', -⟩ := h.registered _ _ hq
    rw [hc] at hc'; cases hc'
    exact hne (Option.some.inj (hid'.symm.trans hid))

/-- A request that takes its own id out of the map and moves to a state needing no
registration keeps the invariant. -/
theorem Coherent.forget_setState (h : cl.Coherent) {c : Call} {i : Nat}
    (hk : cl.calls[k]? = some c) (hid : c.id = some i) (hlisten : ¬ p.Listening)
    (hholds : ∀ r, p.Holds r → c.id = some r.id)
    (hfail : ∀ e, p = .failed e → ∃ m, e = .bridge m) :
    ((cl.forget i).setState k p).Coherent := by
  obtain ⟨c', hc', hid'⟩ : ∃ c', (cl.forget i).calls[k]? = some c' ∧ c'.id = c.id := by
    rw [get_forget, hk]
    exact ⟨_, rfl, by split <;> simp⟩
  refine (h.forget i).setState hc' (by simp [hid', hid]) ?_ (fun h' => absurd h' hlisten)
    (by rwa [hid']) hfail
  -- the request's only entry could be under its own id, which is gone
  intro i' hi'
  obtain ⟨hmem, hne⟩ := mem_forget_pending.mp hi'
  obtain ⟨c'', hc'', hid'', -⟩ := h.registered i' k hmem
  rw [hk] at hc''; cases hc''
  exact absurd (Option.some.inj (hid''.symm.trans hid)) hne

/-- A request in a state that cannot be registered has no entry in the pending map. -/
theorem Coherent.not_mem_pending (h : cl.Coherent) {c : Call} (hk : cl.calls[k]? = some c)
    (hs : ¬ c.state.Registered) (i : Nat) : (i, k) ∉ cl.pending := by
  intro hi
  obtain ⟨c', hc', -, hreg⟩ := h.registered i k hi
  rw [hk] at hc'; cases hc'
  exact hs hreg

/-- A request that was not refused has an id. -/
theorem Coherent.id_ne_none (h : cl.Coherent) {c : Call} (hk : cl.calls[k]? = some c)
    (hs : c.state ≠ .failed exitedError) : c.id ≠ none :=
  fun hn => hs (h.unsent k c hk hn)

/-! ### Each step keeps the routing invariant -/

/-- Appending a request keeps the invariant when it is refused and the map stays, or when it is
sent under an id the map does not hold and registered under that id. -/
theorem Coherent.append (h : cl.Coherent) {cl' : Client} {c : Call}
    (hcalls : cl'.calls = cl.calls ++ [c])
    (hnew : (c.id = none ∧ c.state = .failed exitedError ∧ cl'.pending = cl.pending) ∨
      ∃ i, c.id = some i ∧ c.state = .writing .empty ∧ i ∉ cl.pending.map Prod.fst ∧
        cl'.pending = (i, cl.calls.length) :: cl.pending) : cl'.Coherent := by
  -- the old entries stay, and the only new one is the new request's, under its id
  have hold : ∀ q ∈ cl.pending, q ∈ cl'.pending := by
    rcases hnew with ⟨-, -, hp⟩ | ⟨i, -, -, -, hp⟩ <;> rw [hp] <;> simp_all
  have hpend : ∀ q ∈ cl'.pending, q ∈ cl.pending ∨
      ∃ i, c.id = some i ∧ c.state = .writing .empty ∧ q = (i, cl.calls.length) := by
    rcases hnew with ⟨-, -, hp⟩ | ⟨i, hi, hs, -, hp⟩ <;> rw [hp] <;> intro q hq
    · exact .inl hq
    · rcases List.mem_cons.mp hq with rfl | hq
      · exact .inr ⟨i, hi, hs, rfl⟩
      · exact .inl hq
  have hget : ∀ {j : Nat} {c' : Call}, cl'.calls[j]? = some c' →
      cl.calls[j]? = some c' ∨ (j = cl.calls.length ∧ c' = c) := by
    intro j c' hj
    rw [hcalls] at hj
    exact get_append_singleton.mp hj
  have hlift : ∀ {j : Nat} {c' : Call}, cl.calls[j]? = some c' → cl'.calls[j]? = some c' := by
    intro j c' hj
    rw [hcalls]
    exact get_append_singleton.mpr (.inl hj)
  have hself : cl'.calls[cl.calls.length]? = some c := by
    rw [hcalls]
    exact get_append_singleton.mpr (.inr ⟨rfl, rfl⟩)
  constructor
  · intro j c' hj hn
    rcases hget hj with hj | ⟨-, rfl⟩
    · exact h.unsent _ _ hj hn
    · rcases hnew with ⟨-, hs, -⟩ | ⟨i, hi, -⟩
      · exact hs
      · rw [hi] at hn; cases hn
  · intro i j hij
    rcases hpend _ hij with hij | ⟨i', hi', hs, heq⟩
    · obtain ⟨c', hc', hi, hr⟩ := h.registered i j hij
      exact ⟨c', hlift hc', hi, hr⟩
    · cases heq
      exact ⟨c, hself, hi', by rw [hs]; trivial⟩
  · intro j c' hj hl
    rcases hget hj with hj | ⟨rfl, rfl⟩
    · obtain ⟨i, hi, hmem⟩ := h.listening _ _ hj hl
      exact ⟨i, hi, hold _ hmem⟩
    · rcases hnew with ⟨-, hs, -⟩ | ⟨i, hi, -, -, hp⟩
      · rw [hs] at hl; cases hl
      · exact ⟨i, hi, by simp [hp]⟩
  · intro j c' r hj hr
    rcases hget hj with hj | ⟨-, rfl⟩
    · exact h.holds_own _ _ _ hj hr
    · rcases hnew with ⟨-, hs, -⟩ | ⟨i, -, hs, -⟩ <;> rw [hs] at hr <;> cases hr
  · intro j c' e hj he
    rcases hget hj with hj | ⟨-, rfl⟩
    · exact h.failed_bridge _ _ _ hj he
    · rcases hnew with ⟨-, hs, -⟩ | ⟨i, -, hs, -⟩ <;> rw [hs] at he <;> cases he
      exact ⟨_, rfl⟩
  · rcases hnew with ⟨-, -, hp⟩ | ⟨i, -, -, hfresh, hp⟩ <;> rw [hp]
    · exact h.keys_nodup
    · exact List.nodup_cons.mpr ⟨hfresh, h.keys_nodup⟩

theorem Coherent.send (h : cl.Coherent) (cmd : Command) : (cl.send cmd).Coherent := by
  unfold Client.send
  split
  case isTrue =>
    -- the next id's old entry is gone, so the new request's entry is the only one under it
    refine (h.forget cl.nextId.toNat).append rfl (.inr ⟨_, rfl, rfl, fun hmem => ?_, ?_⟩)
    · obtain ⟨q, hq, hq1⟩ := List.mem_map.mp hmem
      exact (mem_forget_pending.mp hq).2 hq1
    · rw [forget_length]
  case isFalse => exact h.append rfl (.inl ⟨rfl, rfl, rfl⟩)

theorem Coherent.written (h : cl.Coherent) (k : Nat) (err : Option String) :
    (cl.written k err).Coherent := by
  unfold Client.written
  split
  case h_1 cmd i inbox hk =>
    cases err with
    | none =>
      -- the request keeps its inbox and its registration, and only stops writing
      refine h.setState hk (by simp) ?_ ?_ ?_ (fun e he => by cases he)
      · intro i' hi'
        obtain ⟨c', hc', -, hr⟩ := h.registered i' k hi'
        rw [hk] at hc'; cases hc'
        cases inbox <;> simp_all [CallState.Registered]
      · intro hl
        exact h.listening k _ hk (by cases inbox <;> simp_all [CallState.Listening])
      · intro r hr
        exact h.holds_own k _ r hk (by cases inbox <;> simp_all [CallState.Holds])
    | some e =>
      exact h.forget_setState hk rfl (by simp [CallState.Listening])
        (fun r hr => by simp [CallState.Holds] at hr)
        (fun e' he' => by cases he'; exact ⟨e, rfl⟩)
  case h_2 => exact h

theorem Coherent.receive (h : cl.Coherent) (k : Nat) : (cl.receive k).Coherent := by
  unfold Client.receive
  split
  case h_1 cmd i r hk =>
    exact h.setState hk (h.id_ne_none hk (by simp))
      (fun i' hi' => absurd hi' (h.not_mem_pending hk (by simp [CallState.Registered]) i'))
      (fun hl => by cases hl) (fun r' hr' => h.holds_own k _ r' hk hr') (fun e he => by cases he)
  case h_2 cmd i hk =>
    exact h.setState hk (h.id_ne_none hk (by simp))
      (fun i' hi' => absurd hi' (h.not_mem_pending hk (by simp [CallState.Registered]) i'))
      (fun hl => by cases hl) (fun r hr => by cases hr)
      (fun e he => by cases he; exact ⟨_, rfl⟩)
  case h_3 => exact h

theorem Coherent.elapse (h : cl.Coherent) (k : Nat) : (cl.elapse k).Coherent := by
  unfold Client.elapse
  split
  case h_1 cmd i hk =>
    exact h.setState hk (h.id_ne_none hk (by simp)) (fun _ _ => trivial) (fun hl => by cases hl)
      (fun r hr => by cases hr) (fun e he => by cases he)
  case h_2 => exact h

theorem Coherent.expire (h : cl.Coherent) (k : Nat) : (cl.expire k).Coherent := by
  unfold Client.expire
  split
  case h_1 cmd i hk =>
    exact h.forget_setState hk rfl (fun hl => by cases hl) (fun r hr => by cases hr)
      (fun e he => by cases he; exact ⟨_, rfl⟩)
  case h_2 => exact h

theorem Coherent.complete (h : cl.Coherent) (r : Response) : (cl.complete r).Coherent := by
  cases hl : cl.pending.lookup r.id with
  | none =>
    unfold Client.complete
    rw [hl]
    exact h
  | some k =>
    obtain ⟨c, hc, hid, hreg⟩ := h.registered _ _ (mem_of_lookup hl)
    rw [complete_of_lookup hl hc]
    -- a registered request is writing or waiting with nothing received, or timed out
    rcases c with ⟨cmd, i, (_ | _ | _) | (_ | _ | _) | _ | _ | _⟩ <;>
      simp only [CallState.Registered] at hreg <;>
      refine h.forget_setState hc hid ?_ ?_ ?_ <;>
      simp_all [Call.deliver, CallState.Listening, CallState.Holds]

theorem Coherent.markExited (h : cl.Coherent) : cl.markExited.Coherent :=
  -- every registered sender is dropped, and the map is emptied
  h.dropSenders (fun j => (cl.pending.map Prod.snd).contains j = true) (fun _ => get_markExited)
    (List.nil_sublist _)
    (fun _ hq hD => absurd (List.contains_iff_mem.mpr (List.mem_map_of_mem hq)) hD)
    (fun _ hq => by cases hq)

theorem Coherent.step (h : cl.Coherent) : ∀ e, (cl.step e).Coherent
  | .send cmd => h.send cmd
  | .written k err => h.written k err
  | .line l => by
    simp only [Client.step]
    split
    · exact h.complete _
    · exact h
  | .exit => h.markExited
  | .receive k => h.receive k
  | .elapse k => h.elapse k
  | .expire k => h.expire k

@[simp] theorem run_nil : cl.run [] = cl := rfl

@[simp] theorem run_cons (e : Event) (evs : List Event) : cl.run (e :: evs) = (cl.step e).run evs :=
  rfl

theorem run_append (evs evs' : List Event) : cl.run (evs ++ evs') = (cl.run evs).run evs' := by
  simp [run, List.foldl_append]

/-- Every client reached by steps keeps the routing invariant. -/
theorem Coherent.run (h : cl.Coherent) (evs : List Event) : (cl.run evs).Coherent := by
  induction evs generalizing cl with
  | nil => exact h
  | cons e evs ih => exact ih (h.step e)

/-! ### Ids -/

/-- How many of the first `k` requests were sent, that is, not refused. -/
def sentBefore (cl : Client) (k : Nat) : Nat :=
  ((cl.calls.map Call.id).take k).countP Option.isSome

theorem sentBefore_le : cl.sentBefore k ≤ k :=
  Nat.le_trans List.countP_le_length (by simp only [List.length_take]; exact Nat.min_le_left _ _)

/-- A request sent before request `k` makes the count before `k` grow. -/
theorem sentBefore_lt {c : Call} (hj : cl.calls[j]? = some c) (hs : c.id.isSome) (hjk : j < k) :
    cl.sentBefore j < cl.sentBefore k := by
  have hsucc : cl.sentBefore (j + 1) = cl.sentBefore j + 1 := by
    simp [sentBefore, List.take_add_one, List.getElem?_map, hj, hs]
  have hmono : cl.sentBefore (j + 1) ≤ cl.sentBefore k :=
    (List.take_sublist_take_left hjk).countP_le
  omega

/-- Ids are handed out in order from 1 by a 64-bit counter: request `k` is sent under one more
than the number of requests sent before it, modulo `2^64`, and the counter holds the id of the
next one. -/
structure Serial (cl : Client) : Prop where
  id_eq : ∀ (k : Nat) (c : Call) (i : Nat), cl.calls[k]? = some c → c.id = some i →
    i = (cl.sentBefore k + 1) % 2 ^ 64
  nextId_eq : cl.nextId.toNat = (cl.sentBefore cl.calls.length + 1) % 2 ^ 64

theorem serial_init (t : Nat) : ({ timeoutMs := t } : Client).Serial where
  id_eq := by simp
  nextId_eq := by simp [sentBefore]

/-- A step that keeps every request's id and the counter keeps the numbering. -/
theorem Serial.of_ids (h : cl.Serial) {cl' : Client}
    (hids : ∀ j : Nat, (cl'.calls[j]?).map Call.id = (cl.calls[j]?).map Call.id)
    (hnext : cl'.nextId = cl.nextId) : cl'.Serial := by
  have hmap : cl'.calls.map Call.id = cl.calls.map Call.id :=
    List.ext_getElem? fun (j : Nat) => by simpa only [List.getElem?_map] using hids j
  have hsent : cl'.sentBefore = cl.sentBefore := by
    funext k
    simp only [sentBefore, hmap]
  have hlen : cl'.calls.length = cl.calls.length := by
    simpa using congrArg List.length hmap
  constructor
  · intro k c' i hk hi
    have hk' := hids k
    rw [hk, Option.map_some] at hk'
    obtain ⟨c, hc, hcid⟩ := Option.map_eq_some_iff.mp hk'.symm
    rw [hsent]
    exact h.id_eq k c i hc (hcid.trans hi)
  · rw [hnext, hsent, hlen]
    exact h.nextId_eq

theorem Serial.setState (h : cl.Serial) : (cl.setState k p).Serial :=
  h.of_ids (fun j => by rw [setState_get]; split <;> cases cl.calls[j]? <;> rfl) rfl

theorem Serial.forget (h : cl.Serial) (i : Nat) : (cl.forget i).Serial :=
  h.of_ids (fun _ => by rw [get_forget, Option.map_map]; congr 1; funext c; split <;> simp) rfl

theorem Serial.markExited (h : cl.Serial) : cl.markExited.Serial :=
  h.of_ids (fun _ => by rw [get_markExited, Option.map_map]; congr 1; funext c; split <;> simp) rfl

theorem Serial.complete (h : cl.Serial) (r : Response) : (cl.complete r).Serial := by
  unfold Client.complete
  split
  · refine h.of_ids (fun j => ?_) rfl
    rw [List.getElem?_modify]
    cases cl.calls[j]? with
    | none => rfl
    | some c => simp only [Option.map_eq_map, Option.map_some, apply_ite, Call.id_deliver, ite_self]
  · exact h

/-- Appending a request keeps the numbering when the request is refused and the counter stays,
or it is sent under the counter and the counter moves on. -/
theorem Serial.append (h : cl.Serial) {cl' : Client} {c : Call}
    (hcalls : cl'.calls = cl.calls ++ [c])
    (hid : (c.id = none ∧ cl'.nextId = cl.nextId) ∨
      (c.id = some cl.nextId.toNat ∧ cl'.nextId = cl.nextId + 1)) : cl'.Serial := by
  have hbefore : ∀ k, k ≤ cl.calls.length → cl'.sentBefore k = cl.sentBefore k := by
    intro k hk
    simp only [sentBefore, hcalls, List.map_append, List.map_singleton]
    rw [List.take_append_of_le_length (by simpa using hk)]
  have hall : cl'.sentBefore (cl.calls.length + 1) =
      cl.sentBefore cl.calls.length + if c.id.isSome then 1 else 0 := by
    simp [sentBefore, hcalls, List.take_of_length_le, List.countP_append]
  constructor
  · intro k c' i hk hi
    rw [hcalls] at hk
    rcases get_append_singleton.mp hk with hk | ⟨rfl, rfl⟩
    · rw [hbefore k (Nat.le_of_lt (List.getElem?_eq_some_iff.mp hk).1)]
      exact h.id_eq k c' i hk hi
    · rw [hbefore _ (Nat.le_refl _), ← h.nextId_eq]
      rcases hid with ⟨hn, -⟩ | ⟨hs, -⟩
      · rw [hn] at hi; cases hi
      · rw [hs] at hi; cases hi; rfl
  · rw [hcalls, List.length_append, List.length_singleton, hall]
    rcases hid with ⟨hn, hnext⟩ | ⟨hs, hnext⟩
    · simp [hn, hnext, h.nextId_eq]
    · rw [hnext, UInt64.toNat_add, h.nextId_eq]
      simp [hs]

theorem Serial.send (h : cl.Serial) (cmd : Command) : (cl.send cmd).Serial := by
  unfold Client.send
  split
  · exact (h.forget cl.nextId.toNat).append rfl (.inr ⟨rfl, rfl⟩)
  · exact h.append rfl (.inl ⟨rfl, rfl⟩)

theorem Serial.step (h : cl.Serial) : ∀ e, (cl.step e).Serial
  | .send cmd => h.send cmd
  | .written k err => by
    simp only [Client.step, Client.written]
    split
    · cases err
      · exact h.setState
      · exact (h.forget _).setState
    · exact h
  | .line l => by
    simp only [Client.step]
    split
    · exact h.complete _
    · exact h
  | .exit => h.markExited
  | .receive k => by
    simp only [Client.step, Client.receive]
    split
    · exact h.setState
    · exact h.setState
    · exact h
  | .elapse k => by
    simp only [Client.step, Client.elapse]
    split
    · exact h.setState
    · exact h
  | .expire k => by
    simp only [Client.step, Client.expire]
    split
    · exact (h.forget _).setState
    · exact h

/-- Every client reached by steps numbers its requests in order. -/
theorem Serial.run (h : cl.Serial) (evs : List Event) : (cl.run evs).Serial := by
  induction evs generalizing cl with
  | nil => exact h
  | cons e evs ih => exact ih (h.step e)

/-- Below `2^64` requests, the counter has not wrapped round: requests sent under one id are one
request. -/
theorem Serial.id_inj (h : cl.Serial) (hlen : cl.calls.length < 2 ^ 64) {cj ck : Call} {i : Nat}
    (hj : cl.calls[j]? = some cj) (hk : cl.calls[k]? = some ck) (hij : cj.id = some i)
    (hik : ck.id = some i) : j = k := by
  -- of two requests, the later one has more requests sent before it, and both counts stay
  -- below the wrap
  have later : ∀ {j k : Nat} {cj ck : Call}, cl.calls[j]? = some cj → cl.calls[k]? = some ck →
      cj.id = some i → ck.id = some i → ¬ j < k := by
    intro j k cj ck hj hk hij hik hjk
    have hlt := sentBefore_lt hj (by simp [hij]) hjk
    have hle : cl.sentBefore k ≤ k := sentBefore_le
    have hkl : k < cl.calls.length := (List.getElem?_eq_some_iff.mp hk).1
    have e₁ := h.id_eq j cj i hj hij
    have e₂ := h.id_eq k ck i hk hik
    omega
  rcases Nat.lt_trichotomy j k with hjk | rfl | hjk
  · exact absurd hjk (later hj hk hij hik)
  · rfl
  · exact absurd hjk (later hk hj hik hij)

/-! ### What one step can do to one request -/

/-- The moves one step can make request `k`, sent under `id`, take. A sender is dropped when the
process exits, and also when another request takes its id out of the map: one sent under the
same id after the counter wrapped round. -/
inductive Moves (k : Nat) (id : Option Nat) : Event → CallState → CallState → Prop
  | stay {e s} : Moves k id e s s
  | wrote {inbox} : Moves k id (.written k none) (.writing inbox) (.waiting inbox)
  | writeFailed {inbox m} :
      Moves k id (.written k (some m)) (.writing inbox) (.failed (.bridge m))
  | routeWriting {l r} : lineEffect l = .respond r → id = some r.id →
      Moves k id (.line l) (.writing .empty) (.writing (.reply r))
  | routeWaiting {l r} : lineEffect l = .respond r → id = some r.id →
      Moves k id (.line l) (.waiting .empty) (.waiting (.reply r))
  | dropWriting {e} : Moves k id e (.writing .empty) (.writing .dropped)
  | dropWaiting {e} : Moves k id e (.waiting .empty) (.waiting .dropped)
  | take {r} : Moves k id (.receive k) (.waiting (.reply r)) (.answered r)
  | takeDropped : Moves k id (.receive k) (.waiting .dropped) (.failed droppedError)
  | elapse : Moves k id (.elapse k) (.waiting .empty) .expiring
  | expire {m t} : Moves k id (.expire k) .expiring (.failed (timeoutError m t))

/-- Dropping a request's sender is one of its moves. -/
theorem Moves.drop {id : Option Nat} {e : Event} (c : Call) :
    Moves k id e c.state c.drop.state := by
  unfold Call.drop
  split
  case h_1 hs => rw [hs]; exact .dropWriting
  case h_2 hs => rw [hs]; exact .dropWaiting
  case h_3 => exact .stay

/-- Taking an id out of the map leaves a request as it was or drops its sender. -/
theorem forget_moves {e : Event} {i : Nat} {c : Call} (hk : cl.calls[k]? = some c) :
    ∃ c', (cl.forget i).calls[k]? = some c' ∧ c'.command = c.command ∧ c'.id = c.id ∧
      Moves k c.id e c.state c'.state := by
  rw [get_forget, hk, Option.map_some]
  split
  · exact ⟨c.drop, rfl, Call.command_drop c, Call.id_drop c, Moves.drop c⟩
  · exact ⟨c, rfl, rfl, rfl, .stay⟩

/-- Moving request `j` to a new state leaves request `k` as it was, unless `j = k`: then the new
state must be one of `k`'s moves from the state the step found it in. -/
theorem setState_moves {e : Event} {c c₀ : Call} (hk : cl.calls[k]? = some c)
    (hj : cl.calls[j]? = some c₀) (hmove : j = k → Moves k c₀.id e c₀.state p) :
    ∃ c', (cl.setState j p).calls[k]? = some c' ∧ c'.command = c.command ∧ c'.id = c.id ∧
      Moves k c.id e c.state c'.state := by
  by_cases hjk : j = k
  · subst hjk
    rw [hk] at hj; cases hj
    exact ⟨_, get_setState_self hk, rfl, rfl, hmove rfl⟩
  · exact ⟨c, (get_setState_of_ne hjk).trans hk, rfl, rfl, .stay⟩

/-- The same when request `j` first takes an id out of the map: request `k` may also have its
sender dropped. -/
theorem forget_setState_moves {e : Event} {i : Nat} {c c₀ : Call} (hk : cl.calls[k]? = some c)
    (hj : cl.calls[j]? = some c₀) (hmove : j = k → Moves k c₀.id e c₀.state p) :
    ∃ c', ((cl.forget i).setState j p).calls[k]? = some c' ∧ c'.command = c.command ∧
      c'.id = c.id ∧ Moves k c.id e c.state c'.state := by
  obtain ⟨c₁, hc₁, hcmd, hid, hm⟩ := forget_moves (i := i) (e := e) hk
  by_cases hjk : j = k
  · subst hjk
    rw [hk] at hj; cases hj
    exact ⟨_, get_setState_self hc₁, hcmd, hid, hmove rfl⟩
  · exact ⟨c₁, (get_setState_of_ne hjk).trans hc₁, hcmd, hid, hm⟩

/-- Every step keeps a request's command and id and moves its state by one of the `Moves`. -/
theorem Coherent.step_moves (h : cl.Coherent) {c : Call} (hk : cl.calls[k]? = some c) :
    ∀ e, ∃ c', (cl.step e).calls[k]? = some c' ∧ c'.command = c.command ∧ c'.id = c.id ∧
      Moves k c.id e c.state c'.state
  | .send cmd => by
    simp only [Client.step, Client.send]
    split
    · obtain ⟨c', hc', hcmd, hid, hm⟩ := forget_moves (i := cl.nextId.toNat) (e := .send cmd) hk
      exact ⟨c', get_append_singleton.mpr (.inl hc'), hcmd, hid, hm⟩
    · exact ⟨c, get_append_singleton.mpr (.inl hk), rfl, rfl, .stay⟩
  | .written j err => by
    simp only [Client.step, Client.written]
    split
    case h_1 cmd i inbox hj =>
      cases err with
      | none => exact setState_moves hk hj fun hjk => by subst hjk; exact .wrote
      | some m => exact forget_setState_moves hk hj fun hjk => by subst hjk; exact .writeFailed
    case h_2 => exact ⟨c, hk, rfl, rfl, .stay⟩
  | .line l => by
    simp only [Client.step]
    split
    case h_1 r hl =>
      cases hlk : cl.pending.lookup r.id with
      | none =>
        refine ⟨c, ?_, rfl, rfl, .stay⟩
        simp only [Client.complete, hlk]
        exact hk
      | some j =>
        obtain ⟨c₀, hc₀, hid, hreg⟩ := h.registered _ _ (mem_of_lookup hlk)
        rw [complete_of_lookup hlk hc₀]
        refine forget_setState_moves hk hc₀ fun hjk => ?_
        -- the response is routed to this request, which is registered under its id
        subst hjk
        rcases c₀ with ⟨cmd, i, (_ | _ | _) | (_ | _ | _) | _ | _ | _⟩ <;>
          simp only [CallState.Registered] at hreg
        · exact .routeWriting hl hid
        · exact .routeWaiting hl hid
        · exact .stay
    case h_2 => exact ⟨c, hk, rfl, rfl, .stay⟩
  | .exit => by
    simp only [Client.step]
    rw [get_markExited, hk, Option.map_some]
    split
    · exact ⟨c.drop, rfl, Call.command_drop c, Call.id_drop c, Moves.drop c⟩
    · exact ⟨c, rfl, rfl, rfl, .stay⟩
  | .receive j => by
    simp only [Client.step, Client.receive]
    split
    case h_1 cmd i r hj => exact setState_moves hk hj fun hjk => by subst hjk; exact .take
    case h_2 cmd i hj => exact setState_moves hk hj fun hjk => by subst hjk; exact .takeDropped
    case h_3 => exact ⟨c, hk, rfl, rfl, .stay⟩
  | .elapse j => by
    simp only [Client.step, Client.elapse]
    split
    case h_1 cmd i hj => exact setState_moves hk hj fun hjk => by subst hjk; exact .elapse
    case h_2 => exact ⟨c, hk, rfl, rfl, .stay⟩
  | .expire j => by
    simp only [Client.step, Client.expire]
    split
    case h_1 cmd i hj => exact forget_setState_moves hk hj fun hjk => by subst hjk; exact .expire
    case h_2 => exact ⟨c, hk, rfl, rfl, .stay⟩

namespace Moves

variable {id : Option Nat} {e : Event} {s s' : CallState}

theorem eq_of_finished (hm : Moves k id e s s') (hs : s.Finished) : s' = s := by
  cases hm <;> simp_all [CallState.Finished]

theorem rank_le (hm : Moves k id e s s') : s'.rank ≤ s.rank := by
  cases hm <;> simp [CallState.rank]

/-- A reply in a request's hands stays there, unless the request was still writing and its
write fails. -/
theorem holds {r : Response} (hm : Moves k id e s s') (hr : s.Holds r) :
    s'.Holds r ∨ ∃ m, e = .written k (some m) ∧ s' = .failed (.bridge m) := by
  cases hm with
  | wrote => rename_i inbox; cases inbox <;> simp_all [CallState.Holds]
  | _ => simp_all [CallState.Holds]

/-- A reply reaches a request's hands only by being read while the request listens. -/
theorem holds_source {r : Response} (hm : Moves k id e s s') (hr : s'.Holds r) :
    s.Holds r ∨
      s.Listening ∧ id = some r.id ∧ ∃ l, e = .line l ∧ lineEffect l = .respond r := by
  cases hm with
  | wrote => rename_i inbox; cases inbox <;> simp_all [CallState.Holds]
  | _ => simp_all [CallState.Holds, CallState.Listening]

end Moves

/-- A step creates a request only by sending it: writing with nothing received, or refused. -/
theorem step_get_of_none {e : Event} {c' : Call} (hk : cl.calls[k]? = none)
    (h' : (cl.step e).calls[k]? = some c') :
    c'.state = .writing .empty ∨ c'.state = .failed exitedError := by
  -- every step but a send only rewrites existing requests
  have keep : ∀ {cl' : Client} (j : Nat) (p : CallState), cl'.calls[k]? = none →
      (cl'.setState j p).calls[k]? = none := by
    intro cl' j p hk'
    by_cases hj : j = k
    · subst hj; simp [setState_get, hk']
    · rw [get_setState_of_ne hj, hk']
  have hf : ∀ i, (cl.forget i).calls[k]? = none := fun i => by rw [get_forget, hk]; rfl
  cases e with
  | send cmd =>
    simp only [Client.step, Client.send] at h'
    split at h' <;> rcases get_append_singleton.mp h' with h' | ⟨-, rfl⟩
    · rw [hf] at h'; cases h'
    · exact .inl rfl
    · rw [hk] at h'; cases h'
    · exact .inr rfl
  | written j err =>
    simp only [Client.step, Client.written] at h'
    split at h'
    · cases err with
      | none => rw [keep j _ hk] at h'; cases h'
      | some m => rw [keep j _ (hf _)] at h'; cases h'
    · rw [hk] at h'; cases h'
  | line l =>
    simp only [Client.step] at h'
    split at h'
    · unfold Client.complete at h'
      split at h'
      · rw [show cl.calls.modify _ _ = _ from rfl, List.getElem?_modify, hk] at h'; cases h'
      · rw [hk] at h'; cases h'
    · rw [hk] at h'; cases h'
  | exit =>
    simp only [Client.step] at h'
    rw [get_markExited, hk] at h'; cases h'
  | receive j =>
    simp only [Client.step, Client.receive] at h'
    split at h'
    · rw [keep j _ hk] at h'; cases h'
    · rw [keep j _ hk] at h'; cases h'
    · rw [hk] at h'; cases h'
  | elapse j =>
    simp only [Client.step, Client.elapse] at h'
    split at h'
    · rw [keep j _ hk] at h'; cases h'
    · rw [hk] at h'; cases h'
  | expire j =>
    simp only [Client.step, Client.expire] at h'
    split at h'
    · rw [keep j _ (hf _)] at h'; cases h'
    · rw [hk] at h'; cases h'

/-- A response read while a request listens under the response's id is routed to that
request. -/
theorem Coherent.step_line_listening (h : cl.Coherent) {c : Call} {l : String} {r : Response}
    (hk : cl.calls[k]? = some c) (hlisten : c.state.Listening) (hid : c.id = some r.id)
    (hl : lineEffect l = .respond r) :
    ∃ c', (cl.step (.line l)).calls[k]? = some c' ∧ c'.state.Holds r := by
  obtain ⟨i, hi, hmem⟩ := h.listening k c hk hlisten
  rw [hid] at hi; cases hi
  -- the map's only entry under the id is this request's
  have hj : cl.pending.lookup r.id = some k := lookup_of_mem h.keys_nodup hmem
  simp only [Client.step, hl]
  rw [complete_of_lookup hj hk]
  refine ⟨_, get_forget_setState_self hk, ?_⟩
  rcases c with ⟨cmd, id, (_ | _ | _) | (_ | _ | _) | _ | _ | _⟩ <;>
    simp_all [CallState.Listening, Call.deliver, CallState.Holds]

/-- Reading a response is routing it. -/
theorem step_line_respond {l : String} {r : Response} (hl : lineEffect l = .respond r) :
    cl.step (.line l) = cl.complete r := by
  simp only [Client.step, hl]

end Client

end LiveSession.Supervisor
