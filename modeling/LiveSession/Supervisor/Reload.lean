import LiveSession.Supervisor.Launch
/-!
# Reload bookkeeping

After the first launch every clean rebuild is swapped into the running application by the
application itself, which publishes a new generation. The supervisor learns of a finished build
and of a published swap on separate channels, in either order, and keeps a mark to tell whether
a swap is still due.

`expected` is the generation the slot reaches once every finished rebuild is swapped in, and
`from`, when set, the generation seen when the pending rebuild finished. A finished build whose
swap is already visible (the slot is past `expected`) moves `expected` up to the slot and
clears `from`; otherwise the build is pending from the current generation, expected one above.
Generations are 64-bit counters, so one above the largest wraps to zero.

While launched with an application in the slot, the status is reloading exactly when a build
is pending and the slot has not moved past the generation it was pending from.
-/

namespace LiveSession.Supervisor

/-- The size of the generation counter, `2^64`. -/
def generationModulus : Nat := 18446744073709551616

/-- The hot-swap bookkeeping. -/
structure ReloadMark where
  pendingFrom : Option Nat
  expected : Nat
  deriving DecidableEq, Repr, Inhabited

/-- Records a finished rebuild, the slot being at generation `current`. -/
def ReloadMark.markRebuild (mark : ReloadMark) (current : Nat) : ReloadMark :=
  if current > mark.expected then ⟨none, current⟩
  else ⟨some current, (current + 1) % generationModulus⟩

/-- The session status shown for a phase, a slot generation (none when empty) and a mark. -/
def statusOf (phase : Phase) (slot : Option Nat) (mark : ReloadMark) : Status :=
  match phase with
  | .configuring | .watching => .loading
  | .terminated => .disconnected
  | .launched =>
    match slot with
    | none => .disconnected
    | some g =>
      match mark.pendingFrom with
      | some seen => if g ≤ seen then .reloading else .ready
      | none => .ready

end LiveSession.Supervisor
