import Rollout.Cluster.Target
import Rollout.Site

namespace Rollout.Wait

open Cluster Site

def timedOut (name : String) (limit elapsed : Duration) : Failure := .timeout name limit elapsed

/-- The rest between two queries, in nanoseconds, with this much time left: never past the end, never
nothing. -/
def rest (pollEvery left : Nat) : Nat := max 1 (min pollEvery left)

theorem one_le_rest (pollEvery left : Nat) : 1 ≤ rest pollEvery left := Nat.le_max_left ..

def rested (now pollEvery left : Nat) : Nat := (Duration.timedFrom now ⟨rest pollEvery left⟩).nanos

theorem one_le_rested (now pollEvery left : Nat) : 1 ≤ rested now pollEvery left :=
  Duration.one_le_timedFrom now (one_le_rest pollEvery left)

def queryLimit (t : Target) (timeout elapsed : Nat) : Duration :=
  Duration.timedFrom elapsed ⟨timeout + t.pollEvery.nanos - elapsed⟩

/-- Queries until the resource is there, `elapsed` being the nanoseconds since the wait began. Whatever
else a query comes to, the resource is taken not to be there yet. Where times are in whole milliseconds,
no query begins after `timeout`, none outlasts it by more than the time between queries, and one observes
the very end. -/
def pollFrom (t : Target) (timeout elapsed : Nat) : Action Unit :=
  ExceptT.mk <| .ask (.poll t.resource (queryLimit t timeout elapsed)) fun answer =>
    match answer.found? (queryLimit t timeout elapsed) with
    | some took => do
      Machine.info "Resource exists"
        [("resource", t.resource.label), ("elapsed_secs", toString (Duration.secs ⟨elapsed + took.nanos⟩))]
      return .ok ()
    | none =>
      let now := elapsed + (answer.spent (queryLimit t timeout elapsed)).nanos
      if _h : timeout ≤ now then do
        Machine.warn ("Resource did not appear within " ++ Duration.text ⟨timeout⟩)
          [("resource", t.resource.label)]
        return .error (timedOut ("wait for " ++ t.resource.label ++ " to exist") ⟨timeout⟩ ⟨now⟩)
      else do
        Machine.info
          ("Waiting for " ++ t.resource.label ++ " to be created... (" ++
            toString (Duration.secs ⟨now⟩) ++ "s elapsed)")
        Machine.pause ⟨rest t.pollEvery.nanos (timeout - now)⟩
        (pollFrom t timeout (now + rested now t.pollEvery.nanos (timeout - now))).run
termination_by timeout - elapsed
decreasing_by
  have := one_le_rested (elapsed + (answer.spent (queryLimit t timeout elapsed)).nanos) t.pollEvery.nanos
    (timeout - (elapsed + (answer.spent (queryLimit t timeout elapsed)).nanos))
  omega

/-- The last query may take as long as another rest, and that time is settled first. -/
def untilExists (t : Target) : Action Unit :=
  match t.existsWithin with
  | some timeout => ExceptT.mk do
    Machine.hold (.deadline (timeout.add t.pollEvery))
    (pollFrom t timeout.nanos 0).run
  | none => pure ()

/-- Has the cluster wait for a condition. Any failure of that is a timeout. -/
def untilCondition (r : Resource) (c : Condition) (limit : Duration) : Action Unit :=
  ExceptT.mk do
    Machine.info "Waiting for condition"
      [("resource", r.label), ("condition", c.text), ("timeout_secs", toString limit.secs)]
    let reply : Reply Unit ← .perform (I := Site.interface) (.cluster (.await r c limit))
    match reply.outcome with
    | .ok _ => do
      Machine.info ("Condition met: " ++ c.text)
        [("resource", r.label), ("elapsed_secs", toString reply.took.secs)]
      return .ok ()
    | .error e => do
      Machine.warn "Condition wait failed" [("resource", r.label), ("error", e.message)]
      return .error
        (timedOut ("wait for " ++ r.label ++ " to be " ++ c.text) limit reply.took)

def untilAvailable (t : Target) : Action Unit :=
  untilCondition t.resource .available t.availableWithin

def untilJobComplete (name ns : String) (limit : Duration) : Action Unit :=
  untilCondition ⟨.job, name, ns⟩ .complete limit

end Rollout.Wait
