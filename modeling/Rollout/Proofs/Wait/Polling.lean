import Rollout.Proofs.Site.Calls
import Rollout.Wait

namespace Rollout.Wait

open Cluster Program Site

/-- When a query is over that begins at `elapsed`, all in nanoseconds since the wait began. -/
def queryEnd (t : Target) (timeout elapsed : Nat) (x : Poll) : Nat :=
  elapsed + (x.spent (queryLimit t timeout elapsed)).nanos

def neverAppeared (t : Target) (timeout elapsed : Nat) : Failure :=
  timedOut ("wait for " ++ t.resource.label ++ " to exist") ⟨timeout⟩ ⟨elapsed⟩

/-- The course of an existence wait from `elapsed` nanoseconds after its beginning. -/
inductive Polling (t : Target) (timeout : Nat) : Nat → List Event → Except Failure Unit → Prop
  | found (elapsed : Nat) (x : Poll) (took : Duration) (note : LogEntry)
      (hx : x.found? (queryLimit t timeout elapsed) = some took) :
      Polling t timeout elapsed
        [⟨.poll t.resource (queryLimit t timeout elapsed), x⟩, ⟨.machine (.log note), ()⟩] (.ok ())
  | expired (elapsed : Nat) (x : Poll) (note : LogEntry)
      (hx : x.found? (queryLimit t timeout elapsed) = none) (hend : timeout ≤ queryEnd t timeout elapsed x) :
      Polling t timeout elapsed
        [⟨.poll t.resource (queryLimit t timeout elapsed), x⟩, ⟨.machine (.log note), ()⟩]
        (.error (neverAppeared t timeout (queryEnd t timeout elapsed x)))
  | again (elapsed : Nat) (x : Poll) (note : LogEntry) {tr : List Event} {r : Except Failure Unit}
      (hx : x.found? (queryLimit t timeout elapsed) = none) (hend : queryEnd t timeout elapsed x < timeout)
      (h : Polling t timeout (queryEnd t timeout elapsed x + rested (queryEnd t timeout elapsed x)
        t.pollEvery.nanos (timeout - queryEnd t timeout elapsed x)) tr r) :
      Polling t timeout elapsed
        (⟨.poll t.resource (queryLimit t timeout elapsed), x⟩ :: ⟨.machine (.log note), ()⟩ ::
          ⟨.machine (.pause ⟨rest t.pollEvery.nanos (timeout - queryEnd t timeout elapsed x)⟩), ()⟩ :: tr) r

theorem polling_of_runs {t : Target} {timeout elapsed : Nat} {tr : List Event} {r : Except Failure Unit}
    (h : Runs (pollFrom t timeout elapsed).run tr r) : Polling t timeout elapsed tr r := by
  induction elapsed using pollFrom.induct t timeout generalizing tr r with
  | case1 elapsed ih =>
      rw [pollFrom, ExceptT.run_mk, runs_ask_iff] at h
      obtain ⟨x, u, rfl, h⟩ := h
      cases hx : x.found? (queryLimit t timeout elapsed) with
      | some took =>
          simp only [hx] at h
          obtain ⟨v, w, _, rfl, hv, hw⟩ := Program.runs_bind_iff.1 h
          obtain rfl := runs_log_iff.1 hv
          obtain ⟨rfl, rfl⟩ := runs_pure_iff.1 hw
          exact .found elapsed x took _ hx
      | none =>
          simp only [hx] at h
          by_cases hend : timeout ≤ elapsed + (x.spent (queryLimit t timeout elapsed)).nanos
          · rw [dif_pos hend] at h
            obtain ⟨v, w, _, rfl, hv, hw⟩ := Program.runs_bind_iff.1 h
            obtain rfl := runs_log_iff.1 hv
            obtain ⟨rfl, rfl⟩ := runs_pure_iff.1 hw
            exact .expired elapsed x _ hx hend
          · rw [dif_neg hend] at h
            obtain ⟨v, w, _, rfl, hv, hw⟩ := Program.runs_bind_iff.1 h
            obtain rfl := runs_log_iff.1 hv
            obtain ⟨v', w', _, rfl, hp, hr⟩ := Program.runs_bind_iff.1 hw
            obtain rfl := runs_perform_iff.1 hp
            exact .again elapsed x _ hx (Nat.lt_of_not_le hend) (ih x hend hr)

theorem untilExists_of_some {t : Target} {T : Duration} (hT : t.existsWithin = some T) : (untilExists t).run =
    .ask (.machine (.hold (.deadline (T.add t.pollEvery)))) fun _ => (pollFrom t T.nanos 0).run := by
  rw [untilExists, hT]
  rfl

theorem untilExists_of_none {t : Target} (hT : t.existsWithin = none) : untilExists t = pure () := by
  rw [untilExists, hT]

theorem polling_of_untilExists {t : Target} {T : Duration} {tr : List Event} {r : Except Failure Unit}
    (hT : t.existsWithin = some T) (h : Runs (untilExists t).run tr r) :
    ∃ u, tr = ⟨.machine (.hold (.deadline (T.add t.pollEvery))), ()⟩ :: u ∧ Polling t T.nanos 0 u r := by
  rw [untilExists_of_some hT] at h
  obtain ⟨⟨⟩, u, rfl, hu⟩ := runs_ask_iff.1 h
  exact ⟨u, rfl, polling_of_runs hu⟩

end Rollout.Wait
