import Rollout.Proofs.Site.Course
import Rollout.Proofs.Wait.Polling

namespace Rollout.Wait

open Cluster Program Site

variable {t : Target} {timeout elapsed : Nat} {tr : List Event} {r : Except Failure Unit}

theorem found?_at_once (limit : Duration) : (Poll.answered .zero (.ok true)).found? limit = some .zero := by
  rw [Poll.found?, Duration.zero, if_pos (Nat.zero_le _)]

theorem mem_appears_at_once (r : Resource) (limit : Duration) :
    [⟨.poll r limit, .answered .zero (.ok true)⟩] ∈ appears r :=
  mem_appears (mem_query (by rw [found?_at_once]; rfl))

theorem Polling.keeps (h : Polling t timeout elapsed tr r) : Keeps (fun _ => appears t.resource) tr r := by
  induction h with
  | found elapsed x took note hx =>
      rw [Keeps, calls_cons_of_isCall rfl, calls_cons_of_not_isCall rfl]
      exact mem_appears (mem_query (by rw [hx]; rfl))
  | expired elapsed x note hx hend =>
      rw [Keeps, calls_cons_of_isCall rfl, calls_cons_of_not_isCall rfl]
      have hfail : Fails ⟨.poll t.resource (queryLimit t timeout elapsed), x⟩ := hx
      exact (BreaksOff.single hfail (mem_appears_at_once _ _)).iSup ()
  | @again elapsed x note tr r hx hend h ih =>
      have hquery : [⟨.poll t.resource (queryLimit t timeout elapsed), x⟩] ∈ query t.resource false :=
        mem_query (by rw [hx]; rfl)
      have hcalls : calls (⟨.poll t.resource (queryLimit t timeout elapsed), x⟩ ::
          ⟨.machine (.log note), ()⟩ :: ⟨.machine (.pause ⟨rest t.pollEvery.nanos
            (timeout - queryEnd t timeout elapsed x)⟩), ()⟩ :: tr) =
          [⟨.poll t.resource (queryLimit t timeout elapsed), x⟩] ++ calls tr := by
        rw [calls_cons_of_isCall rfl, calls_cons_of_not_isCall rfl, calls_cons_of_not_isCall rfl]
        rfl
      cases r with
      | ok =>
          rw [Keeps, hcalls]
          exact append_mem_appears hquery ih
      | error e =>
          obtain ⟨_, u, r, x', y, v, hu, hfail, hv⟩ := BreaksOff.of_iSup ih
          have hmem := append_mem_appears hquery hv
          rw [← List.append_assoc] at hmem
          rw [Keeps, hcalls, hu, ← List.append_assoc]
          exact BreaksOff.iSup () ⟨_, r, x', y, v, rfl, hfail, hmem⟩

theorem untilExists_follows (t : Target) :
    Follows (untilExists t) fun _ => if t.existsWithin.isSome then appears t.resource else 1 := by
  cases hT : t.existsWithin with
  | none =>
      rw [untilExists_of_none hT]
      exact .pure_unit
  | some T =>
      refine ⟨⟨(), _, mem_appears_at_once t.resource T⟩, ?_⟩
      intro tr r h
      obtain ⟨u, rfl, hu⟩ := polling_of_untilExists hT h
      exact hu.keeps

theorem runs_untilCondition {r : Resource} {c : Condition} {limit : Duration} {tr : List Event}
    {x : Except Failure Unit} (h : Runs (untilCondition r c limit).run tr x) :
    ∃ before reply after, tr = [⟨.machine (.log before), ()⟩, ⟨.cluster (.await r c limit), reply⟩,
        ⟨.machine (.log after), ()⟩] ∧
      (x = .ok () ∧ reply.outcome = .ok () ∨
        ∃ e, x = .error (timedOut ("wait for " ++ r.label ++ " to be " ++ c.text) limit reply.took) ∧
          reply.outcome = .error e) := by
  obtain ⟨u, v, _, rfl, hu, hv⟩ := Program.runs_bind_iff.1 h
  obtain rfl := runs_log_iff.1 hu
  obtain ⟨u', v', reply, rfl, hu', hv'⟩ := Program.runs_bind_iff.1 hv
  obtain rfl := runs_perform_iff.1 hu'
  cases hreply : reply.outcome with
  | ok y =>
      rw [hreply] at hv'
      obtain ⟨u, v, _, rfl, hlog, hend⟩ := Program.runs_bind_iff.1 hv'
      obtain rfl := runs_log_iff.1 hlog
      obtain ⟨rfl, rfl⟩ := runs_pure_iff.1 hend
      exact ⟨_, reply, _, rfl, .inl ⟨rfl, hreply⟩⟩
  | error e =>
      rw [hreply] at hv'
      obtain ⟨u, v, _, rfl, hlog, hend⟩ := Program.runs_bind_iff.1 hv'
      obtain rfl := runs_log_iff.1 hlog
      obtain ⟨rfl, rfl⟩ := runs_pure_iff.1 hend
      exact ⟨_, reply, _, rfl, .inr ⟨e, rfl, hreply⟩⟩

theorem untilCondition_follows (r : Resource) (c : Condition) (limit : Duration) :
    Follows (untilCondition r c limit) fun _ => granted (.await r c limit) where
  possible := ⟨(), _, mem_granted .zero ()⟩
  keeps := by
    intro tr x h
    obtain ⟨before, reply, after, rfl, hx⟩ := runs_untilCondition h
    have hcalls : calls [⟨.machine (.log before), ()⟩, ⟨.cluster (.await r c limit), reply⟩,
        ⟨.machine (.log after), ()⟩] = [⟨.cluster (.await r c limit), reply⟩] := by
      rw [calls_cons_of_not_isCall rfl, calls_cons_of_isCall rfl, calls_cons_of_not_isCall rfl]
      rfl
    rcases hx with ⟨rfl, hok⟩ | ⟨e, rfl, herr⟩
    · rw [Keeps, hcalls]
      exact Language.mem_iSup.2 ⟨(), mem_answered hok⟩
    · rw [Keeps, hcalls]
      have hfail : Fails ⟨.cluster (.await r c limit), reply⟩ := by
        rw [Fails, herr]
        rfl
      exact (BreaksOff.single hfail (mem_granted .zero ())).iSup ()

end Rollout.Wait
