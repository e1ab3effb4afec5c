import Mathlib.Algebra.Order.Floor.Div
import Rollout.Proofs.Rehearsal.Performs
import Rollout.Proofs.Wait.Course
import Rollout.Proofs.Wait.Queries

namespace Rollout.Rehearsal.MemoryCluster

open Cluster Program Site

variable {w w' : MemoryCluster} {t : Target} {timeout elapsed : Nat}

theorem timed_zero : Duration.zero.timed = .zero := rfl

theorem shorter_zero (d : Duration) : Duration.zero.shorter d = .zero := by
  rw [Duration.shorter, Duration.zero, Nat.zero_min]

theorem answerPoll_fst (hdelay : w.behaviour.existsDelay = .zero) (r : Resource) (limit : Duration) :
    (w.answerPoll r limit).1 = .answered .zero (w.existsOutcome r (w.pollsOf r + 1)) := by
  change Poll.answered w.behaviour.existsDelay.timed (w.existsOutcome r (w.pollsOf r + 1)) = _
  rw [hdelay, timed_zero]

theorem answerPoll_snd (w : MemoryCluster) (r : Resource) (limit : Duration) :
    (w.answerPoll r limit).2 =
      ((w.record (callText (.present r))).countPoll r).pass (w.behaviour.existsDelay.shorter limit) := rfl

theorem sameBut_answerPoll (w : MemoryCluster) (r : Resource) (limit : Duration) :
    SameBut [r.label] w (w.answerPoll r limit).2 := by
  rw [answerPoll_snd]
  exact sameBut_query ..

theorem pollsOf_answerPoll (w : MemoryCluster) (r : Resource) (limit : Duration) :
    (w.answerPoll r limit).2.pollsOf r = w.pollsOf r + 1 := by
  rw [answerPoll_snd, (sameBut_pass ..).pollsOf r List.not_mem_nil, pollsOf_countPoll, if_pos rfl,
    (sameBut_record ..).pollsOf r List.not_mem_nil]

theorem clock_answerPoll (hdelay : w.behaviour.existsDelay = .zero) (r : Resource) (limit : Duration) :
    (w.answerPoll r limit).2.station.clock = w.station.clock := by
  rw [answerPoll_snd, clock_pass, hdelay, shorter_zero, timed_zero]
  rfl

theorem found?_existsOutcome (w : MemoryCluster) (r : Resource) (query : Nat) (limit : Duration) :
    (Poll.answered .zero (w.existsOutcome r query)).found? limit =
      if w.isThere r query then some .zero else none := by
  rw [existsOutcome]
  split
  · rw [Wait.found?_at_once]
  · split <;> rfl

theorem spent_at_once (limit : Duration) (outcome : Except Failure Bool) :
    (Poll.answered .zero outcome).spent limit = .zero := by
  rw [Poll.spent, shorter_zero]

theorem run_pollFrom (hdelay : w.behaviour.existsDelay = .zero) (t : Target) (timeout elapsed : Nat) :
    ∃ w', SameBut [t.resource.label] w w' ∧ w'.pollsOf t.resource = w.pollsOf t.resource + 1 ∧
      w'.station.clock ≤ w.station.clock + (if timeout ≤ elapsed then 0
        else (Duration.timed ⟨Wait.rest t.pollEvery.nanos (timeout - elapsed)⟩).nanos) ∧
      (Wait.pollFrom t timeout elapsed).run.run answer w =
        if w.isThere t.resource (w.pollsOf t.resource + 1) then (.ok (), w')
        else if timeout ≤ elapsed then (.error (Wait.neverAppeared t timeout elapsed), w')
        else (Wait.pollFrom t timeout
          (elapsed + Wait.rested elapsed t.pollEvery.nanos (timeout - elapsed))).run.run answer w' := by
  generalize hlimit : Wait.queryLimit t timeout elapsed = limit
  have hsame := sameBut_answerPoll w t.resource limit
  have hpolls := pollsOf_answerPoll w t.resource limit
  have hclock := clock_answerPoll hdelay t.resource limit
  rw [Wait.pollFrom, ExceptT.run_mk, Program.run]
  rw [hlimit, show answer (.poll t.resource limit) w =
    ((w.answerPoll t.resource limit).1, (w.answerPoll t.resource limit).2) from rfl, answerPoll_fst hdelay]
  generalize (w.answerPoll t.resource limit).2 = w₁ at hsame hpolls hclock
  have hfound := found?_existsOutcome w t.resource (w.pollsOf t.resource + 1) limit
  have hspent := spent_at_once limit (w.existsOutcome t.resource (w.pollsOf t.resource + 1))
  generalize w.existsOutcome t.resource (w.pollsOf t.resource + 1) = outcome at hfound hspent
  have hlogged (e : LogEntry) : SameBut [t.resource.label] w (w₁.logged e) :=
    hsame.trans (sameBut_logged w₁ e).of_nil
  have hcount (e : LogEntry) : (w₁.logged e).pollsOf t.resource = w.pollsOf t.resource + 1 :=
    ((sameBut_logged w₁ e).pollsOf _ List.not_mem_nil).trans hpolls
  have hearly (n : Nat) (e : LogEntry) : (w₁.logged e).station.clock ≤ w.station.clock + n := by
    rw [clock_logged, hclock]
    exact Nat.le_add_right _ n
  by_cases hthere : w.isThere t.resource (w.pollsOf t.resource + 1) = true
  · rw [if_pos hthere] at hfound
    simp only [hfound, Machine.info, run_log_bind, run_pure, if_pos hthere]
    exact ⟨_, hlogged _, hcount _, hearly .., rfl⟩
  · rw [if_neg hthere] at hfound
    simp only [hfound, hspent, if_neg hthere]
    have hnow : elapsed + Duration.zero.nanos = elapsed := rfl
    rw [hnow]
    by_cases hend : timeout ≤ elapsed
    · rw [dif_pos hend, Machine.warn, run_log_bind, run_pure]
      simp only [if_pos hend]
      exact ⟨_, hlogged _, hcount _, hearly .., rfl⟩
    · rw [dif_neg hend, Machine.info, run_log_bind, run_pause_bind]
      simp only [if_neg hend]
      refine ⟨_, (hlogged _).trans (sameBut_pass ..).of_nil, ?_, ?_, rfl⟩
      · rw [(sameBut_pass ..).pollsOf _ List.not_mem_nil]
        exact hcount _
      · rw [clock_pass, clock_logged, hclock]

theorem isThere_congr (h : w'.behaviour = w.behaviour) (r : Resource) (query : Nat) :
    w'.isThere r query = w.isThere r query := by
  rw [isThere, h, isThere]

theorem isThere_mono {r : Resource} {query query' : Nat} (h : w.isThere r query = true)
    (hle : query ≤ query') : w.isThere r query' = true := by
  unfold isThere at h ⊢
  split at h
  case h_1 n hn => simpa using Nat.le_trans (by simpa using h) hle
  case h_2 => cases h
  case h_3 => rfl

theorem ceilDiv_sub_min {a p : Nat} (hp : 0 < p) (ha : 0 < a) : (a - min p a) ⌈/⌉ p + 1 = a ⌈/⌉ p := by
  rw [Nat.ceilDiv_eq_add_pred_div, Nat.ceilDiv_eq_add_pred_div]
  rcases Nat.le_total p a with hle | hle
  · rw [Nat.min_eq_left hle, Nat.sub_add_cancel hle, ← Nat.add_div_right _ hp]
    congr 1
    omega
  · rw [Nat.min_eq_right hle, Nat.sub_self, Nat.zero_add, Nat.div_eq_of_lt (by omega), Nat.zero_add]
    exact (Nat.div_eq_of_lt_le (by omega) (by omega)).symm

/-- A wait for existence in which no query takes any time succeeds if the resource is there at the last query that
can be made. -/
theorem performs_pollFrom {n : Nat} (htimeout : 1000000 ∣ timeout) (hpoll : 1000000 ∣ t.pollEvery.nanos)
    (hpos : 0 < t.pollEvery.nanos) (helapsed : 1000000 ∣ elapsed)
    (hn : (timeout - elapsed) ⌈/⌉ min t.pollEvery.nanos Duration.timerLimit.nanos = n)
    (hdelay : w.behaviour.existsDelay = .zero) :
    Performs (Wait.pollFrom t timeout elapsed) w
      (w.isThere t.resource (w.pollsOf t.resource + (n + 1)) = true) (SameBut [t.resource.label] w) := by
  have hlimit : 0 < min t.pollEvery.nanos Duration.timerLimit.nanos := Nat.lt_min.2 ⟨hpos, by decide⟩
  -- On the number of rests that there is still time for.
  induction n generalizing elapsed w with
  | zero =>
      have hend : timeout - elapsed ≤ _ := (ceilDiv_le_iff_le_mul hlimit).1 (Nat.le_of_eq hn)
      rw [Nat.mul_zero, Nat.le_zero, Nat.sub_eq_zero_iff_le] at hend
      obtain ⟨w', hsame, hpolls, -, hrun⟩ := run_pollFrom hdelay t timeout elapsed
      by_cases hthere : w.isThere t.resource (w.pollsOf t.resource + 1) = true
      · rw [if_pos hthere] at hrun
        exact (Performs.of_run_ok hrun hsame).mono (iff_of_true trivial hthere) fun _ => id
      · rw [if_neg hthere, if_pos hend] at hrun
        exact (Performs.of_run_error hrun).mono (iff_of_false id hthere) fun _ => id
  | succ n ih =>
      have hend : ¬timeout ≤ elapsed := by
        intro hend
        rw [Nat.sub_eq_zero_of_le hend, zero_ceilDiv] at hn
        cases hn
      obtain ⟨w', hsame, hpolls, -, hrun⟩ := run_pollFrom hdelay t timeout elapsed
      by_cases hthere : w.isThere t.resource (w.pollsOf t.resource + 1) = true
      · rw [if_pos hthere] at hrun
        have hlater := isThere_mono hthere (show w.pollsOf t.resource + 1 ≤ w.pollsOf t.resource + (n + 1 + 1) by omega)
        exact (Performs.of_run_ok hrun hsame).mono (iff_of_true trivial hlater) fun _ => id
      · rw [if_neg hthere, if_neg hend] at hrun
        have hleft : 0 < timeout - elapsed := Nat.sub_pos_of_lt (Nat.lt_of_not_le hend)
        have hrested := Wait.rested_of_dvd helapsed hpoll (Nat.dvd_sub htimeout helapsed) (Nat.lt_min.2 ⟨hpos, hleft⟩)
        have hnext : (timeout - (elapsed + Wait.rested elapsed t.pollEvery.nanos (timeout - elapsed))) ⌈/⌉
            min t.pollEvery.nanos Duration.timerLimit.nanos = n := by
          rw [hrested, Nat.sub_add_eq]
          exact Nat.succ.inj ((ceilDiv_sub_min hlimit hleft).trans hn)
        have hrest := ih (Nat.dvd_add helapsed (Wait.dvd_rested helapsed ..)) hnext (hsame.behaviour ▸ hdelay)
        refine (Performs.of_run_eq hrun hrest).mono ?_ fun _ => hsame.trans
        rw [isThere_congr hsame.behaviour, hpolls, Nat.add_assoc, Nat.add_comm 1]

theorem clock_pollFrom_le (htimeout : 1000000 ∣ timeout) (helapsed : 1000000 ∣ elapsed)
    (hdelay : w.behaviour.existsDelay = .zero) :
    ((Wait.pollFrom t timeout elapsed).run.run answer w).2.station.clock ≤ w.station.clock + (timeout - elapsed) := by
  generalize hleft : timeout - elapsed = left
  induction left using Nat.strong_induction_on generalizing elapsed w with
  | _ left ih =>
      obtain ⟨w', hsame, -, hclock, hrun⟩ := run_pollFrom hdelay t timeout elapsed
      rw [hrun]
      by_cases hend : timeout ≤ elapsed
      · rw [if_pos hend] at hclock
        simp only [if_pos hend]
        split
        · exact Nat.le_add_right_of_le hclock
        · exact Nat.le_add_right_of_le hclock
      · have hrested := congrArg Duration.nanos
          (Duration.timedFrom_of_dvd helapsed ⟨Wait.rest t.pollEvery.nanos (timeout - elapsed)⟩)
        rw [if_neg hend, ← hrested] at hclock
        have hadd := Wait.add_rested_le htimeout (Nat.lt_of_not_le hend) t.pollEvery.nanos
        have hone := Wait.one_le_rested elapsed t.pollEvery.nanos (timeout - elapsed)
        have hdvd := Wait.dvd_rested helapsed t.pollEvery.nanos (timeout - elapsed)
        change w'.station.clock ≤ w.station.clock + Wait.rested elapsed t.pollEvery.nanos (timeout - elapsed) at hclock
        simp only [if_neg hend]
        generalize Wait.rested elapsed t.pollEvery.nanos (timeout - elapsed) = rested at hclock hadd hone hdvd ⊢
        split
        · exact Nat.le_trans hclock (by omega)
        · have hrest := ih (timeout - (elapsed + rested)) (by omega) (Nat.dvd_add helapsed hdvd)
            (hsame.behaviour ▸ hdelay) rfl
          omega

/-- How many queries a wait for existence makes that does not find its resource. -/
def budget (timeout pollEvery : Duration) : Nat :=
  timeout.nanos ⌈/⌉ min pollEvery.nanos Duration.timerLimit.nanos + 1

theorem performs_untilExists {T : Duration} (hT : t.existsWithin = some T) (hmillis : 1000000 ∣ T.nanos)
    (hpoll : 1000000 ∣ t.pollEvery.nanos) (hpos : 0 < t.pollEvery.nanos)
    (hdelay : w.behaviour.existsDelay = .zero) :
    Performs (Wait.untilExists t) w
      (w.isThere t.resource (w.pollsOf t.resource + budget T t.pollEvery) = true)
      (SameBut [t.resource.label] w) := by
  have hrun : (Wait.untilExists t).run.run answer w = (Wait.pollFrom t T.nanos 0).run.run answer w := by
    rw [Wait.untilExists_of_some hT]
    rfl
  exact .of_run_eq hrun (performs_pollFrom hmillis hpoll hpos (Nat.dvd_zero _) rfl hdelay)

theorem performs_untilCondition (w : MemoryCluster) (r : Resource) (c : Condition) (limit : Duration) :
    Performs (Wait.untilCondition r c limit) w (r.label ∉ w.behaviour.failingWaits) (SameBut [] w) := by
  have hrun : (Wait.untilCondition r c limit).run.run answer w = _ := run_log_bind ..
  rw [run_cluster_bind] at hrun
  have hlogged := sameBut_logged w
    ⟨.info, "Waiting for condition",
      [("resource", r.label), ("condition", c.text), ("timeout_secs", toString limit.secs)]⟩
  generalize MemoryCluster.logged w _ = w₁ at hrun hlogged
  have hsame := hlogged.trans (sameBut_answerCall w₁ (c := .await r c limit) (by simp))
  by_cases hr : r.label ∈ w.behaviour.failingWaits
  · have houtcome : (w₁.answerCall (.await r c limit)).1.outcome =
        .error (injected ("kubectl wait " ++ r.label)) := if_pos (by rwa [hlogged.behaviour, List.contains_iff_mem])
    simp only [houtcome, Machine.warn, run_log_bind, run_pure] at hrun
    exact (Performs.of_run_error hrun).mono (by simp [hr]) fun _ => id
  · have houtcome : (w₁.answerCall (.await r c limit)).1.outcome = .ok () :=
      if_neg (by rwa [hlogged.behaviour, List.contains_iff_mem])
    rw [houtcome, Machine.info, run_log_bind, run_pure] at hrun
    exact (Performs.of_run_ok hrun (hsame.trans (sameBut_logged ..))).mono (by simp [hr]) fun _ => id

end Rollout.Rehearsal.MemoryCluster
