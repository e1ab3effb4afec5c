import Rollout.Deployment.Step
import Rollout.Proofs.Wait.Queries
import Rollout.Rehearsal.MemoryCluster

namespace Rollout.Wait

open Cluster Program Site

variable {t : Target} {timeout elapsed : Nat} {tr : List Event} {r : Except Failure Unit}

theorem Polling.start_le (h : Polling t timeout elapsed tr r) (htimeout : 1000000 ∣ timeout)
    (hle : elapsed ≤ timeout) : ∀ q ∈ queriesFrom elapsed tr, q.start ≤ timeout := by
  induction h with
  | found | expired =>
      intro q hq
      obtain rfl := List.mem_singleton.1 hq
      exact hle
  | again elapsed x note hx hend h ih =>
      intro q hq
      rw [queriesFrom_again] at hq
      rcases List.mem_cons.1 hq with rfl | hq
      · exact hle
      · exact ih (add_rested_le htimeout hend _) q hq

theorem Query.finish_le {q : Query} (hlimit : q.limit = queryLimit t timeout q.start)
    (hstart : q.start ≤ timeout) (hmillis : 1000000 ∣ timeout + t.pollEvery.nanos) :
    q.finish ≤ timeout + t.pollEvery.nanos := by
  have hspent := spent_le q.limit q.answer
  rw [hlimit] at hspent
  have hleft : q.start + (queryLimit t timeout q.start).nanos ≤ timeout + t.pollEvery.nanos := by
    refine Duration.add_timedFrom_le ?_ hmillis
    change q.start + (timeout + t.pollEvery.nanos - q.start) ≤ _
    omega
  rw [Query.finish, hlimit]
  exact Nat.le_trans (Nat.add_le_add_left hspent _) hleft

theorem found?_of_saysYes {q : Query} {time : Nat} (hlimit : q.limit = queryLimit t timeout q.start)
    (hfit : timeout + t.pollEvery.nanos ≤ Duration.timerLimit.nanos) (hq : q.SaysYes time)
    (htime : time ≤ timeout + t.pollEvery.nanos) : ∃ took, q.answer.found? q.limit = some took := by
  obtain ⟨took, hanswer, rfl⟩ := hq
  refine ⟨took, found?_eq_some_iff.2 ⟨hanswer, ?_⟩⟩
  rw [hlimit, queryLimit]
  refine Nat.le_trans ?_ (Duration.shorter_timerLimit_le_timedFrom q.start _)
  have htook : took.nanos ≤ timeout + t.pollEvery.nanos - q.start := by omega
  exact Nat.le_min.2 ⟨htook, Nat.le_trans htook (Nat.le_trans (Nat.sub_le ..) hfit)⟩

theorem Query.saysYes_of_found? {q : Query} {took : Duration} (h : q.answer.found? q.limit = some took) :
    q.SaysYes q.finish := by
  obtain ⟨hanswer, hle⟩ := found?_eq_some_iff.1 h
  refine ⟨took, hanswer, ?_⟩
  rw [Query.finish, hanswer, Poll.spent, Duration.shorter, Nat.min_eq_left hle]

/-- What an existence wait keeps to: how many queries it makes and when they begin, what it comes to, and
when it ends. -/
structure KeepsTime (t : Target) (T P : Duration) (qs : List Query) (total : Nat)
    (r : Except Failure Unit) : Prop where
  length_le : qs.length ≤ T.nanos ⌈/⌉ P.nanos + 1
  start_le : ∀ q ∈ qs, q.start ≤ T.nanos
  ok_iff : r = .ok () ↔ ∃ q ∈ qs, ∃ time ≤ T.nanos + P.nanos, q.SaysYes time
  first_yes : r = .ok () → ∃ init q, qs = init ++ [q] ∧ q.SaysYes total ∧
    ∀ q' ∈ init, ∀ time ≤ T.nanos + P.nanos, ¬q'.SaysYes time
  timeout : r ≠ .ok () → r = .error (neverAppeared t T.nanos total) ∧ T.nanos ≤ total ∧
    total ≤ T.nanos + P.nanos ∧
    ∃ init q, qs = init ++ [q] ∧ q.start ≤ T.nanos ∧ T.nanos ≤ q.finish

theorem Polling.keepsTime {T P : Duration} (h : Polling t T.nanos 0 tr r) (hpoll : t.pollEvery = P)
    (hpos : 0 < P.nanos) (hT : 1000000 ∣ T.nanos) (hP : 1000000 ∣ P.nanos)
    (hfit : T.nanos + P.nanos ≤ Duration.timerLimit.nanos) :
    KeepsTime t T P (queries tr) (duration tr) r := by
  subst hpoll
  obtain ⟨init, last, hqs, htotal, hinit, hr⟩ := h.last_query
  have hstart : ∀ q ∈ queries tr, q.start ≤ T.nanos := h.start_le hT (Nat.zero_le _)
  have hlimit : ∀ q ∈ queries tr, q.limit = queryLimit t T.nanos q.start := h.limit_eq
  have hlast : last ∈ queries tr := by
    rw [queries, hqs]
    exact List.mem_append_right _ (List.mem_singleton_self _)
  have hfinish : last.finish ≤ T.nanos + t.pollEvery.nanos :=
    Query.finish_le (hlimit last hlast) (hstart last hlast) (Nat.dvd_add hT hP)
  have hno : ∀ q ∈ queries tr, q.answer.found? q.limit = none →
      ∀ time ≤ T.nanos + t.pollEvery.nanos, ¬q.SaysYes time := by
    intro q hq hnone time htime hyes
    obtain ⟨took, htook⟩ := found?_of_saysYes (hlimit q hq) hfit hyes htime
    rw [hnone] at htook
    cases htook
  -- An earlier query that said yes in time would have been the last.
  have hnever : ∀ q ∈ init, ∀ time ≤ T.nanos + t.pollEvery.nanos, ¬q.SaysYes time := by
    intro q hq
    refine hno q ?_ (hinit q hq)
    rw [queries, hqs]
    exact List.mem_append_left _ hq
  constructor
  case length_le =>
    have hlength := h.length_le hpos
    rwa [Nat.min_eq_left (by omega), Nat.sub_zero] at hlength
  case start_le => exact hstart
  case ok_iff =>
    rcases hr with ⟨hok, took, htook⟩ | ⟨herr, hnone, _⟩
    · exact iff_of_true hok ⟨last, hlast, last.finish, hfinish, Query.saysYes_of_found? htook⟩
    · refine iff_of_false (by simp [herr]) ?_
      rintro ⟨q, hq, time, htime, hyes⟩
      rw [queries, hqs] at hq
      rcases List.mem_append.1 hq with hq | hq
      · exact hnever q hq time htime hyes
      · obtain rfl := List.mem_singleton.1 hq
        exact hno q hlast hnone time htime hyes
  case first_yes =>
    intro hok
    rcases hr with ⟨_, took, htook⟩ | ⟨herr, _⟩
    · refine ⟨init, last, hqs, ?_, hnever⟩
      rw [duration, htotal]
      exact Query.saysYes_of_found? htook
    · rw [herr] at hok
      cases hok
  case timeout =>
    intro hne
    rcases hr with ⟨hok, _⟩ | ⟨herr, _, hlate⟩
    · exact absurd hok hne
    · rw [duration, htotal]
      exact ⟨herr, hlate, hfinish, init, last, hqs, hstart last hlast, hlate⟩

variable {σ : Type}

theorem polling_of_transcript (h : Handler Site.interface σ) (s : σ) {T : Duration} (hT : t.existsWithin = some T) :
    ∃ tr, Polling t T.nanos 0 tr ((untilExists t).run.run h s).1 ∧
      queries ((untilExists t).run.transcript h s) = queries tr ∧
      duration ((untilExists t).run.transcript h s) = duration tr := by
  obtain ⟨tr, htr, hpolling⟩ := polling_of_untilExists hT (runs_transcript h (untilExists t).run s)
  rw [htr]
  exact ⟨tr, hpolling, rfl, rfl⟩

/-- In whole milliseconds, and as long as no timer is to run longer than timers do, whatever the queries take
and come to. In a deployment the interval is a second at least, so that a wait is over after a number of
queries that the time limit bounds. -/
theorem existence_wait_keeps_time :
    (∀ {σ : Type} (h : Handler Site.interface σ) (s : σ) (t : Target) (T P : Nat),
      t.existsWithin = some (.ofMillis T) → t.pollEvery = .ofMillis P → 0 < P →
      T + P ≤ Duration.timerLimit.millis →
      KeepsTime t (.ofMillis T) (.ofMillis P) (queries ((untilExists t).run.transcript h s))
        (duration ((untilExists t).run.transcript h s)) ((untilExists t).run.run h s).1) ∧
    ∀ (st : Settings) (step : Step) (t : Target), step.target? (.ofSettings st) = some t →
      (Duration.ofSecs 1).nanos ≤ t.pollEvery.nanos ∧
      ∀ {σ : Type} (h : Handler Site.interface σ) (s : σ) (T : Duration), t.existsWithin = some T →
        (queries ((untilExists t).run.transcript h s)).length ≤
          T.nanos ⌈/⌉ min t.pollEvery.nanos Duration.timerLimit.nanos + 1 := by
  constructor
  · intro σ h s t T P hT hP hpos hfit
    have hfit' : (Duration.ofMillis T).nanos + (Duration.ofMillis P).nanos ≤ Duration.timerLimit.nanos := by
      simp only [Duration.timerLimit, Duration.millis, Duration.ofSecs, Duration.ofMillis] at hfit ⊢
      omega
    obtain ⟨tr, hpolling, hqueries, hduration⟩ := polling_of_transcript h s hT
    rw [hqueries, hduration]
    exact hpolling.keepsTime hP (Nat.mul_pos hpos (by decide)) (Nat.dvd_mul_left ..) (Nat.dvd_mul_left ..) hfit'
  · intro st step t ht
    have hpoll : (Duration.ofSecs 1).nanos ≤ t.pollEvery.nanos := by
      have hsec := Plan.one_sec_le_pollInterval st
      cases step <;> cases ht <;> exact hsec
    refine ⟨hpoll, fun h s T hT => ?_⟩
    obtain ⟨tr, hpolling, hqueries, -⟩ := polling_of_transcript h s hT
    rw [hqueries]
    exact hpolling.length_le (Nat.lt_of_lt_of_le (by decide) hpoll)

/-- A cluster whose queries take most of a second, on which one deployment is there from the third. -/
def slowCluster : Rehearsal.MemoryCluster :=
  .start
    { appearAfter := [("deployment/mlflow", some 3)], existsErrors := false
      existsDelay := .ofMillis 700, failingWaits := [], failingApplies := false, failingProbes := false
      failingOperator := false, pods := [], phases := [] }
    (.emptyAt []) []

theorem slowCluster_wait_keeps_time :
    let t : Target :=
      { Target.deployment "mlflow" "mlflow" with
        existsWithin := some (.ofMillis 5000), pollEvery := .ofMillis 2000 }
    let tr := (untilExists t).run.transcript Rehearsal.MemoryCluster.answer slowCluster
    let r := ((untilExists t).run.run Rehearsal.MemoryCluster.answer slowCluster).1
    let serving := Step.servingTarget (.ofSettings {})
    KeepsTime t (.ofMillis 5000) (.ofMillis 2000) (queries tr) (duration tr) r ∧
      (queries ((untilExists serving).run.transcript Rehearsal.MemoryCluster.answer slowCluster)).length ≤
        (Duration.ofSecs 300).nanos ⌈/⌉ min (Duration.ofSecs 10).nanos Duration.timerLimit.nanos + 1 := by
  constructor
  · exact existence_wait_keeps_time.1 _ slowCluster _ 5000 2000 rfl rfl (by decide) (by decide)
  · exact (existence_wait_keeps_time.2 {} .serving _ rfl).2 _ slowCluster (.ofSecs 300) rfl

end Rollout.Wait
