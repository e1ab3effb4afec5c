import Rollout.Proofs.Deployment.Requests
import Rollout.Proofs.Rehearsal.Waiting
import Rollout.Proofs.Wait.Schedule

namespace Rollout.Rehearsal

open Cluster Program Site Wait

namespace MemoryCluster

variable {w : MemoryCluster} {t : Target} {α : Type}

/-- Which of the queries to come is the first to find a resource. -/
def firstThere (w : MemoryCluster) (r : Resource) : Option Nat :=
  match w.behaviour.appearAfter.get? r.label with
  | some after => after.map fun n => max 1 (n - w.pollsOf r)
  | none => some 1

theorem one_le_firstThere (w : MemoryCluster) (r : Resource) : ∀ n ∈ w.firstThere r, 1 ≤ n := by
  intro n hn
  unfold firstThere at hn
  split at hn
  case h_1 after _ =>
    obtain ⟨m, -, rfl⟩ := Option.map_eq_some_iff.1 hn
    exact Nat.le_max_left ..
  case h_2 => exact Nat.le_of_eq (Option.some.inj hn)

theorem isThere_iff_firstThere (w : MemoryCluster) (r : Resource) {k : Nat} (hk : 1 ≤ k) :
    w.isThere r (w.pollsOf r + k) = true ↔ ∃ n ∈ w.firstThere r, n ≤ k := by
  rw [isThere, firstThere]
  rcases w.behaviour.appearAfter.get? r.label with _ | _ | n
  · simpa using hk
  · simp
  · simp
    omega

theorem existsOutcome_eq_ok_true_iff (w : MemoryCluster) (r : Resource) (query : Nat) :
    w.existsOutcome r query = .ok true ↔ w.isThere r query = true := by
  by_cases hthere : w.isThere r query = true
  · simp [existsOutcome, hthere]
  · rw [existsOutcome, if_neg hthere]
    split <;> simp [hthere]

theorem existsOutcome_congr {w' : MemoryCluster} (h : w'.behaviour = w.behaviour) (r : Resource) (query : Nat) :
    w'.existsOutcome r query = w.existsOutcome r query := by
  rw [existsOutcome, existsOutcome, isThere_congr h, h]

/-- The queries of a wait are answered by their number, whenever they are made. -/
theorem answer_of_asked {p : Program interface α} (hp : p.Asks (Asked t)) {now k : Nat} {q : Query}
    (hq : (queriesFrom now (p.transcript answer w))[k]? = some q) :
    q.answer = .answered w.behaviour.existsDelay.timed
      (w.existsOutcome t.resource (w.pollsOf t.resource + (k + 1))) := by
  induction p generalizing now w k with
  | done a => cases hq
  | ask r next ih =>
      obtain ⟨hr, hnext⟩ := hp
      rw [transcript] at hq
      cases r with
      | poll r limit =>
          obtain ⟨rfl, -⟩ := hr
          rw [queriesFrom] at hq
          cases k with
          | zero =>
              obtain rfl := Option.some.inj hq
              rfl
          | succ k =>
              rw [List.getElem?_cons_succ] at hq
              have hbehaviour := (sameBut_answerPoll w t.resource limit).behaviour
              have hpolls := pollsOf_answerPoll w t.resource limit
              have hanswer := ih _ (hnext _) hq
              change _ = Poll.answered (w.answerPoll t.resource limit).2.behaviour.existsDelay.timed
                ((w.answerPoll t.resource limit).2.existsOutcome t.resource
                  ((w.answerPoll t.resource limit).2.pollsOf t.resource + (k + 1))) at hanswer
              rw [hanswer, existsOutcome_congr hbehaviour, hbehaviour, hpolls, Nat.add_assoc, Nat.add_comm 1]
      | machine m =>
          rw [queriesFrom_machine] at hq
          have hanswer := ih _ (hnext _) hq
          exact hanswer
      | _ => exact hr.elim

theorem answersFrom_of_asked {p : Program interface α} {d : Duration} (hp : p.Asks (Asked t))
    (hdelay : w.behaviour.existsDelay.timed = d) {i : Nat} {q : Query}
    (hq : (queries (p.transcript answer w))[i]? = some q) :
    AnswersFrom d (w.firstThere t.resource) (i + 1) q.answer := by
  refine ⟨_, hdelay ▸ answer_of_asked hp hq, ?_⟩
  rw [existsOutcome_eq_ok_true_iff, isThere_iff_firstThere w t.resource (Nat.le_add_left 1 i)]

end MemoryCluster

/-- In whole milliseconds, and as long as no timer is to run longer than timers do: at any site at which all queries
take the same time, and on the cluster in memory in any state. -/
theorem existence_wait_keeps_schedule :
    (∀ {σ : Type} (h : Handler Site.interface σ) (s : σ) (t : Target) (T P d : Nat) (first : Option Nat),
      t.existsWithin = some (.ofMillis T) → t.pollEvery = .ofMillis P → 0 < P →
      min T P ≤ Duration.timerLimit.millis → min d (T + P) ≤ Duration.timerLimit.millis →
      (∀ n ∈ first, 1 ≤ n) →
      (∀ i q, (queries ((untilExists t).run.transcript h s))[i]? = some q →
        AnswersFrom (.ofMillis d) first (i + 1) q.answer) →
      KeepsSchedule t (.ofMillis T) (.ofMillis P) (.ofMillis d) first
        (queries ((untilExists t).run.transcript h s)) (duration ((untilExists t).run.transcript h s))
        ((untilExists t).run.run h s).1) ∧
    ∀ (w : MemoryCluster) (t : Target) (T P d : Nat),
      t.existsWithin = some (.ofMillis T) → t.pollEvery = .ofMillis P → 0 < P →
      min T P ≤ Duration.timerLimit.millis → d ≤ Duration.timerLimit.millis →
      w.behaviour.existsDelay = .ofMillis d →
      KeepsSchedule t (.ofMillis T) (.ofMillis P) (.ofMillis d) (w.firstThere t.resource)
        (queries ((untilExists t).run.transcript MemoryCluster.answer w))
        (duration ((untilExists t).run.transcript MemoryCluster.answer w))
        ((untilExists t).run.run MemoryCluster.answer w).1 := by
  constructor
  · intro σ h s t T P d first hT hP hpos hrest hquery hfirst hanswers
    obtain ⟨tr, hpolling, hqueries, hduration⟩ := polling_of_transcript h s hT
    rw [hqueries] at hanswers
    rw [hqueries, hduration]
    exact hpolling.keepsSchedule hP (timely_ofMillis hpos hrest hquery) hfirst hanswers
  · intro w t T P d hT hP hpos hrest hd hdelay
    have htimely := timely_ofMillis hpos hrest (show min d (T + P) ≤ _ from Nat.le_trans (Nat.min_le_left ..) hd)
    have htimed : w.behaviour.existsDelay.timed = .ofMillis d := by
      rw [hdelay, timed_ofMillis hd]
    obtain ⟨tr, hpolling, hqueries, hduration⟩ := polling_of_transcript MemoryCluster.answer w hT
    have hanswers (i : Nat) (q : Query) (hq : (queries tr)[i]? = some q) :=
      MemoryCluster.answersFrom_of_asked (asks_untilExists t) htimed (hqueries ▸ hq)
    rw [hqueries, hduration]
    exact hpolling.keepsSchedule hP htimely (w.one_le_firstThere _) hanswers

theorem slowCluster_wait_keeps_schedule :
    let t : Target :=
      { Target.deployment "mlflow" "mlflow" with
        existsWithin := some (.ofMillis 5000), pollEvery := .ofMillis 2000 }
    let tr := (untilExists t).run.transcript MemoryCluster.answer slowCluster
    let r := ((untilExists t).run.run MemoryCluster.answer slowCluster).1
    KeepsSchedule t (.ofMillis 5000) (.ofMillis 2000) (.ofMillis 700) (some 3) (queries tr) (duration tr) r ∧
      (queries tr).length = 3 ∧ r = .ok () ∧ duration tr = (Duration.ofMillis 5700).nanos := by
  intro t tr r
  have hthere : slowCluster.firstThere t.resource = some 3 := by decide
  constructor
  · refine existence_wait_keeps_schedule.1 _ slowCluster t 5000 2000 700 (some 3) rfl rfl (by decide) (by decide)
      (by decide) (by simp) ?_
    intro i q hq
    have hdelay : slowCluster.behaviour.existsDelay = .ofMillis 700 := rfl
    rw [← hthere]
    exact MemoryCluster.answersFrom_of_asked (asks_untilExists t) (by rw [hdelay, timed_ofMillis (by decide)]) hq
  · have hschedule := existence_wait_keeps_schedule.2 slowCluster t 5000 2000 700 rfl rfl (by decide) (by decide)
      (by decide) rfl
    rw [hthere] at hschedule
    exact hschedule.found 3 rfl (by decide) (by decide)

end Rollout.Rehearsal
