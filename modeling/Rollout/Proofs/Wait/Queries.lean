import Mathlib.Algebra.Order.Floor.Div
import Rollout.Proofs.Wait.Polling

namespace Rollout.Wait

open Cluster Site

/-- How long an event keeps a run busy that is at `now`, all in nanoseconds. -/
def lasted (now : Nat) : Event → Nat
  | ⟨.cluster _, reply⟩ => reply.took.nanos
  | ⟨.poll _ limit, x⟩ => (x.spent limit).nanos
  | ⟨.machine (.pause d), _⟩ => (d.timedFrom now).nanos
  | _ => 0

/-- An existence query: when it began, in nanoseconds, when it was to be given up, and how it went. -/
structure Query where
  start : Nat
  limit : Duration
  answer : Poll

namespace Query

def finish (q : Query) : Nat := q.start + (q.answer.spent q.limit).nanos

/-- The query was to answer at this time that the resource is there. -/
def SaysYes (q : Query) (time : Nat) : Prop :=
  ∃ took, q.answer = .answered took (.ok true) ∧ time = q.start + took.nanos

end Query

/-- The existence queries of a run that is at `now`. -/
def queriesFrom (now : Nat) : List Event → List Query
  | [] => []
  | ⟨.poll _ limit, x⟩ :: t => ⟨now, limit, x⟩ :: queriesFrom (now + (x.spent limit).nanos) t
  | e :: t => queriesFrom (now + lasted now e) t

def queries (t : List Event) : List Query := queriesFrom 0 t

def endFrom (now : Nat) : List Event → Nat
  | [] => now
  | e :: t => endFrom (now + lasted now e) t

def duration (t : List Event) : Nat := endFrom 0 t

variable {t : Target} {timeout elapsed : Nat} {tr : List Event} {r : Except Failure Unit}

theorem found?_eq_some_iff {limit took : Duration} {x : Poll} :
    x.found? limit = some took ↔ x = .answered took (.ok true) ∧ took.nanos ≤ limit.nanos := by
  rcases x with _ | ⟨d, e | _ | _⟩
  · simp [Poll.found?]
  · simp [Poll.found?]
  · simp [Poll.found?]
  · simp only [Poll.found?, Option.ite_none_right_eq_some, Option.some.injEq, Poll.answered.injEq,
      and_true]
    constructor
    · rintro ⟨h, rfl⟩
      exact ⟨rfl, h⟩
    · rintro ⟨rfl, h⟩
      exact ⟨h, rfl⟩

theorem spent_le (limit : Duration) (x : Poll) : (x.spent limit).nanos ≤ limit.nanos := by
  cases x with
  | unanswered => exact Nat.le_refl _
  | answered took outcome => exact Nat.min_le_right ..

theorem queriesFrom_again (elapsed left : Nat) (x : Poll) (note : LogEntry) (tr : List Event) :
    queriesFrom elapsed (⟨.poll t.resource (queryLimit t timeout elapsed), x⟩ ::
      ⟨.machine (.log note), ()⟩ :: ⟨.machine (.pause ⟨rest t.pollEvery.nanos left⟩), ()⟩ :: tr) =
      ⟨elapsed, queryLimit t timeout elapsed, x⟩ ::
        queriesFrom (queryEnd t timeout elapsed x +
          rested (queryEnd t timeout elapsed x) t.pollEvery.nanos left) tr := by
  simp only [queriesFrom, lasted, queryEnd, rested, Nat.add_zero]

theorem queriesFrom_machine (now : Nat) (m : Machine.Request) (x : Machine.Answer m) (tr : List Event) :
    queriesFrom now (⟨.machine m, x⟩ :: tr) = queriesFrom (now + lasted now ⟨.machine m, x⟩) tr := by
  rw [queriesFrom]
  intro r limit x he
  cases he

theorem endFrom_again (elapsed left : Nat) (x : Poll) (note : LogEntry) (tr : List Event) :
    endFrom elapsed (⟨.poll t.resource (queryLimit t timeout elapsed), x⟩ ::
      ⟨.machine (.log note), ()⟩ :: ⟨.machine (.pause ⟨rest t.pollEvery.nanos left⟩), ()⟩ :: tr) =
      endFrom (queryEnd t timeout elapsed x +
        rested (queryEnd t timeout elapsed x) t.pollEvery.nanos left) tr := by
  simp only [endFrom, lasted, queryEnd, rested, Nat.add_zero]

theorem endFrom_last (elapsed : Nat) (x : Poll) (note : LogEntry) :
    endFrom elapsed [⟨.poll t.resource (queryLimit t timeout elapsed), x⟩, ⟨.machine (.log note), ()⟩] =
      queryEnd t timeout elapsed x := by
  simp only [endFrom, lasted, queryEnd, Nat.add_zero]

/-- A wait ends with its last query: as soon as that finds the resource, or once it is over and the time
is up. -/
theorem Polling.last_query (h : Polling t timeout elapsed tr r) :
    ∃ init q, queriesFrom elapsed tr = init ++ [q] ∧ endFrom elapsed tr = q.finish ∧
      (∀ q' ∈ init, q'.answer.found? q'.limit = none) ∧
      ((r = .ok () ∧ ∃ took, q.answer.found? q.limit = some took) ∨
        (r = .error (neverAppeared t timeout q.finish) ∧ q.answer.found? q.limit = none ∧
          timeout ≤ q.finish)) := by
  induction h with
  | found elapsed x took note hx =>
      exact ⟨[], ⟨elapsed, queryLimit t timeout elapsed, x⟩, rfl, endFrom_last .., by simp,
        .inl ⟨rfl, took, hx⟩⟩
  | expired elapsed x note hx hend =>
      exact ⟨[], ⟨elapsed, queryLimit t timeout elapsed, x⟩, rfl, endFrom_last .., by simp,
        .inr ⟨rfl, hx, hend⟩⟩
  | again elapsed x note hx hend h ih =>
      obtain ⟨init, q, hq, hd, hinit, hr⟩ := ih
      refine ⟨⟨elapsed, queryLimit t timeout elapsed, x⟩ :: init, q, ?_, ?_, ?_, hr⟩
      · rw [queriesFrom_again, List.cons_append, hq]
      · rw [endFrom_again, hd]
      · intro q' hq'
        rcases List.mem_cons.1 hq' with rfl | hq'
        · exact hx
        · exact hinit q' hq'

theorem Polling.limit_eq (h : Polling t timeout elapsed tr r) :
    ∀ q ∈ queriesFrom elapsed tr, q.limit = queryLimit t timeout q.start := by
  induction h with
  | found | expired =>
      intro q hq
      obtain rfl := List.mem_singleton.1 hq
      rfl
  | again elapsed x note hx hend h ih =>
      intro q hq
      rw [queriesFrom_again] at hq
      rcases List.mem_cons.1 hq with rfl | hq
      · rfl
      · exact ih q hq

theorem le_rested (now pollEvery left : Nat) :
    min (min pollEvery Duration.timerLimit.nanos) left ≤ rested now pollEvery left := by
  refine Nat.le_trans ?_ (Duration.shorter_timerLimit_le_timedFrom now _)
  simp only [Duration.shorter, rest]
  omega

theorem rested_of_dvd {now pollEvery left : Nat} (hnow : 1000000 ∣ now) (hpoll : 1000000 ∣ pollEvery)
    (hleft : 1000000 ∣ left) (hpos : 0 < min pollEvery left) :
    rested now pollEvery left = min (min pollEvery Duration.timerLimit.nanos) left := by
  have hdvd : 1000000 ∣ min pollEvery left := by
    rcases Nat.le_total pollEvery left with hle | hle
    · rwa [Nat.min_eq_left hle]
    · rwa [Nat.min_eq_right hle]
  have hrest : rest pollEvery left = min pollEvery left := Nat.max_eq_right hpos
  rw [rested, hrest, Duration.timedFrom_of_dvd hnow, Duration.timed_of_dvd hdvd, Duration.shorter]
  exact min_right_comm ..

theorem dvd_rested {now : Nat} (hnow : 1000000 ∣ now) (pollEvery left : Nat) :
    1000000 ∣ rested now pollEvery left := by
  rw [rested, Duration.timedFrom_of_dvd hnow]
  exact Duration.dvd_timed _

theorem add_rested_le {now timeout : Nat} (htimeout : 1000000 ∣ timeout) (hend : now < timeout) (pollEvery : Nat) :
    now + rested now pollEvery (timeout - now) ≤ timeout := by
  refine Duration.add_timedFrom_le ?_ htimeout
  change now + max 1 (min pollEvery _) ≤ timeout
  omega

theorem ceilDiv_succ_le {a b p : Nat} (hp : 0 < p) (ha : 0 < a) (hb : b ≤ a - min p a) :
    b ⌈/⌉ p + 1 ≤ a ⌈/⌉ p := by
  have hle : a ≤ p * (a ⌈/⌉ p) := (ceilDiv_le_iff_le_mul hp).1 (Nat.le_refl _)
  obtain ⟨c, hc⟩ : ∃ c, a ⌈/⌉ p = c + 1 := by
    refine Nat.exists_eq_succ_of_ne_zero fun hz => ?_
    rw [hz, Nat.mul_zero] at hle
    omega
  rw [hc, Nat.mul_succ] at hle
  rw [hc]
  exact Nat.succ_le_succ ((ceilDiv_le_iff_le_mul hp).2 (by omega))

/-- A rest between two queries is as long as the interval, so far as timers run that long, unless the time
is up before. -/
theorem Polling.length_le (h : Polling t timeout elapsed tr r) (hp : 0 < t.pollEvery.nanos) :
    (queriesFrom elapsed tr).length ≤
      (timeout - elapsed) ⌈/⌉ min t.pollEvery.nanos Duration.timerLimit.nanos + 1 := by
  have hpos : 0 < min t.pollEvery.nanos Duration.timerLimit.nanos := Nat.lt_min.2 ⟨hp, by decide⟩
  induction h with
  | found | expired => exact Nat.le_add_left 1 _
  | again elapsed x note hx hend h ih =>
      rw [queriesFrom_again, List.length_cons]
      refine Nat.succ_le_succ (Nat.le_trans ih (ceilDiv_succ_le hpos ?_ ?_))
      · have : elapsed ≤ queryEnd t timeout elapsed x := Nat.le_add_right ..
        omega
      · have := le_rested (queryEnd t timeout elapsed x) t.pollEvery.nanos
          (timeout - queryEnd t timeout elapsed x)
        have : elapsed ≤ queryEnd t timeout elapsed x := Nat.le_add_right ..
        omega

end Rollout.Wait
