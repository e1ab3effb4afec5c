import Rollout.Proofs.Wait.Deadline

namespace Rollout.Wait

open Cluster Site

/-- When the `k`-th query begins, from the first on, of a wait in which every query takes `d`. -/
def scheduledStart (T P d : Duration) (k : Nat) : Nat := min ((k - 1) * (P.nanos + d.nanos)) T.nanos

def scheduledCount (T P d : Duration) : Nat := (T.nanos - d.nanos) ⌈/⌉ (P.nanos + d.nanos) + 1

/-- All in whole milliseconds, and timers run as long as is needed: for a rest, and for a query unless it is given
up before. -/
structure Timely (T P d : Duration) : Prop where
  poll_pos : 0 < P.nanos
  dvd_timeout : 1000000 ∣ T.nanos
  dvd_poll : 1000000 ∣ P.nanos
  dvd_query : 1000000 ∣ d.nanos
  rest_le : min T.nanos P.nanos ≤ Duration.timerLimit.nanos
  query_le : min d.nanos (T.nanos + P.nanos) ≤ Duration.timerLimit.nanos

variable {t : Target} {T P d : Duration} {elapsed : Nat} {tr : List Event} {r : Except Failure Unit}

theorem scheduledStart_le (T P d : Duration) (k : Nat) : scheduledStart T P d k ≤ T.nanos := Nat.min_le_right ..

theorem scheduledStart_one (T P d : Duration) : scheduledStart T P d 1 = 0 := by
  rw [scheduledStart, Nat.sub_self, Nat.zero_mul, Nat.zero_min]

theorem Timely.dvd_scheduledStart (h : Timely T P d) (k : Nat) : 1000000 ∣ scheduledStart T P d k := by
  have hturn : 1000000 ∣ (k - 1) * (P.nanos + d.nanos) :=
    Nat.dvd_mul_left_of_dvd (Nat.dvd_add h.dvd_poll h.dvd_query) _
  rcases Nat.le_total ((k - 1) * (P.nanos + d.nanos)) T.nanos with hle | hle
  · rwa [scheduledStart, Nat.min_eq_left hle]
  · rw [scheduledStart, Nat.min_eq_right hle]
    exact h.dvd_timeout

theorem scheduledCount_le_iff (hpos : 0 < P.nanos) (k : Nat) :
    scheduledCount T P d ≤ k + 1 ↔ T.nanos ≤ scheduledStart T P d (k + 1) + d.nanos := by
  rw [scheduledCount, Nat.add_le_add_iff_right, ceilDiv_le_iff_le_mul (Nat.add_pos_left hpos _), scheduledStart,
    Nat.add_sub_cancel, Nat.mul_comm]
  omega

theorem scheduledStart_add_lt_iff (hpos : 0 < P.nanos) (k : Nat) :
    scheduledStart T P d (k + 1) + d.nanos < T.nanos ↔ k + 1 < scheduledCount T P d :=
  lt_iff_lt_of_le_iff_le (scheduledCount_le_iff hpos k).symm

theorem scheduledStart_next {k : Nat} (h : scheduledStart T P d (k + 1) + d.nanos < T.nanos) :
    scheduledStart T P d (k + 2) = min (scheduledStart T P d (k + 1) + d.nanos + P.nanos) T.nanos := by
  have hsucc : (k + 1) * (P.nanos + d.nanos) = k * (P.nanos + d.nanos) + P.nanos + d.nanos := by
    rw [Nat.succ_mul, Nat.add_assoc]
  simp only [scheduledStart, Nat.add_sub_cancel, Nat.add_succ_sub_one] at h ⊢
  omega

theorem timerLimit_eq : Duration.timerLimit = .ofMillis Duration.timerLimit.millis := rfl

theorem timed_ofMillis {d : Nat} (hd : d ≤ Duration.timerLimit.millis) :
    (Duration.ofMillis d).timed = .ofMillis d := by
  rw [Duration.timed_of_dvd (d := .ofMillis d) (Nat.dvd_mul_left ..), timerLimit_eq]
  simp only [Duration.shorter, Duration.ofMillis, Duration.mk.injEq]
  omega

theorem timely_ofMillis {T P d : Nat} (hpos : 0 < P) (hrest : min T P ≤ Duration.timerLimit.millis)
    (hquery : min d (T + P) ≤ Duration.timerLimit.millis) : Timely (.ofMillis T) (.ofMillis P) (.ofMillis d) where
  poll_pos := Nat.mul_pos hpos (by decide)
  dvd_timeout := Nat.dvd_mul_left ..
  dvd_poll := Nat.dvd_mul_left ..
  dvd_query := Nat.dvd_mul_left ..
  rest_le := by
    rw [timerLimit_eq]
    simp only [Duration.ofMillis]
    omega
  query_le := by
    rw [timerLimit_eq]
    simp only [Duration.ofMillis]
    omega

section Query

variable (hpoll : t.pollEvery = P) (h : Timely T P d) (hdvd : 1000000 ∣ elapsed)
include hpoll h hdvd

theorem queryLimit_nanos : (queryLimit t T.nanos elapsed).nanos =
    min (T.nanos + P.nanos - elapsed) Duration.timerLimit.nanos := by
  have hleft : 1000000 ∣ T.nanos + P.nanos - elapsed := Nat.dvd_sub (Nat.dvd_add h.dvd_timeout h.dvd_poll) hdvd
  rw [queryLimit, hpoll, Duration.timedFrom_of_dvd hdvd, Duration.timed_of_dvd hleft, Duration.shorter]

theorem queryEnd_eq (hle : elapsed ≤ T.nanos) (outcome : Except Failure Bool) :
    queryEnd t T.nanos elapsed (.answered d outcome) = min (elapsed + d.nanos) (T.nanos + P.nanos) := by
  have hquery := h.query_le
  change elapsed + min d.nanos (queryLimit t T.nanos elapsed).nanos = _
  rw [queryLimit_nanos hpoll h hdvd]
  omega

theorem found?_queryLimit_eq_some_iff (hle : elapsed ≤ T.nanos) {outcome : Except Failure Bool} {took : Duration} :
    (Poll.answered d outcome).found? (queryLimit t T.nanos elapsed) = some took ↔
      outcome = .ok true ∧ took = d ∧ elapsed + d.nanos ≤ T.nanos + P.nanos := by
  have hquery := h.query_le
  rw [found?_eq_some_iff, queryLimit_nanos hpoll h hdvd, Poll.answered.injEq]
  constructor
  · rintro ⟨⟨rfl, rfl⟩, htook⟩
    exact ⟨rfl, rfl, by omega⟩
  · rintro ⟨rfl, rfl, htime⟩
    exact ⟨⟨rfl, rfl⟩, by omega⟩

theorem rested_eq (hlt : elapsed < T.nanos) :
    rested elapsed t.pollEvery.nanos (T.nanos - elapsed) = min P.nanos (T.nanos - elapsed) := by
  have hrest := h.rest_le
  have hpos := h.poll_pos
  rw [hpoll, rested_of_dvd hdvd h.dvd_poll (Nat.dvd_sub h.dvd_timeout hdvd) (by omega)]
  omega

end Query

theorem Polling.finish_lt {timeout : Nat} {init : List Query} {q : Query} (h : Polling t timeout elapsed tr r)
    (hqs : queriesFrom elapsed tr = init ++ [q]) : ∀ q' ∈ init, q'.finish < timeout := by
  induction h generalizing init with
  | found | expired =>
      obtain ⟨rfl, -⟩ := List.append_inj' (show [] ++ [_] = init ++ [q] from hqs) rfl
      simp
  | again elapsed x note hx hend h ih =>
      rw [queriesFrom_again] at hqs
      cases init with
      | nil =>
          obtain ⟨init, q', hqs', -⟩ := h.last_query
          rw [hqs'] at hqs
          simp at hqs
      | cons q' init =>
          rw [List.cons_append] at hqs
          obtain ⟨rfl, hrest⟩ := List.cons.inj hqs
          exact List.forall_mem_cons.2 ⟨hend, ih hrest⟩

theorem Polling.start_eq {k : Nat} (h : Polling t T.nanos elapsed tr r) (hpoll : t.pollEvery = P)
    (htimely : Timely T P d) (helapsed : elapsed = scheduledStart T P d (k + 1))
    (hanswers : ∀ q ∈ queriesFrom elapsed tr, ∃ outcome, q.answer = .answered d outcome) {i : Nat} {q : Query}
    (hq : (queriesFrom elapsed tr)[i]? = some q) : q.start = scheduledStart T P d (k + i + 1) := by
  -- On the wait, with the number of queries made before.
  induction h generalizing k i with
  | found | expired =>
      obtain ⟨rfl, rfl⟩ : i = 0 ∧ _ = q := by simpa [queriesFrom, lasted] using List.getElem?_eq_some_iff.1 hq
      exact helapsed
  | again elapsed x note hx hend h ih =>
      rw [queriesFrom_again] at hq hanswers
      cases i with
      | zero =>
          obtain rfl := Option.some.inj hq
          exact helapsed
      | succ i =>
          obtain ⟨⟨outcome, rfl⟩, hanswers⟩ := List.forall_mem_cons.1 hanswers
          have hle := scheduledStart_le T P d (k + 1)
          have hdvd := htimely.dvd_scheduledStart (k + 1)
          rw [← helapsed] at hle hdvd
          have hover : queryEnd t T.nanos elapsed (.answered d outcome) = elapsed + d.nanos := by
            have hover := queryEnd_eq hpoll htimely hdvd hle outcome
            omega
          rw [hover] at hend hanswers hq ih
          rw [rested_eq hpoll htimely (Nat.dvd_add hdvd htimely.dvd_query) hend] at hanswers hq ih
          rw [List.getElem?_cons_succ] at hq
          have hnext : elapsed + d.nanos + min P.nanos (T.nanos - (elapsed + d.nanos)) =
              scheduledStart T P d (k + 2) := by
            rw [helapsed] at hend ⊢
            rw [scheduledStart_next hend]
            omega
          rw [ih hnext hanswers hq]
          congr 1
          omega

/-- A query takes `d`, and finds the resource if it is the `first` of its wait or a later one. -/
def AnswersFrom (d : Duration) (first : Option Nat) (k : Nat) (x : Poll) : Prop :=
  ∃ outcome, x = .answered d outcome ∧ (outcome = .ok true ↔ ∃ n ∈ first, n ≤ k)

variable {first : Option Nat} {k : Nat} {q : Query}

/-- The `k`-th query of a wait, as it is to be. -/
structure Query.OnSchedule (T P d : Duration) (first : Option Nat) (k : Nat) (q : Query) : Prop where
  start_eq : q.start = scheduledStart T P d k
  finish_eq : q.finish = min (scheduledStart T P d k + d.nanos) (T.nanos + P.nanos)
  found_iff : (∃ took, q.answer.found? q.limit = some took) ↔
    (∃ n ∈ first, n ≤ k) ∧ scheduledStart T P d k + d.nanos ≤ T.nanos + P.nanos

theorem Query.onSchedule (hlimit : q.limit = queryLimit t T.nanos q.start) (hpoll : t.pollEvery = P)
    (htimely : Timely T P d) (hstart : q.start = scheduledStart T P d k) (hanswer : AnswersFrom d first k q.answer) :
    q.OnSchedule T P d first k := by
  obtain ⟨outcome, hanswer, hiff⟩ := hanswer
  have hdvd := htimely.dvd_scheduledStart k
  have hle := scheduledStart_le T P d k
  refine ⟨hstart, ?_, ?_⟩
  · rw [Query.finish, hlimit, hanswer, hstart]
    exact queryEnd_eq hpoll htimely hdvd hle outcome
  · have hfound (took : Duration) : (Poll.answered d outcome).found? _ = some took ↔ _ :=
      found?_queryLimit_eq_some_iff hpoll htimely hdvd hle
    rw [hlimit, hanswer, hstart, ← hiff]
    simp [hfound]

theorem Polling.onSchedule (h : Polling t T.nanos 0 tr r) (hpoll : t.pollEvery = P) (htimely : Timely T P d)
    (hanswers : ∀ i q, (queries tr)[i]? = some q → AnswersFrom d first (i + 1) q.answer) {i : Nat}
    (hq : (queries tr)[i]? = some q) : q.OnSchedule T P d first (i + 1) := by
  refine Query.onSchedule (h.limit_eq q (List.mem_of_getElem? hq)) hpoll htimely ?_ (hanswers i q hq)
  rw [h.start_eq hpoll htimely (scheduledStart_one T P d).symm ?_ hq, Nat.zero_add]
  intro q' hq'
  obtain ⟨j, hj⟩ := List.getElem?_of_mem hq'
  obtain ⟨outcome, hanswer, -⟩ := hanswers j q' hj
  exact ⟨outcome, hanswer⟩

section Last

variable {init : List Query} {last : Query}

theorem getElem?_init (hqs : queries tr = init ++ [last]) {i : Nat} (hi : i < init.length) :
    ∃ q ∈ init, (queries tr)[i]? = some q := by
  refine ⟨init[i], List.getElem_mem hi, ?_⟩
  rw [hqs, List.getElem?_append_left hi, List.getElem?_eq_getElem hi]

/-- A query that finds the resource is over in time, unless it is the last, which none is that does not. -/
theorem Polling.lt_first (h : Polling t T.nanos 0 tr r) (hqs : queries tr = init ++ [last])
    (hinit : ∀ q ∈ init, q.answer.found? q.limit = none) (hfirst : ∀ n ∈ first, 1 ≤ n)
    (hschedule : ∀ i (q : Query), (queries tr)[i]? = some q → q.OnSchedule T P d first (i + 1)) :
    ∀ n ∈ first, init.length < n := by
  intro n hn
  by_contra hle
  have hpos := hfirst n hn
  obtain ⟨q, hq, hqi⟩ := getElem?_init hqs (show n - 1 < init.length by omega)
  have hq' := hschedule _ q hqi
  have hover := h.finish_lt hqs q hq
  rw [hq'.finish_eq] at hover
  obtain ⟨took, htook⟩ := hq'.found_iff.2 ⟨⟨n, hn, by omega⟩, by omega⟩
  rw [hinit q hq] at htook
  cases htook

theorem Polling.length_le_scheduledCount (h : Polling t T.nanos 0 tr r) (hqs : queries tr = init ++ [last])
    (hpos : 0 < P.nanos) (hschedule : ∀ i (q : Query), (queries tr)[i]? = some q → q.OnSchedule T P d first (i + 1)) :
    init.length + 1 ≤ scheduledCount T P d := by
  cases hm : init.length with
  | zero => exact Nat.le_add_left 1 _
  | succ m =>
      obtain ⟨q, hq, hqi⟩ := getElem?_init hqs (show m < init.length by omega)
      have hover := h.finish_lt hqs q hq
      rw [(hschedule m q hqi).finish_eq] at hover
      exact (scheduledStart_add_lt_iff hpos m).1 (by omega)

end Last

/-- The schedule of an existence wait whose queries take `d` each and find the resource from the `first` on: when
the queries begin, how many there are, what the wait comes to, and when it ends. -/
structure KeepsSchedule (t : Target) (T P d : Duration) (first : Option Nat) (qs : List Query) (total : Nat)
    (r : Except Failure Unit) : Prop where
  start_eq : ∀ i q, qs[i]? = some q → q.start = scheduledStart T P d (i + 1)
  found : ∀ n ∈ first, n ≤ scheduledCount T P d → scheduledStart T P d n + d.nanos ≤ T.nanos + P.nanos →
    qs.length = n ∧ r = .ok () ∧ total = scheduledStart T P d n + d.nanos
  timeout : (∀ n ∈ first, n ≤ scheduledCount T P d → T.nanos + P.nanos < scheduledStart T P d n + d.nanos) →
    qs.length = scheduledCount T P d ∧ r = .error (neverAppeared t T.nanos total) ∧
      total = min (scheduledStart T P d (scheduledCount T P d) + d.nanos) (T.nanos + P.nanos)
  at_once : d = .zero → r ≠ .ok () → total = T.nanos ∧ ∃ init q, qs = init ++ [q] ∧ q.start = T.nanos

theorem Polling.keepsSchedule (h : Polling t T.nanos 0 tr r) (hpoll : t.pollEvery = P) (htimely : Timely T P d)
    (hfirst : ∀ n ∈ first, 1 ≤ n)
    (hanswers : ∀ i q, (queries tr)[i]? = some q → AnswersFrom d first (i + 1) q.answer) :
    KeepsSchedule t T P d first (queries tr) (duration tr) r := by
  have hschedule (i : Nat) (q : Query) (hq : (queries tr)[i]? = some q) := h.onSchedule hpoll htimely hanswers hq
  obtain ⟨init, last, hqs, htotal, hinit, hr⟩ := h.last_query
  have habsent := h.lt_first hqs hinit hfirst hschedule
  have hcount := h.length_le_scheduledCount hqs htimely.poll_pos hschedule
  have hlength : (queries tr).length = init.length + 1 := by
    rw [queries, hqs, List.length_append, List.length_singleton]
  have hlast : last.OnSchedule T P d first (init.length + 1) := by
    apply hschedule
    rw [queries, hqs, List.getElem?_concat_length]
  have hend := hlast.finish_eq
  rw [← show duration tr = last.finish from htotal] at hend hr
  constructor
  case start_eq => exact fun i q hq => (hschedule i q hq).start_eq
  case found =>
    intro n hn hle htime
    have hpast := habsent n hn
    rcases hr with ⟨rfl, hyes⟩ | ⟨rfl, hnone, hlate⟩
    · obtain ⟨⟨n', hn', hle'⟩, -⟩ := hlast.found_iff.1 hyes
      obtain rfl := Option.mem_unique hn hn'
      obtain rfl : n = init.length + 1 := by omega
      exact ⟨hlength, rfl, by omega⟩
    · have hfull := (scheduledCount_le_iff htimely.poll_pos init.length).2 (show T.nanos ≤ _ + d.nanos by omega)
      obtain rfl : n = init.length + 1 := by omega
      obtain ⟨took, htook⟩ := hlast.found_iff.2 ⟨⟨_, hn, Nat.le_refl _⟩, htime⟩
      rw [hnone] at htook
      cases htook
  case timeout =>
    intro hmissed
    rcases hr with ⟨rfl, hyes⟩ | ⟨rfl, hnone, hlate⟩
    · obtain ⟨⟨n, hn, hle⟩, htime⟩ := hlast.found_iff.1 hyes
      have hpast := habsent n hn
      obtain rfl : n = init.length + 1 := by omega
      have hlate := hmissed _ hn hcount
      omega
    · have hfull := (scheduledCount_le_iff htimely.poll_pos init.length).2 (show T.nanos ≤ _ + d.nanos by omega)
      rw [Nat.le_antisymm hfull hcount]
      exact ⟨hlength, rfl, hend⟩
  case at_once =>
    rintro rfl hne
    have hzero : Duration.zero.nanos = 0 := rfl
    have hle := scheduledStart_le T P .zero (init.length + 1)
    rcases hr with ⟨rfl, -⟩ | ⟨rfl, -, hlate⟩
    · exact absurd rfl hne
    · refine ⟨by omega, init, last, hqs, ?_⟩
      rw [hlast.start_eq]
      omega

end Rollout.Wait
