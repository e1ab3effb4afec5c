import Rollout.Proofs.Deployment.Extract
import Rollout.Proofs.Rehearsal.Settled

namespace Rollout

open Cluster Program Site Deployment

namespace Site

def pollCount (t : List Event) : Nat := (t.filterMap fun e => Request.polled? e.1).length

theorem pollCount_append (t u : List Event) : pollCount (t ++ u) = pollCount t + pollCount u := by
  rw [pollCount, List.filterMap_append, List.length_append]
  rfl

theorem Waitless.polled?_eq_none {r : Request} (h : Waitless r) : r.polled? = none := by
  match r with
  | .poll .. => exact h.elim
  | .cluster _ | .render _ | .record .. | .machine _ => rfl

theorem pollCount_cons_of_waitless {e : Event} (he : Waitless e.1) (t : List Event) :
    pollCount (e :: t) = pollCount t :=
  congrArg List.length (List.filterMap_cons_none (f := fun e : Event => Request.polled? e.1) he.polled?_eq_none)

theorem pollCount_of_asks {α σ : Type} {q : Program interface α} (hq : q.Asks Waitless)
    (h : Handler interface σ) (s : σ) : pollCount (q.transcript h s) = 0 := by
  induction q generalizing s with
  | done a => rfl
  | ask r next ih => exact (pollCount_cons_of_waitless hq.1 _).trans (ih _ (hq.2 _) _)

end Site

namespace Rehearsal

namespace MemoryCluster

variable {α β : Type} {latest n : Nat} {p : Plan} {w w' : MemoryCluster} {t : Target} {T : Duration}

/-- The waits to come are in time, of which each makes one query: this clock can tell when they would end. -/
def HasTimeFor (latest : Nat) (p : Plan) (n : Nat) (w : MemoryCluster) : Prop :=
  ∀ k < n, w.station.clock + k * w.behaviour.existsDelay.timed.nanos +
    (p.limits.wait.nanos + p.limits.pollInterval.nanos) ≤ latest

instance (latest : Nat) (p : Plan) (n : Nat) (w : MemoryCluster) : Decidable (HasTimeFor latest p n w) :=
  inferInstanceAs (Decidable (∀ k < n, _))

theorem hasTimeFor_add {m : Nat} (hclock : w'.station.clock = w.station.clock + m * w.behaviour.existsDelay.timed.nanos)
    (hb : w'.behaviour = w.behaviour) :
    HasTimeFor latest p (m + n) w ↔ HasTimeFor latest p m w ∧ HasTimeFor latest p n w' := by
  rw [HasTimeFor, HasTimeFor, HasTimeFor, hclock, hb]
  constructor
  · refine fun h => ⟨fun k hk => h k (Nat.lt_add_right n hk), fun k hk => ?_⟩
    rw [Nat.add_assoc w.station.clock, ← Nat.add_mul]
    exact h (m + k) (Nat.add_lt_add_left hk m)
  · rintro ⟨hm, hn⟩ k hk
    rcases Nat.lt_or_ge k m with hlt | hge
    · exact hm k hlt
    · obtain ⟨j, rfl⟩ := Nat.exists_eq_add_of_le hge
      rw [Nat.add_mul, ← Nat.add_assoc w.station.clock]
      exact hn j (Nat.lt_of_add_lt_add_left hk)

theorem hasTimeFor_zero : HasTimeFor latest p 0 w := fun k hk => absurd hk (Nat.not_lt_zero k)

/-- The program is broken off just if there is no time for the queries it makes. -/
def InTime (latest : Nat) (p : Plan) (q : Program interface α) (w : MemoryCluster) : Prop :=
  Unbroken (breaksOff latest) answer q w ↔ HasTimeFor latest p (pollCount (q.transcript answer w)) w

/-- Moreover, nothing but these queries takes time. -/
structure Paced (latest : Nat) (p : Plan) (q : Program interface α) (w : MemoryCluster) : Prop where
  clock : (q.run answer w).2.station.clock =
    w.station.clock + pollCount (q.transcript answer w) * w.behaviour.existsDelay.timed.nanos
  inTime : InTime latest p q w

theorem InTime.of_asks {q : Program interface α} (hq : q.Asks Waitless) (w : MemoryCluster) : InTime latest p q w := by
  rw [InTime, pollCount_of_asks hq]
  exact iff_of_true (unbroken_of_asks hq w) hasTimeFor_zero

theorem Paced.bind_inTime {q : Program interface α} {f : α → Program interface β} (hq : Paced latest p q w)
    (h : Settled p w) (hf : ∀ a w', Settled p w' → InTime latest p (f a) w') : InTime latest p (q >>= f) w := by
  rw [InTime, unbroken_bind_iff, transcript_bind, pollCount_append, hasTimeFor_add hq.clock (behaviour_run q w)]
  exact and_congr hq.inTime (hf _ _ (h.of_reaches (reaches_run q w)))

theorem Paced.bind {q : Program interface α} {f : α → Program interface β} (hq : Paced latest p q w)
    (h : Settled p w) (hf : ∀ a w', Settled p w' → Paced latest p (f a) w') : Paced latest p (q >>= f) w := by
  refine ⟨?_, hq.bind_inTime h fun a w' hw' => (hf a w' hw').inTime⟩
  rw [run_seq, (hf _ _ (h.of_reaches (reaches_run q w))).clock, hq.clock, behaviour_run, transcript_bind,
    pollCount_append, Nat.add_assoc, ← Nat.add_mul]

theorem InTime.bind {q : Program interface α} {f : α → Program interface β} (hq : InTime latest p q w)
    (hf : ∀ a, (f a).Asks Waitless) : InTime latest p (q >>= f) w := by
  rw [InTime, unbroken_bind_iff, transcript_bind, pollCount_append, pollCount_of_asks (hf _),
    and_iff_left (unbroken_of_asks (hf _) _)]
  exact hq

end MemoryCluster

end Rehearsal

end Rollout
