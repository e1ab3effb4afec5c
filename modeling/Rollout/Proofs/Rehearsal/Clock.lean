import Rollout.Proofs.Deployment.Requests
import Rollout.Proofs.Rehearsal.Forecast
import Rollout.Proofs.Rehearsal.Frame

namespace Rollout

open Cluster Program Site Deployment

namespace Site

/-- A request that does not wait for existence. -/
def Waitless : Request → Prop
  | .poll .. | .machine (.hold _) => False
  | _ => True

/-- A request that takes a cluster in memory no time as long as queries take none. -/
def Prompt : Request → Prop
  | .machine (.pause _) => False
  | r => Waitless r

/-- A request that never takes it any time. -/
def Timeless : Request → Prop
  | .cluster (.present _) => False
  | r => Prompt r

theorem Prompt.waitless {r : Request} (h : Prompt r) : Waitless r := by
  unfold Prompt at h
  split at h
  · exact h.elim
  · exact h

theorem Comprises.asks_of_none {α : Type} {P : Request → Prop} {q : Program interface α}
    (hq : Comprises P (fun t => t.existsWithin = none) q) : q.Asks P := by
  induction hq with
  | done a => trivial
  | ask r next hr h ih => exact ⟨hr, ih⟩
  | wait t next ht h ih =>
      rw [Wait.untilExists_of_none ht]
      exact ih (.ok ())

end Site

namespace Deployment

variable {p : Plan} {s : Step} {r : Request}

theorem prompt_of_admits (h : Admits p s r) : Prompt r := by
  match r with
  | .poll .. => exact h.elim
  | .cluster _ | .render _ | .record .. => trivial
  | .machine m =>
      cases m with
      | hold | pause => exact h.elim
      | _ => trivial

theorem prompt_of_clears {paths : List String} (h : Deployment.Clears paths r) : Prompt r := by
  match r with
  | .poll .. => exact h.elim
  | .cluster _ | .render _ | .record .. => trivial
  | .machine m =>
      cases m with
      | hold | pause => exact h.elim
      | _ => trivial

end Deployment

namespace Rehearsal

theorem Workstation.clock_change (w : Workstation) (d : Except IoCause Disk) : (w.change d).2.clock = w.clock := by
  cases d with
  | ok d => rfl
  | error c => rfl

namespace MemoryCluster

variable {α β : Type} {latest n m : Nat} {p : Plan} {w : MemoryCluster} {t : Target} {T : Duration}

theorem equipment_answer (r : Request) (w : MemoryCluster) :
    (answer r w).2.behaviour = w.behaviour ∧ (answer r w).2.tlsFiles = w.tlsFiles := by
  by_cases hmachine : ∃ m, r = .machine m
  · obtain ⟨m, rfl⟩ := hmachine
    exact ⟨rfl, rfl⟩
  · by_cases hrender : r = .render .operator
    · subst hrender
      rw [answer_operator]
      exact ⟨rfl, rfl⟩
    · obtain ⟨_, hsame⟩ := sameBut_answer (not_exists.1 hmachine) hrender w
      exact ⟨hsame.behaviour, hsame.tlsFiles⟩

theorem equipment_stateAfter (w : MemoryCluster) (t : List Event) :
    (stateAfter answer w t).behaviour = w.behaviour ∧ (stateAfter answer w t).tlsFiles = w.tlsFiles := by
  refine invariant_stateAfter (h := answer) (P := fun _ => True)
    (Q := fun w₁ => w₁.behaviour = w.behaviour ∧ w₁.tlsFiles = w.tlsFiles) (fun _ _ => trivial) ?_ ⟨rfl, rfl⟩
  rintro r w₁ - ⟨hb, htls⟩
  obtain ⟨hb', htls'⟩ := equipment_answer r w₁
  exact ⟨hb'.trans hb, htls'.trans htls⟩

theorem behaviour_run (q : Program interface α) (w : MemoryCluster) : (q.run answer w).2.behaviour = w.behaviour :=
  stateAfter_transcript answer q w ▸ (equipment_stateAfter w _).1

theorem clock_effect {c : Call} (h : Timeless (.cluster c) ∨ w.behaviour.existsDelay = .zero) :
    (w.effect c).station.clock = w.station.clock := by
  cases c with
  | apply _ _ | createNamespace _ | createSecret _ | delete _ =>
      rw [effect]
      split
      · rfl
      · rfl
  | present r =>
      rcases h with h | hdelay
      · exact h.elim
      · rw [effect, clock_pass, hdelay, timed_zero]
        rfl
  | _ => rfl

theorem clock_answer {r : Request} (hr : Prompt r) (h : Timeless r ∨ w.behaviour.existsDelay = .zero) :
    (answer r w).2.station.clock = w.station.clock := by
  cases r with
  | cluster c => exact clock_effect (w := w.record _) h
  | poll r limit => exact hr.elim
  | render part =>
      cases part with
      | operator => rw [answer_operator, Workstation.generate, Workstation.work_eq]
      | _ => rfl
  | record key value => rfl
  | machine m =>
      cases m with
      | hold | pause => exact hr.elim
      | write path text => exact w.station.clock_change _
      | append path text => exact w.station.clock_change _
      | remove path => exact w.station.clock_change _
      | _ => rfl

theorem breaksOff_of_waitless {r : Request} (h : Waitless r) (w : MemoryCluster) : breaksOff latest r w = false := by
  match r with
  | .cluster _ | .poll .. | .render _ | .record .. => rfl
  | .machine m =>
      cases m with
      | hold => exact h.elim
      | _ => rfl

theorem unbroken_of_asks {q : Program interface α} (hq : q.Asks Waitless) (w : MemoryCluster) :
    Unbroken (breaksOff latest) answer q w := .of_asks hq (fun _ w hr => breaksOff_of_waitless hr w) w

/-- A wait is broken off at the beginning or not at all. -/
theorem unbroken_untilExists_iff (hT : t.existsWithin = some T) :
    Unbroken (breaksOff latest) answer (Wait.untilExists t).run w ↔
      w.station.clock + (T.nanos + t.pollEvery.nanos) ≤ latest := by
  have hrest (w : MemoryCluster) : Unbroken (breaksOff latest) answer (Wait.pollFrom t T.nanos 0).run w := by
    refine .of_asks (Wait.asks_pollFrom hT 0) (fun r w hr => ?_) w
    match r with
    | .poll .. => rfl
    | .cluster _ | .render _ | .record .. => rfl
    | .machine m =>
        cases m with
        | hold s => exact absurd rfl (hr.2 s)
        | _ => rfl
  rw [Wait.untilExists_of_some hT, Unbroken, and_iff_left (hrest _)]
  exact decide_eq_false_iff_not.trans Nat.not_lt

/-- There is time for this many waits of the plan, and for the clock to tell when the last query of the last would
end. -/
def HasRoomFor (latest : Nat) (p : Plan) (n : Nat) (w : MemoryCluster) : Prop :=
  w.station.clock + n * p.limits.wait.nanos + p.limits.pollInterval.nanos ≤ latest

/-- Where queries take no time the program takes no longer than this many waits, and is not broken off if there is
time for them. -/
structure Spends (latest : Nat) (p : Plan) (n : Nat) (q : Program interface α) : Prop where
  clock_le : ∀ w : MemoryCluster, w.behaviour.existsDelay = .zero →
    (q.run answer w).2.station.clock ≤ w.station.clock + n * p.limits.wait.nanos
  unbroken : ∀ w : MemoryCluster, w.behaviour.existsDelay = .zero → w.HasRoomFor latest p n →
    Unbroken (breaksOff latest) answer q w

theorem spends_of_asks {q : Program interface α} (hq : q.Asks Prompt) : Spends latest p 0 q where
  clock_le w hdelay := by
    rw [Nat.zero_mul, Nat.add_zero]
    induction q generalizing w with
    | done a => exact Nat.le_refl _
    | ask r next ih =>
        have hrest := ih (answer r w).1 (hq.2 _) (answer r w).2 ((equipment_answer r w).1 ▸ hdelay)
        rwa [clock_answer hq.1 (.inr hdelay)] at hrest
  unbroken w _ _ := unbroken_of_asks (hq.mono fun _ => Prompt.waitless) w

theorem spends_untilExists (hp : WholeMillis p) (hpoll : t.pollEvery = p.limits.pollInterval)
    (hT : t.existsWithin = some p.limits.wait) : Spends latest p 1 (Wait.untilExists t).run where
  clock_le w hdelay := by
    rw [Wait.untilExists_of_some hT, Nat.one_mul]
    exact clock_pollFrom_le hp.wait (Nat.dvd_zero _) hdelay
  unbroken w _ hroom := by
    rw [HasRoomFor, Nat.one_mul, Nat.add_assoc] at hroom
    exact (unbroken_untilExists_iff hT).2 (hpoll ▸ hroom)

namespace Spends

variable {q : Program interface α} {f : α → Program interface β}

theorem mono (hq : Spends latest p n q) (hn : n ≤ m) : Spends latest p m q where
  clock_le w hdelay := Nat.le_trans (hq.clock_le w hdelay) (Nat.add_le_add_left (Nat.mul_le_mul_right _ hn) _)
  unbroken w hdelay hroom := hq.unbroken w hdelay <| by
    refine Nat.le_trans (Nat.add_le_add_right (Nat.add_le_add_left (Nat.mul_le_mul_right _ hn) _) _) hroom

theorem bind (hq : Spends latest p n q) (hf : ∀ a, Spends latest p m (f a)) : Spends latest p (n + m) (q >>= f) where
  clock_le w hdelay := by
    have hfirst := hq.clock_le w hdelay
    have hthen := (hf (q.run answer w).1).clock_le _ ((behaviour_run q w).symm ▸ hdelay)
    rw [run_seq, Nat.add_mul]
    omega
  unbroken w hdelay hroom := by
    have hfirst := hq.clock_le w hdelay
    rw [HasRoomFor, Nat.add_mul] at hroom
    refine unbroken_bind_iff.2 ⟨hq.unbroken w hdelay ?_, (hf _).unbroken _ ((behaviour_run q w).symm ▸ hdelay) ?_⟩
    · rw [HasRoomFor]
      omega
    · rw [HasRoomFor]
      omega

theorem lead (hq : Spends latest p 0 q) (hf : ∀ a, Spends latest p n (f a)) : Spends latest p n (q >>= f) :=
  (hq.bind hf).mono (Nat.le_of_eq (Nat.zero_add n))

theorem trail (hq : Spends latest p n q) (hf : ∀ a, Spends latest p 0 (f a)) : Spends latest p n (q >>= f) := hq.bind hf

theorem bind_except {a : Action α} {g : α → Action β} (ha : Spends latest p n a.run)
    (hg : ∀ x, Spends latest p m (g x).run) : Spends latest p (n + m) (a >>= g).run := by
  rw [ExceptT.run_bind]
  refine ha.bind fun x => ?_
  cases x with
  | ok x => exact hg x
  | error e => exact (spends_of_asks (.pure _)).mono (Nat.zero_le m)

theorem lead_except {a : Action α} {g : α → Action β} (ha : Spends latest p 0 a.run)
    (hg : ∀ x, Spends latest p n (g x).run) : Spends latest p n (a >>= g).run :=
  (ha.bind_except hg).mono (Nat.le_of_eq (Nat.zero_add n))

theorem trail_except {a : Action α} {g : α → Action β} (ha : Spends latest p n a.run)
    (hg : ∀ x, Spends latest p 0 (g x).run) : Spends latest p n (a >>= g).run := ha.bind_except hg

end Spends

theorem spends_of_comprises {a : Action α} {s : Step}
    (h : Comprises (Admits p s) (fun t => t.existsWithin = none) a.run) : Spends latest p 0 a.run :=
  spends_of_asks (h.asks_of_none.mono fun _ => prompt_of_admits)

theorem spends_machine (r : Machine.Request) (hr : Prompt (.machine r) := by trivial) :
    Spends latest p 0 (HasMachine.machine r : Program interface (Machine.Answer r)) := spends_of_asks (.perform hr)

theorem spends_waitReady (hp : WholeMillis p) (hpoll : t.pollEvery = p.limits.pollInterval)
    (hT : t.existsWithin = some p.limits.wait) (s : Step) : Spends latest p 1 (waitReady p t).run := by
  refine Spends.trail_except ?_ fun _ => ?_
  · rw [onFailure, ExceptT.run_mk]
    refine (spends_untilExists hp hpoll hT).trail fun x => ?_
    cases x with
    | ok x => exact spends_of_asks (.pure _)
    | error e => exact spends_of_asks (((asks_diagnose p s _).mono fun _ => prompt_of_admits).bind fun _ => .pure _)
  · exact spends_of_comprises (comprises_untilCondition p s ..)

def waits : Step → Nat
  | .database | .objectStore | .serving => 1
  | .ns | .operator | .access => 0

theorem spends_perform (hp : WholeMillis p) (s : Step) : Spends latest p (waits s) (perform p s).run := by
  have hquiet {α : Type} {a : Action α} (ha : Comprises (Admits p s) (fun t => t.existsWithin = none) a.run) :
      Spends latest p 0 a.run := spends_of_comprises ha
  cases s with
  | ns => exact hquiet ((comprises_perform p .ns).mono (fun _ => id) nofun)
  | database =>
      refine (hquiet (comprises_render ..)).lead_except fun manifest => ?_
      refine (hquiet (comprises_apply ..)).lead_except fun _ => ?_
      exact (spends_waitReady hp rfl rfl .database).trail_except fun _ => hquiet (comprises_recreateSecret ..)
  | objectStore =>
      refine (hquiet (comprises_recreateSecret ..)).lead_except fun _ => ?_
      refine (hquiet (comprises_call ..)).lead_except fun _ => ?_
      refine (hquiet (comprises_render ..)).lead_except fun manifest => ?_
      refine (hquiet (comprises_apply ..)).lead_except fun _ => ?_
      exact (spends_waitReady hp rfl rfl .objectStore).trail_except fun _ => hquiet (comprises_untilCondition ..)
  | operator =>
      refine hquiet ((comprises_perform p .operator).mono (fun _ => id) ?_)
      rintro t ⟨⟩
      rfl
  | serving =>
      refine (hquiet (.of_asks (.lift (asks_logWarnings ..)))).lead_except fun _ => ?_
      refine Spends.lead_except (hquiet (.of_asks (Asks.bind (.perform ⟨rfl, rfl, rfl⟩) fun _ => .pure _))) fun _ => ?_
      refine (hquiet (comprises_info _ _ (by simp))).lead_except fun _ => ?_
      refine (hquiet (comprises_apply ..)).lead_except fun _ => ?_
      exact spends_waitReady hp rfl rfl .serving
  | access => exact hquiet ((comprises_perform p .access).mono (fun _ => id) nofun)

theorem spends_takeSteps (hp : WholeMillis p) (steps : List Step) :
    Spends latest p ((steps.filter (·.isEnabled p)).map waits).sum (takeSteps p steps) := by
  induction steps with
  | nil => exact spends_of_asks (.pure _)
  | cons s rest ih =>
      rw [takeSteps]
      split
      case isTrue hs =>
        rw [List.filter_cons_of_pos hs, List.map_cons, List.sum_cons]
        refine (spends_machine _).lead fun _ => (spends_machine _).lead fun _ => ?_
        refine (spends_perform hp s).bind fun r => ?_
        cases r with
        | ok x => exact (spends_machine _).lead fun _ => ih.trail fun _ => spends_of_asks (.pure _)
        | error e =>
            refine Spends.mono ?_ (Nat.zero_le _)
            exact (spends_machine _).lead fun _ => (spends_machine _).lead fun _ => spends_of_asks (.pure _)
      case isFalse hs =>
        rw [List.filter_cons_of_neg hs]
        exact (spends_machine _).lead fun _ => ih.trail fun _ => spends_of_asks (.pure _)

theorem spends_runRecorded (hp : WholeMillis p) :
    Spends latest p ((Step.all.filter (·.isEnabled p)).map waits).sum (runRecorded p) := by
  refine (spends_machine _).lead fun id => (spends_machine _).lead fun _ => ?_
  refine (spends_takeSteps hp Step.all).trail fun x => ?_
  refine Spends.lead (spends_of_asks ((asks_release _).mono fun _ => prompt_of_clears)) fun _ => ?_
  exact spends_of_asks (((asks_logSummary _).mono (by rintro _ ⟨e, rfl⟩; trivial)).bind fun _ => .pure _)

end MemoryCluster

end Rehearsal

end Rollout
