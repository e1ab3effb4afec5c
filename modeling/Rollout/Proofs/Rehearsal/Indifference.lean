import Rollout.Proofs.Deployment.Worlds
import Rollout.Proofs.Diagnosis.Inquiries
import Rollout.Proofs.Rehearsal.CallTexts
import Rollout.Proofs.Rehearsal.History
import Rollout.Proofs.Rehearsal.Likeness

namespace Rollout

theorem Site.Request.isInquiry_of_isSteady {r : Request} (h : r.isSteady = true) : r.isInquiry = false := by
  match r with
  | .cluster c =>
      cases c with
      | createSecret s => cases h
      | _ => simpa [isSteady, isInquiry] using h
  | .poll .. | .render _ | .record .. => rfl
  | .machine m =>
      cases m with
      | log e => cases h
      | _ => rfl

namespace Rehearsal

open Cluster Program Site

namespace MemoryCluster

def diagnosticWords : List String :=
  ["describe", "get", "pods", "phase", "pod_ip", "logs", "events", "list_pods", "run_probe"]

def isDiagnosticText (text : String) : Bool := diagnosticWords.contains (firstWord text)

theorem isDiagnosticText_callText (c : Call) : isDiagnosticText (callText c) = c.isDiagnostic := by
  rw [isDiagnosticText, firstWord_callText]
  cases c with
  | _ => simp [word, diagnosticWords, Call.isDiagnostic]

/-- The same cluster with other pods, and with or without answers to diagnostic queries. -/
def withEvidence (w : MemoryCluster) (pods : Sorted (List String)) (phases : Sorted Phase) (failing : Bool) :
    MemoryCluster :=
  { w with behaviour := { w.behaviour with pods := pods, phases := phases, failingProbes := failing } }

/-- What there is of a cluster apart from what diagnoses have to do with: what they get to see, which of the
calls were theirs, and the log. -/
def undiagnosed (w : MemoryCluster) : MemoryCluster :=
  { w.withEvidence [] [] false with
    calls := w.calls.filter fun text => !isDiagnosticText text
    station := w.station.withJournal [] }

section

variable (w : MemoryCluster)

theorem undiagnosed_withEvidence (pods : Sorted (List String)) (phases : Sorted Phase) (failing : Bool) :
    (w.withEvidence pods phases failing).undiagnosed = w.undiagnosed := rfl

theorem undiagnosed_record {text : String} (h : isDiagnosticText text = true) :
    (w.record text).undiagnosed = w.undiagnosed := by
  have hcalls : (text :: w.calls).filter (fun text => !isDiagnosticText text) =
      w.calls.filter fun text => !isDiagnosticText text := List.filter_cons_of_neg (by simp [h])
  rw [undiagnosed, undiagnosed, record, hcalls]
  rfl

theorem record_undiagnosed {text : String} (h : isDiagnosticText text = false) :
    w.undiagnosed.record text = (w.record text).undiagnosed := by
  have hcalls : (text :: w.calls).filter (fun text => !isDiagnosticText text) =
      text :: w.calls.filter fun text => !isDiagnosticText text := List.filter_cons_of_pos (by simp [h])
  rw [undiagnosed, undiagnosed, record, record, hcalls]
  rfl

theorem countPoll_undiagnosed (r : Resource) : w.undiagnosed.countPoll r = (w.countPoll r).undiagnosed := rfl

-- By rewriting: to compare the clocks instead would be to count.
theorem pass_undiagnosed (d : Duration) : w.undiagnosed.pass d = (w.pass d).undiagnosed := by
  rw [undiagnosed, undiagnosed, pass, pass, withEvidence, withEvidence]
  rfl

theorem effect_undiagnosed (c : Call) : w.undiagnosed.effect c = (w.effect c).undiagnosed := by
  cases c with
  | apply _ _ | createNamespace _ | createSecret _ | delete _ =>
      simp only [effect, apply_ite undiagnosed]
      rfl
  | present r =>
      change (w.undiagnosed.countPoll r).pass w.behaviour.existsDelay = _
      rw [countPoll_undiagnosed, pass_undiagnosed]
      rfl
  | _ => rfl

/-- Diagnoses apart, the two answer alike and go on alike. -/
theorem answer_undiagnosed {r : Site.Request} (h : r.isInquiry = false) :
    answer r w.undiagnosed = ((answer r w).1, (answer r w).2.undiagnosed) := by
  cases r with
  | cluster c =>
      have htext : isDiagnosticText (callText c) = false := (isDiagnosticText_callText c).trans h
      have houtcome : w.undiagnosed.outcome c = w.outcome c := by
        cases c with
        | apply _ _ | namespaceExists _ | createNamespace _ | createSecret _ | delete _ | present _ | await _ _ _ =>
            rfl
        | _ => cases h
      change (_, (w.undiagnosed.record (callText c)).effect c) = (_, ((w.record (callText c)).effect c).undiagnosed)
      rw [record_undiagnosed w htext, effect_undiagnosed, houtcome]
      rfl
  | poll r limit =>
      have htext : isDiagnosticText (callText (.present r)) = false := isDiagnosticText_callText (.present r)
      change (_, ((w.undiagnosed.record _).countPoll r).pass (w.behaviour.existsDelay.shorter limit)) = _
      rw [record_undiagnosed w htext, countPoll_undiagnosed, pass_undiagnosed]
      rfl
  | render part =>
      cases part with
      | operator =>
          have hgenerate : w.undiagnosed.station.generate w.undiagnosed.tlsFiles = _ :=
            w.station.generate_withJournal [] w.tlsFiles
          rw [answer_operator, answer_operator, operatorOutcome, hgenerate]
          rfl
      | _ => rfl
  | record key value => rfl
  | machine m =>
      have hlog (e : LogEntry) : m ≠ .log e := by
        rintro rfl
        cases h
      have hmachine (w : MemoryCluster) : answer (.machine m) w =
          ((Workstation.answer m w.station).1, { w with station := (Workstation.answer m w.station).2 }) := rfl
      have hanswer : Workstation.answer m w.undiagnosed.station = _ := w.station.answer_withJournal [] hlog
      rw [hmachine, hmachine, hanswer]
      generalize Workstation.answer m w.station = x
      rfl

theorem undiagnosed_answer {r : Site.Request} (h : r.isInquiry = true) :
    (answer r w).2.undiagnosed = w.undiagnosed := by
  match r with
  | .cluster c =>
      have htext : isDiagnosticText (callText c) = true := (isDiagnosticText_callText c).trans h
      have heffect : (w.record (callText c)).effect c = w.record (callText c) := by
        cases c with
        | apply _ _ | namespaceExists _ | createNamespace _ | createSecret _ | delete _ | present _ | await _ _ _ =>
            cases h
        | _ => rfl
      change ((w.record (callText c)).effect c).undiagnosed = _
      rw [heffect, undiagnosed_record w htext]
  | .machine (.log e) => rfl

end

/-- Two clusters side by side that differ in nothing but what diagnoses have to do with. -/
def undisturbed : Worlds Site.interface MemoryCluster MemoryCluster :=
  ⟨answer, answer, fun w v => w.undiagnosed = v.undiagnosed⟩

theorem undisturbed_perform {r : Site.Request} (h : r.isInquiry = false) :
    undisturbed.Matches Eq (perform (I := Site.interface) r) (perform (I := Site.interface) r) := by
  intro w v hwv
  have hanswer : answer r w.undiagnosed = answer r v.undiagnosed := congrArg (answer r) hwv
  rw [answer_undiagnosed w h, answer_undiagnosed v h] at hanswer
  exact Prod.mk.inj hanswer

theorem undisturbed_inquires {α β : Type} {p : Program Site.interface α} {q : Program Site.interface β}
    (hp : Inquires p) (hq : Inquires q) : undisturbed.Matches (fun _ _ => True) p q := by
  intro w v hwv
  refine ⟨trivial, ?_⟩
  have hleft : (p.run answer w).2.undiagnosed = v.undiagnosed :=
    Worlds.alike_run_left (W := undisturbed) hp (fun r w v h hwv => (undiagnosed_answer w h).trans hwv) hwv
  exact Worlds.alike_run_right (W := undisturbed) hq (fun r w v h hwv => hwv.trans (undiagnosed_answer v h).symm)
    hleft

theorem undisturbed_discreet : undisturbed.Discreet Eq where
  steady r hr := undisturbed_perform (Site.Request.isInquiry_of_isSteady hr)
  created s s' h := by
    subst h
    exact .ask (undisturbed_perform rfl) fun reply => .pure rfl
  logged e e' h := (undisturbed_inquires (.perform rfl) (.perform rfl)).mono fun _ _ _ => rfl
  now := (undisturbed_perform (r := .machine .now) rfl).mono fun _ _ _ => trivial
  drawn := (undisturbed_perform (r := .machine .drawId) rfl).mono fun _ _ _ => trivial
  diagnosed limit r :=
    undisturbed_inquires (Diagnosis.inquires_collectAndLog limit r) (Diagnosis.inquires_collectAndLog limit r)

end MemoryCluster

namespace Operation

/-- The operation comes to the same, as far as anybody counts on it: what a diagnosis reports is only read. -/
def SameOutcome : (o : Operation) → o.Outcome → o.Outcome → Prop
  | deploy .., x, y => Deployment.SameOutcome x y
  | awaitExistence _, x, y | awaitAvailability _, x, y | awaitJob .., x, y => x = y
  | diagnose .., _, _ => True

theorem undisturbed_program (o : Operation) :
    MemoryCluster.undisturbed.Matches o.SameOutcome o.program o.program := by
  have hW := MemoryCluster.undisturbed_discreet
  cases o with
  -- Both runs are of one plan: it is the plan with the credentials that it has.
  | deploy p _ => exact hW.runRecorded (c := p.credentials) rfl rfl
  | awaitExistence t => exact hW.untilExists t
  | awaitAvailability t => exact hW.untilCondition _ _ _
  | awaitJob name ns limit => exact hW.untilCondition _ _ _
  | diagnose limit r =>
      have hinquires := Diagnosis.inquires_collect limit r
      exact MemoryCluster.undisturbed_inquires hinquires hinquires

theorem undiagnosed_prepare (o : Operation) (w : MemoryCluster) :
    (o.prepare w).undiagnosed = o.prepare w.undiagnosed := by
  cases o with
  | _ => rfl

theorem sameOutcome_of_undiagnosed_eq (o : Operation) {w v : MemoryCluster} (h : w.undiagnosed = v.undiagnosed) :
    o.SameOutcome (o.outcome w) (o.outcome v) ∧ (o.next w).undiagnosed = (o.next v).undiagnosed := by
  refine undisturbed_program o (o.prepare w) (o.prepare v) ?_
  change (o.prepare w).undiagnosed = (o.prepare v).undiagnosed
  rw [undiagnosed_prepare, undiagnosed_prepare, h]

end Operation

theorem MemoryCluster.undiagnosed_after {w v : MemoryCluster} (h : w.undiagnosed = v.undiagnosed)
    (ops : List Operation) : (w.after ops).undiagnosed = (v.after ops).undiagnosed := by
  induction ops generalizing w v with
  | nil => exact h
  | cons o ops ih => exact ih (o.sameOutcome_of_undiagnosed_eq h).2

/-- What diagnoses get to see makes no difference to deployments and waits, however many of either there have
been, nor to anything that they leave. -/
theorem diagnoses_change_nothing (w : MemoryCluster) (pods : Sorted (List String)) (phases : Sorted Phase)
    (failing : Bool) (ops : List Operation) :
    (∀ o : Operation,
      o.SameOutcome (o.outcome (w.after ops)) (o.outcome ((w.withEvidence pods phases failing).after ops))) ∧
    (w.after ops).undiagnosed = ((w.withEvidence pods phases failing).after ops).undiagnosed := by
  have hafter := MemoryCluster.undiagnosed_after (w.undiagnosed_withEvidence pods phases failing).symm ops
  exact ⟨fun o => (o.sameOutcome_of_undiagnosed_eq hafter).1, hafter⟩

end Rehearsal

end Rollout
