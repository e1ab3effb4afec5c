import Rollout.Proofs.Site.Calls
import Rollout.Rehearsal.MemoryCluster

namespace Rollout

open Cluster Site

def Site.Request.sparesSecrets : Request → Bool
  | .cluster (.createSecret _) => false
  | .cluster (.delete r) => r.kind != .secret
  | _ => true

theorem Site.Request.of_sparesSecrets_eq_false {r : Request} (h : r.sparesSecrets = false) :
    (∃ s, r = .cluster (.createSecret s)) ∨ ∃ x : Resource, x.kind = .secret ∧ r = .cluster (.delete x) := by
  cases r with
  | cluster c =>
      cases c with
      | createSecret s => exact .inl ⟨s, rfl⟩
      | delete x => exact .inr ⟨x, by simpa [sparesSecrets] using h, rfl⟩
      | _ => cases h
  | _ => cases h

namespace Rehearsal

namespace Workstation

variable (w : Workstation)

-- By rewriting: to compare the two clocks instead would be to count.
theorem journal_pass (d : Duration) : (w.pass d).journal = w.journal := by rw [pass]

theorem journal_answer {r : Machine.Request} (h : ∀ e, r ≠ .log e) : (answer r w).2.journal = w.journal := by
  have hchange (d : Except IoCause Disk) : (w.change d).2.journal = w.journal := by
    cases d with
    | ok d => rfl
    | error c => rfl
  cases r with
  | log e => exact absurd rfl (h e)
  | write path text => exact hchange _
  | append path text => exact hchange _
  | remove path => exact hchange _
  | pause d => exact w.journal_pass d
  | _ => rfl

theorem work_eq (a : Disk.Work Unit) :
    w.work a = ((a.run.run w.disk).1, { w with disk := (a.run.run w.disk).2 }) := by
  rw [work]
  rfl

theorem journal_generate (paths : List String) : (w.generate paths).2.journal = w.journal := by
  rw [generate, work_eq]

end Workstation

namespace MemoryCluster

variable (w : MemoryCluster)

def operatorOutcome : Except Failure String :=
  match (w.station.generate w.tlsFiles).1 with
  | .error c => .error (.io c)
  | .ok _ =>
    if w.behaviour.failingOperator then .error (injected "kustomize build operator")
    else .ok (manifestOf .operator)

theorem answer_operator :
    answer (.render .operator) w =
      (w.operatorOutcome,
        { w with
          rendered := .operator :: w.rendered
          station := (w.station.generate w.tlsFiles).2 }) := by
  change w.answerRender .operator = _
  unfold answerRender operatorOutcome
  dsimp only
  cases (w.station.generate w.tlsFiles).1 with
  | error c => rfl
  | ok x =>
      dsimp only
      split
      · rfl
      · rfl

theorem journal_pass (d : Duration) : (w.pass d).station.journal = w.station.journal := by
  rw [pass]
  exact w.station.journal_pass d

theorem secrets_pass (d : Duration) : (w.pass d).secrets = w.secrets := by rw [pass]

theorem journal_effect (c : Call) : (w.effect c).station.journal = w.station.journal := by
  cases c with
  | apply _ _ | createNamespace _ | createSecret _ | delete _ =>
      rw [effect]
      split
      · rfl
      · rfl
  | present r => exact (w.countPoll r).journal_pass _
  | _ => rfl

theorem journal_answer {r : Request} (h : ∀ e, r ≠ .machine (.log e)) :
    (answer r w).2.station.journal = w.station.journal := by
  cases r with
  | cluster c => exact (w.record _).journal_effect c
  | poll r limit => exact ((w.record _).countPoll r).journal_pass _
  | render part =>
      cases part with
      | operator =>
          rw [answer_operator]
          exact w.station.journal_generate w.tlsFiles
      | _ => rfl
  | record key value => rfl
  | machine r => exact w.station.journal_answer fun e he => h e (he ▸ rfl)

theorem secrets_effect {c : Call} (h : Request.sparesSecrets (.cluster c) = true) :
    (w.effect c).secrets = w.secrets := by
  cases c with
  | createSecret s => cases h
  | delete r => exact congrArg secrets (if_neg (bne_iff_ne.1 h))
  | apply _ _ | createNamespace _ =>
      rw [effect]
      split
      · rfl
      · rfl
  | present r => exact (w.countPoll r).secrets_pass _
  | _ => rfl

theorem secrets_answer {r : Request} (h : r.sparesSecrets = true) : (answer r w).2.secrets = w.secrets := by
  cases r with
  | cluster c => exact (w.record _).secrets_effect h
  | poll r limit => exact ((w.record _).countPoll r).secrets_pass _
  | render part =>
      cases part with
      | operator => rw [answer_operator]
      | _ => rfl
  | record key value => rfl
  | machine r => rfl

def alreadyExists (s : Secret) : Failure :=
  .operation ("kubectl create secret " ++ s.name) .zero "AlreadyExists"

theorem answer_createSecret_of_isSome {s : Secret} (h : (w.secrets.get? s.name).isSome = true) :
    answer (.cluster (.createSecret s)) w =
      (⟨.zero, .error (alreadyExists s)⟩, w.record (callText (.createSecret s))) :=
  Prod.ext (congrArg (Reply.mk _) (if_pos h)) (if_pos h)

theorem answer_createSecret_of_isSome_eq_false {s : Secret} (h : (w.secrets.get? s.name).isSome = false) :
    answer (.cluster (.createSecret s)) w =
      (⟨.zero, .ok ()⟩, { w with
        calls := callText (.createSecret s) :: w.calls
        secrets := w.secrets.insert s.name s }) :=
  have hfree : ¬(w.secrets.get? s.name).isSome = true := Bool.eq_false_iff.1 h
  Prod.ext (congrArg (Reply.mk _) (if_neg hfree)) (if_neg hfree)

theorem answer_delete_secret {r : Resource} (h : r.kind = .secret) :
    answer (.cluster (.delete r)) w =
      (⟨.zero, .ok ()⟩, { w with
        calls := callText (.delete r) :: w.calls
        secrets := w.secrets.filter fun e => e.1 != r.name }) := congrArg (Prod.mk _) (if_pos h)

end MemoryCluster

end Rehearsal

end Rollout
