import Rollout.Proofs.Deployment.Credentials
import Rollout.Proofs.Deployment.Record
import Rollout.Proofs.Rehearsal.Outcome
import Rollout.Proofs.Rehearsal.Replay
import Rollout.Proofs.Wait.Queries

namespace Rollout

open Cluster Program Site Deployment

namespace Deployment

variable {p : Plan} {s : Step} {t : List Event}

theorem exists_mem_of_granted {c : Call} (h : Includes t (granted c)) :
    ∃ reply : Reply c.Answer, ⟨.cluster c, reply⟩ ∈ t ∧ reply.outcome.isOk = true := by
  obtain ⟨w, hw, hsub⟩ := h
  obtain ⟨x, reply, hx, rfl⟩ := Language.mem_iSup.1 hw
  refine ⟨reply, hsub.subset (List.mem_singleton_self _), ?_⟩
  rw [hx]
  rfl

end Deployment

namespace Rehearsal.MemoryCluster

variable {w w' : MemoryCluster} {α : Type}

theorem found?_answerPoll_iff {r : Resource} {limit : Duration} :
    ((w.answerPoll r limit).1.found? limit).isSome = true ↔
      w.isThere r (w.pollsOf r + 1) = true ∧ w.behaviour.existsDelay.timed.nanos ≤ limit.nanos := by
  change ((Poll.answered w.behaviour.existsDelay.timed (w.existsOutcome r (w.pollsOf r + 1))).found? limit).isSome =
    true ↔ _
  rw [Option.isSome_iff_exists]
  simp only [Wait.found?_eq_some_iff, Poll.answered.injEq, existsOutcome]
  by_cases hthere : w.isThere r (w.pollsOf r + 1) = true
  · simp [hthere]
  · rw [if_neg hthere]
    split
    · simp [hthere]
    · simp [hthere]

theorem mem_namespaces_of_reaches {name : String} (h : Reaches w w') (hname : name ∈ w.namespaces) :
    name ∈ w'.namespaces := by
  obtain ⟨texts, hreplays⟩ := h.replays
  exact (hreplays.mem_namespaces name).2 (.inl hname)

/-- The cluster lets a run of the plan pass, and every workload is found by the first query that is made for it. -/
structure Settled (p : Plan) (w : MemoryCluster) : Prop where
  applies : w.behaviour.failingApplies = false
  waits : ∀ t, Targeted p t → t.resource.label ∉ w.behaviour.failingWaits
  job : p.needsObjectStore = true → Resource.label ⟨.job, Stack.objectStoreJob, p.ns⟩ ∉ w.behaviour.failingWaits
  appears : ∀ t T, Targeted p t → t.existsWithin = some T → w.isThere t.resource (w.pollsOf t.resource + 1) = true
  quick : ∀ t T, Targeted p t → t.existsWithin = some T →
    w.behaviour.existsDelay.timed.nanos ≤ (Wait.queryLimit t T.nanos 0).nanos
  namespace_mem : p.ns ∈ w.namespaces

/-- It stays so, whatever clients do. -/
theorem Settled.of_reaches {p : Plan} (h : Settled p w) (hw : Reaches w w') : Settled p w' := by
  obtain ⟨texts, hreplays⟩ := hw.replays
  have hwaits : w'.behaviour.failingWaits = w.behaviour.failingWaits :=
    hreplays.behaviour_eq (f := Behaviour.failingWaits) fun _ => rfl
  have hdelay : w'.behaviour.existsDelay = w.behaviour.existsDelay :=
    hreplays.behaviour_eq (f := Behaviour.existsDelay) fun _ => rfl
  have happear : w'.behaviour.appearAfter = w.behaviour.appearAfter :=
    hreplays.behaviour_eq (f := Behaviour.appearAfter) fun _ => rfl
  constructor
  case applies => rw [hreplays.failingApplies, h.applies]
  case waits =>
    rw [hwaits]
    exact h.waits
  case job =>
    rw [hwaits]
    exact h.job
  case appears =>
    intro t T ht hT
    have hthere : w'.isThere t.resource (w.pollsOf t.resource + 1) = true := by
      rw [isThere, happear]
      exact h.appears t T ht hT
    refine isThere_mono hthere ?_
    rw [hreplays.pollsOf]
    omega
  case quick =>
    rw [hdelay]
    exact h.quick
  case namespace_mem => exact mem_namespaces_of_reaches hw h.namespace_mem

theorem operatorOutcome_eq_ok_iff {text : String} : w.operatorOutcome = .ok text ↔
    (w.station.generate w.tlsFiles).1.isOk = true ∧ w.behaviour.failingOperator = false ∧
      text = manifestOf .operator := by
  rw [operatorOutcome]
  cases (w.station.generate w.tlsFiles).1 with
  | error c => exact iff_of_false nofun fun h => Bool.noConfusion h.1
  | ok x =>
      dsimp only
      split
      case isTrue h => exact iff_of_false nofun fun h' => Bool.noConfusion (h.symm.trans h'.2.1)
      case isFalse h =>
        rw [Except.ok.injEq, eq_comm]
        exact ⟨fun htext => ⟨rfl, Bool.eq_false_iff.2 h, htext⟩, fun h' => h'.2.2⟩

/-- Each of these was asked, and answered so, on the way from one state to another. -/
def Witnessed (w : MemoryCluster) (t : List Event) (w' : MemoryCluster) : Prop :=
  ∀ r x, ⟨r, x⟩ ∈ t → ∃ w₁, w₁.behaviour = w.behaviour ∧ x = (answer r w₁).1 ∧ Reaches w w₁ ∧ Reaches (answer r w₁).2 w'

namespace Witnessed

variable {t : List Event} {r : Resource}

theorem failingApplies (h : Witnessed w t w') {manifest : String} {ns : Option String}
    (hmem : ∃ reply : Reply Unit, ⟨.cluster (.apply manifest ns), reply⟩ ∈ t ∧ reply.outcome.isOk = true) :
    w.behaviour.failingApplies = false := by
  obtain ⟨reply, hmem, hok⟩ := hmem
  obtain ⟨w₁, hb, hreply, -⟩ := h _ _ hmem
  have houtcome : (w₁.outcome (.apply manifest ns)).isOk = true := by
    rw [← hok, hreply]
    rfl
  rw [← hb]
  exact (outcome_apply ..).1 houtcome

theorem failingOperator (h : Witnessed w t w') {text : String} (hmem : ⟨.render .operator, .ok text⟩ ∈ t) :
    w.behaviour.failingOperator = false := by
  obtain ⟨w₁, hb, hrendered, -⟩ := h _ _ hmem
  have houtcome : w₁.operatorOutcome = .ok text := (hrendered.trans (congrArg Prod.fst (answer_operator w₁))).symm
  rw [← hb]
  exact (operatorOutcome_eq_ok_iff.1 houtcome).2.1

theorem found (h : Witnessed w t w') {limit : Duration} {x : Poll} (hmem : ⟨.poll r limit, x⟩ ∈ t)
    (hx : (x.found? limit).isSome = true) (hb' : w'.behaviour = w.behaviour) :
    w'.isThere r (w'.pollsOf r + 1) = true ∧ w.behaviour.existsDelay.timed.nanos ≤ limit.nanos := by
  obtain ⟨w₁, hb, rfl, -, hw'⟩ := h _ _ hmem
  obtain ⟨hthere, hquick⟩ := found?_answerPoll_iff.1 hx
  obtain ⟨texts, hreplays⟩ := hw'.replays
  have hpolls : (answer (.poll r limit) w₁).2.pollsOf r = w₁.pollsOf r + 1 := pollsOf_answerPoll ..
  refine ⟨isThere_mono ((isThere_congr (hb'.trans hb.symm) r _).trans hthere) ?_, hb ▸ hquick⟩
  rw [hreplays.pollsOf, hpolls]
  omega

theorem mem_namespaces (h : Witnessed w t w') {p : Plan} (hmem : Includes t (namespaceCourse p)) :
    p.ns ∈ w'.namespaces := by
  obtain ⟨u, hu, hsub⟩ := hmem
  rcases (Language.mem_add ..).1 hu with ⟨reply, hreply, rfl⟩ | hu
  · obtain ⟨w₁, -, hanswer, -, hw'⟩ := h _ _ (hsub.subset (List.mem_singleton_self _))
    have hcontains : (Except.ok (w₁.namespaces.contains p.ns) : Except Failure Bool) = .ok true := by
      rw [← hreply, hanswer]
      rfl
    have hmem : p.ns ∈ w₁.namespaces := List.contains_iff_mem.1 (Except.ok.inj hcontains)
    exact mem_namespaces_of_reaches hw' (mem_namespaces_of_reaches (.single (.asked _ _)) hmem)
  · obtain ⟨reply, hmem, -⟩ := exists_mem_of_granted ((includes_right includes_self u hu).sublist hsub)
    obtain ⟨w₁, -, -, -, hw'⟩ := h _ _ hmem
    refine mem_namespaces_of_reaches hw' (((replays_answer _ w₁).mem_namespaces p.ns).2 (.inr ?_))
    exact List.mem_singleton_self _

end Witnessed

end Rehearsal.MemoryCluster

end Rollout
