import Rollout.Proofs.Deployment.Breakdown
import Rollout.Proofs.Deployment.Files
import Rollout.Proofs.Rehearsal.Deadlines
import Rollout.Proofs.Rehearsal.Secrets

namespace Rollout

open Cluster Program Site Deployment

namespace Rehearsal.MemoryCluster

variable {α : Type} {p : Plan} {w : MemoryCluster} {t u v : List Event}

theorem disk_of_works {r : Request} (hworks : Works p r) (hfiles : r.onFiles = none) (w : MemoryCluster) :
    (answer r w).2.station.disk = w.station.disk := by
  match r with
  | .machine (.log e) => exact keepsFiles.log e w
  | .machine .now => exact keepsFiles.now w
  | .machine (.hold s) => exact keepsFiles.hold s w
  | .machine (.pause d) => exact keepsFiles.pause d w
  | .machine .drawId => exact keepsFiles.drawId w
  | .machine (.write ..) | .render .operator => cases hfiles
  | .machine (.append ..) | .machine (.read _) | .machine (.occupied _) | .machine (.remove _) => exact hworks.elim
  | .cluster _ | .poll .. | .record .. | .render .database | .render .objectStore =>
      exact disk_answer (by simp) (by simp) w

theorem disk_stateAfter (hworks : ∀ e ∈ t, Works p e.1) (hfiles : filesOf t = []) (w : MemoryCluster) :
    (stateAfter answer w t).station.disk = w.station.disk := by
  refine invariant_stateAfter (h := answer) (P := fun r : Request => Works p r ∧ r.onFiles = none)
    (Q := fun w₁ => w₁.station.disk = w.station.disk) (fun e he => ?_) ?_ rfl
  · exact ⟨hworks e he, List.filterMap_eq_nil_iff.1 hfiles e he⟩
  · rintro r w₁ ⟨hr, hnone⟩ hw₁
    exact (disk_of_works hr hnone w₁).trans hw₁

/-- After the files of the operator have come, they are all that has changed. -/
theorem disk_of_filesOf (hworks : ∀ e ∈ t, Works p e.1) (hfiles : filesOf t = [.render .operator])
    (w : MemoryCluster) :
    (stateAfter answer w t).station.disk = (w.station.generate w.tlsFiles).2.disk := by
  obtain ⟨t₁, ⟨r, x⟩, t₂, rfl, ht₁, hr, ht₂⟩ := List.filterMap_eq_cons_iff.1 hfiles
  obtain rfl : r = .render .operator := eq_of_onFiles hr
  obtain ⟨hworks₁, hworks₂⟩ := List.forall_mem_append.1 hworks
  obtain ⟨-, htls⟩ := equipment_stateAfter w t₁
  have hbefore : (stateAfter answer w t₁).station.disk = w.station.disk :=
    disk_stateAfter hworks₁ (List.filterMap_eq_nil_iff.2 ht₁) w
  have hoperator : (answer (.render .operator) (stateAfter answer w t₁)).2.station.disk =
      ((stateAfter answer w t₁).station.generate (stateAfter answer w t₁).tlsFiles).2.disk :=
    congrArg (fun out : _ × MemoryCluster => out.2.station.disk) (answer_operator (stateAfter answer w t₁))
  rw [stateAfter_append]
  refine (disk_stateAfter (List.forall_mem_cons.1 hworks₂).2 ht₂ _).trans (hoperator.trans ?_)
  rw [htls]
  exact (generate_congr hbefore w.tlsFiles).2

section Again

variable (hfiles : FilesWritable p w) (htls : w.tlsFiles = p.places.tlsFiles)

include hfiles htls

theorem isOk_render_operator (hfailing : w.behaviour.failingOperator = false) {x : Except Failure String}
    (ht : (runRecorded p).transcript answer w = u ++ ⟨.render .operator, x⟩ :: v) : x.isOk = true := by
  obtain ⟨hbefore, -⟩ := (files_before ht rfl).resolve_right fun h => nomatch h.2
  obtain ⟨hb, htls'⟩ := equipment_stateAfter w u
  have hdisk := disk_stateAfter (works_before ht rfl) hbefore w
  have houtcome : (stateAfter answer w u).operatorOutcome = .ok (manifestOf .operator) := by
    rw [operatorOutcome_eq_ok_iff, hb, htls', htls, (generate_congr hdisk _).1]
    exact ⟨hfiles.generates, hfailing, rfl⟩
  obtain rfl : x = .ok (manifestOf .operator) :=
    (answer_of_transcript_eq ht).trans ((congrArg Prod.fst (answer_operator _)).trans houtcome)
  rfl

theorem isOk_write_manifest {path text : String} {x : Except IoCause Unit}
    (ht : (runRecorded p).transcript answer w = u ++ ⟨.machine (.write path text), x⟩ :: v) : x.isOk = true := by
  obtain ⟨hbefore, hr⟩ := (files_before ht rfl).resolve_left fun h => nomatch h.2
  cases hr
  have hdisk := disk_of_filesOf (works_before ht rfl) hbefore w
  have hwritten : x = ((stateAfter answer w u).station.change
      ((w.station.generate p.places.tlsFiles).2.disk.write p.places.manifest p.design.yaml)).1 := by
    rw [← htls, ← hdisk]
    exact answer_of_transcript_eq ht
  have hwrites := hfiles.writes
  rw [hwritten]
  cases h : (w.station.generate p.places.tlsFiles).2.disk.write p.places.manifest p.design.yaml with
  | ok d => rfl
  | error c =>
      rw [h] at hwrites
      cases hwrites

theorem not_plain (hfailing : w.behaviour.failingOperator = false) {e : Event}
    (he : e ∈ (runRecorded p).transcript answer w) {failure : Failure} : ¬Plain e failure := by
  intro hplain
  obtain ⟨u, v, huv⟩ := List.append_of_mem he
  cases hplain with
  | checkNamespace | createNamespace | delete | record => cases answer_of_transcript_eq huv
  | createSecret s took =>
      have hrefused := (Stores.runRecorded p w).2 _ he
      exact hrefused nofun
  | render part =>
      cases part with
      | operator => exact Bool.noConfusion (isOk_render_operator hfiles htls hfailing huv)
      | database | objectStore => cases answer_of_transcript_eq huv
  | write path text c => exact Bool.noConfusion (isOk_write_manifest hfiles htls huv)

end Again

end Rehearsal.MemoryCluster

namespace Rehearsal

namespace Operation

variable {latest : Nat} {o : Operation} {w : MemoryCluster}

def requests (o : Operation) (w : MemoryCluster) : List Request :=
  (o.program.transcript MemoryCluster.answer (o.prepare w)).map Sigma.fst

end Operation

section Again

variable {latest : Nat} {p : Plan} {earlier now : MemoryCluster}
  (h : MemoryCluster.Settled p ((Operation.deploy p false).prepare now))

include h

end Again

end Rehearsal

end Rollout
