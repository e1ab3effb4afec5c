import Rollout.Diagnosis.Collect
import Rollout.Proofs.Site.Calls

namespace Rollout.Diagnosis

open Cluster Program Site

theorem surveys_findPods (w : Resource) : Surveys (findPods w) := by
  refine (surveys_attempt rfl).bind fun x => ?_
  rcases x with _ | (_ | ⟨p, ps⟩)
  · refine (surveys_attempt rfl).bind fun y => ?_
    cases y <;> exact .pure _
  · refine (surveys_attempt rfl).bind fun y => ?_
    cases y <;> exact .pure _
  · exact .pure _

theorem surveys_describe (r : Resource) : Surveys (describe r) :=
  (surveys_attempt rfl).bind fun _ => .pure _

theorem surveys_when {b : Bool} {p : Program interface Evidence} (hp : Surveys p) : Surveys (when b p) := by
  cases b with
  | false => exact .pure _
  | true => exact hp.bind fun _ => .pure _

theorem surveys_inspect (ns pod : String) : Surveys (inspect ns pod) := by
  refine (surveys_describe _).bind fun description => ?_
  refine (surveys_attempt rfl).bind fun x => ?_
  cases x with
  | error e => exact .pure _
  | ok phase =>
      refine (surveys_when ?_).bind fun logs => (surveys_when ?_).bind fun events => .pure _
      · exact (surveys_attempt rfl).bind fun _ => .pure _
      · exact (surveys_attempt rfl).bind fun _ => .pure _

theorem surveys_inspectAll (ns : String) (ps : List String) : Surveys (inspectAll ns ps) := by
  induction ps with
  | nil => exact .pure _
  | cons p ps ih => exact (surveys_inspect ns p).bind fun _ => ih.bind fun _ => .pure _

theorem surveys_inspectNew (ns : String) (listed : List PodReport) (ps : List String) :
    Surveys (inspectNew ns listed ps) := by
  induction ps generalizing listed with
  | nil => exact .pure _
  | cons p ps ih =>
      rw [inspectNew]
      split
      · exact ih listed
      · exact (surveys_inspect ns p).bind fun _ => ih _

theorem surveys_probe (limit : Duration) (name image ns : String) (words : List String) :
    Surveys (probe limit name image ns words) :=
  (surveys_attempt rfl).bind fun _ => .pure _

theorem surveys_reachPod (limit : Duration) (ns pod : String) : Surveys (reachPod limit ns pod) := by
  refine (surveys_attempt rfl).bind fun x => ?_
  rcases x with e | (_ | address)
  · exact .pure _
  · exact .pure _
  · exact surveys_probe ..

theorem surveys_reachPods (limit : Duration) (ns : String) (ps : List String) (found : Sorted Evidence) :
    Surveys (reachPods limit ns ps found) := by
  induction ps generalizing found with
  | nil => exact .pure _
  | cons p ps ih => exact (surveys_reachPod limit ns p).bind fun _ => ih _

theorem surveys_surveyObjectStore (limit : Duration) (ns : String) : Surveys (surveyObjectStore limit ns) := by
  refine (surveys_attempt rfl).bind fun service => ?_
  refine (surveys_attempt rfl).bind fun front => ?_
  refine (surveys_attempt rfl).bind fun back => ?_
  refine (surveys_probe ..).bind fun resolution => ?_
  refine (surveys_probe ..).bind fun reached => ?_
  refine (surveys_attempt rfl).bind fun pods => ?_
  refine (surveys_reachPods ..).bind fun found => ?_
  exact (surveys_attempt rfl).bind fun table => .pure _

theorem surveys_collect (limit : Duration) (w : Resource) : Surveys (collect limit w) := by
  refine (surveys_warn ..).bind fun _ => (surveys_describe w).bind fun description => ?_
  refine (surveys_findPods w).bind fun names => (surveys_inspectAll w.ns names).bind fun pods => ?_
  split
  · exact (surveys_surveyObjectStore ..).bind fun _ => .pure _
  · split
    · refine (surveys_attempt rfl).bind fun x => ?_
      cases x with
      | error e => exact (surveys_describe _).bind fun _ => .pure _
      | ok ps => exact (surveys_inspectNew ..).bind fun _ => (surveys_describe _).bind fun _ => .pure _
    · exact .pure _

theorem surveys_logLines (ls : List String) : Surveys (logLines ls) := by
  induction ls with
  | nil => exact .pure _
  | cons l ls ih => exact (surveys_warn ..).bind fun _ => ih

theorem surveys_collectAndLog (limit : Duration) (w : Resource) : Surveys (collectAndLog limit w) := by
  unfold collectAndLog
  refine (surveys_collect limit w).bind fun r => ?_
  generalize Text.linesOf r.render = ls
  exact (surveys_logLines ls).bind fun _ => .pure r

theorem inquires_collect (limit : Duration) (w : Resource) : Inquires (collect limit w) :=
  (surveys_collect limit w).inquires

theorem inquires_collectAndLog (limit : Duration) (w : Resource) : Inquires (collectAndLog limit w) :=
  (surveys_collectAndLog limit w).inquires

end Rollout.Diagnosis
