import Rollout.Proofs.Deployment.Credentials
import Rollout.Proofs.Deployment.Extract
import Rollout.Proofs.Deployment.Material

namespace Rollout

open Program Site

def Site.Request.onFiles : Request → Option Request
  | .render .operator => some (.render .operator)
  | .machine (.write path text) => some (.machine (.write path text))
  | _ => none

namespace Deployment

variable {σ : Type} {p : Plan} {h : Handler Site.interface σ} {x : σ} {u v : List Event} {e : Event}

theorem eq_of_onFiles {r r' : Request} (h : r.onFiles = some r') : r = r' := by
  unfold Request.onFiles at h
  split at h
  · exact Option.some.inj h
  · exact Option.some.inj h
  · cases h

def filesOf (t : List Event) : List Request := t.filterMap fun e => Request.onFiles e.1

theorem onFiles_of_incidental {r : Request} (h : Incidental r) : r.onFiles = none := by
  unfold Request.onFiles
  split
  · exact h.elim
  · exact h.elim
  · rfl

theorem extracts_onFiles (p : Plan) :
    Extracts p Request.onFiles (fun _ => True) (fun _ => "") (fun _ => []) where
  incidental _ := onFiles_of_incidental
  ns := .of_within (within_namespaceCourse rfl rfl)
  manifest _ _ _ _ := rfl
  queried _ := .of_within (within_appears fun _ => rfl)

theorem filesOf_of_course {w : List Event} (hw : w ∈ course p) :
    filesOf w = [.render .operator, .machine (.write p.places.manifest p.design.yaml)] := by
  refine ((extracts_onFiles p).course w hw fun _ _ => trivial).trans ?_
  cases hdatabase : p.needsDatabase with
  | _ =>
      cases hstore : p.needsObjectStore with
      | _ => simp [Step.all, Step.isEnabled, hdatabase, hstore, extract, deployed, Request.onFiles]

/-- Before a run changes a file it has changed none, or only those that come with the operator. -/
theorem files_before {r : Request} {y : Answer r} (ht : (runRecorded p).transcript h x = u ++ ⟨r, y⟩ :: v)
    (hr : r.onFiles = some r) :
    filesOf u = [] ∧ r = .render .operator ∨
      filesOf u = [.render .operator] ∧ r = .machine (.write p.places.manifest p.design.yaml) := by
  have hquiet (r : Request) (hr : r.isCall = false) : r.onFiles = none :=
    onFiles_of_incidental (incidental_of_not_isCall hr)
  have hcall : r.isCall = true := Bool.eq_true_of_not_eq_false fun hno => by simp [hquiet r hno] at hr
  have hcalls : calls ((run p).run.transcript h x) = calls u ++ ⟨r, y⟩ :: calls v := by
    rw [transcript_run, ht, calls_append, calls_cons_of_isCall hcall]
  obtain ⟨z, w, hw⟩ := course_of_calls (runs_transcript h (run p).run x) hcalls
  have hfiles := filesOf_of_course hw
  -- The request is one of the two that a course has, and what comes before it are those before that one.
  have hhead : filesOf (⟨r, z⟩ :: w) = r :: filesOf w := List.filterMap_cons_some hr
  rw [filesOf, List.filterMap_append, filterMap_calls hquiet] at hfiles
  change filesOf u ++ filesOf (⟨r, z⟩ :: w) = _ at hfiles
  rw [hhead] at hfiles
  rcases List.append_eq_cons_iff.1 hfiles with ⟨hu, hrest⟩ | ⟨u', hu, hrest⟩
  · exact .inl ⟨hu, (List.cons.inj hrest).1⟩
  · rcases List.append_eq_cons_iff.1 hrest.symm with ⟨rfl, hrest⟩ | ⟨u'', rfl, hrest⟩
    · exact .inr ⟨hu, (List.cons.inj hrest).1.symm⟩
    · simp at hrest

theorem works_before (ht : (runRecorded p).transcript h x = u ++ e :: v) (he : Request.isCall e.1 = true) :
    ∀ e' ∈ u, Works p e'.1 := by
  obtain ⟨work, cleanup, released, hsplit, hworks, -, hcleanup⟩ := parts_of_runs (runs_transcript h (runRecorded p) x)
  have haside : Aside (cleanup ++ ((runRecorded p).run h x).1.1.report.map logged) :=
    ((staysAside_release _).aside hcleanup).append (aside_map_logged _)
  rw [List.append_assoc] at hsplit
  -- A call does not stand among what is asked once there is no more work.
  rcases List.append_eq_append_iff.1 (ht.symm.trans hsplit) with ⟨c, hc, -⟩ | ⟨c, -, hc⟩
  · exact fun e' he' => hworks e' (hc ▸ List.mem_append_left _ he')
  · have hcall := Request.isCall_of_isAside (haside e (hc ▸ List.mem_append_right _ List.mem_cons_self))
    rw [he] at hcall
    cases hcall

end Deployment

end Rollout
