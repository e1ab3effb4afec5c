import Rollout.Proofs.Deployment.Record

namespace Rollout

open Cluster Program Site

namespace Site

variable {α γ : Type} {f : Request → Option γ} {G : Event → Prop} {out out' : List γ} {L M : Language Event}

/-- As long as all answers are of a kind, there is only one way how a course shows in requests. -/
def Yields (f : Request → Option γ) (G : Event → Prop) (out : List γ) (L : Language Event) : Prop :=
  ∀ w ∈ L, (∀ e ∈ w, G e) → w.filterMap (fun e => f e.1) = out

theorem yields_one : Yields f G [] 1 := by
  rintro w rfl _
  rfl

theorem Yields.mul (hL : Yields f G out L) (hM : Yields f G out' M) : Yields f G (out ++ out') (L * M) := by
  intro w hw hG
  obtain ⟨u, hu, v, hv, rfl⟩ := Language.mem_mul.1 hw
  obtain ⟨hGu, hGv⟩ := List.forall_mem_append.1 hG
  rw [List.filterMap_append, hL u hu hGu, hM v hv hGv]

theorem Yields.leading (hL : Yields f G [] L) (hM : Yields f G out M) : Yields f G out (L * M) := hL.mul hM

theorem Yields.trailing (hL : Yields f G out L) (hM : Yields f G [] M) : Yields f G out (L * M) := by
  have hyields := hL.mul hM
  rwa [List.append_nil] at hyields

theorem Yields.iSup {L : α → Language Event} (h : ∀ x, Yields f G out (L x)) : Yields f G out (⨆ x, L x) := by
  intro w hw hG
  obtain ⟨x, hx⟩ := Language.mem_iSup.1 hw
  exact h x w hx hG

theorem yields_answered (r : Request) (A : Answer r → Prop) : Yields f G (f r).toList (answered r A) := by
  rintro w ⟨x, _, rfl⟩ _
  cases hr : f r with
  | none => exact List.filterMap_cons_none hr
  | some b => exact List.filterMap_cons_some hr

theorem yields_granted (c : Call) : Yields f G (f (.cluster c)).toList (granted c) :=
  .iSup fun _ => yields_answered (.cluster c) _

theorem Yields.of_within (h : Within (fun r => f r = none) L) : Yields f G [] L :=
  fun w hw _ => List.filterMap_eq_nil_iff.2 fun e he => h w hw e he

theorem filterMap_calls (hf : ∀ r : Request, r.isCall = false → f r = none) (t : List Event) :
    (calls t).filterMap (fun e => f e.1) = t.filterMap fun e => f e.1 := by
  rw [calls, List.filterMap_filter]
  refine List.filterMap_congr fun e _ => ?_
  split
  case isTrue => rfl
  case isFalse hcall => exact (hf e.1 (Bool.eq_false_iff.2 hcall)).symm

def Request.polled? : Request → Option Resource
  | .poll r _ => some r
  | _ => none

end Site

namespace Deployment

variable {γ : Type} {f : Request → Option γ} {G : Event → Prop} {p : Plan} {manifest : Part → String}
  {queried : Resource → List γ}

/-- Requests that are made beside those for the namespace, for manifests and for workloads to exist. -/
def Incidental : Request → Prop
  | .cluster (.namespaceExists _) | .cluster (.createNamespace _) | .cluster (.apply ..) | .poll .. | .render _
  | .machine (.write ..) => False
  | _ => True

theorem incidental_of_not_isCall {r : Request} (h : r.isCall = false) : Incidental r := by
  unfold Incidental
  split
  case h_7 => trivial
  all_goals cases h

/-- From a course of the plan requests are picked out, as long as all answers are of a kind. A manifest that is
rendered then reads as expected, and it is known how a workload comes to exist. -/
structure Extracts (p : Plan) (f : Request → Option γ) (G : Event → Prop) (manifest : Part → String)
    (queried : Resource → List γ) : Prop where
  incidental : ∀ r, Incidental r → f r = none
  ns : Yields f G [] (namespaceCourse p)
  manifest : ∀ part text ns, G ⟨.render part, .ok text⟩ →
    f (.cluster (.apply text ns)) = f (.cluster (.apply (manifest part) ns))
  queried : ∀ r, Yields f G (queried r) (appears r)

def deployed (f : Request → Option γ) (manifest : Part → String) (part : Part) (ns : Option String) : List γ :=
  (f (.render part)).toList ++ (f (.cluster (.apply (manifest part) ns))).toList

def extract (f : Request → Option γ) (manifest : Part → String) (queried : Resource → List γ) (p : Plan) :
    Step → List γ
  | .ns | .access => []
  | .database =>
    deployed f manifest .database (some p.ns) ++ queried ⟨.deployment, Stack.databaseWorkload, p.ns⟩
  | .objectStore => deployed f manifest .objectStore none ++ queried ⟨.deployment, Stack.objectStoreWorkload, p.ns⟩
  | .operator => deployed f manifest .operator none
  | .serving =>
    (f (.machine (.write p.places.manifest p.design.yaml))).toList ++
      (f (.cluster (.apply p.design.yaml none))).toList ++ queried ⟨.deployment, Stack.instanceName, p.ns⟩

theorem within_namespaceCourse {P : Request → Prop} (hexists : P (.cluster (.namespaceExists p.ns)))
    (hcreate : P (.cluster (.createNamespace p.ns))) : Within P (namespaceCourse p) :=
  (within_answered hexists).add ((within_answered hexists).mul (within_granted hcreate))

namespace Extracts

variable (h : Extracts p f G manifest queried)

include h

theorem deploys (part : Part) (ns : Option String) :
    Yields f G (deployed f manifest part ns) (Deployment.deploys part ns) := by
  refine .iSup fun text w hw hG => ?_
  obtain ⟨_, ⟨x, rfl, rfl⟩, v, hv, rfl⟩ := Language.mem_mul.1 hw
  have hyields := (yields_answered (f := f) (G := G) (.render part) fun x => x = .ok text).mul
    (yields_granted (.apply text ns))
  rw [h.manifest part text ns (hG _ List.mem_cons_self)] at hyields
  exact hyields _ hw hG

theorem beside (r : Request) (hr : Incidental r) (A : Answer r → Prop) : Yields f G [] (answered r A) := by
  have hyields := yields_answered (f := f) (G := G) r A
  rwa [h.incidental r hr] at hyields

theorem granted (c : Call) (hc : Incidental (.cluster c)) : Yields f G [] (Site.granted c) :=
  .iSup fun _ => h.beside (.cluster c) hc _

theorem replaces (s : Secret) : Yields f G [] (Deployment.replaces s) :=
  (h.granted (.delete _) trivial).leading (h.granted (.createSecret s) trivial)

theorem stepCourse (s : Step) : Yields f G (extract f manifest queried p s) (Deployment.stepCourse p s) := by
  have hawait (r : Resource) (c : Condition) (limit : Duration) : Yields f G [] (Site.granted (.await r c limit)) :=
    h.granted (.await r c limit) trivial
  have hrecord (key value : String) : Yields f G [] (recorded key value) := h.beside (.record key value) trivial _
  cases s with
  | ns => exact h.ns
  | database =>
      refine .trailing (.trailing (.mul ?_ (h.queried _)) (hawait _ _ _)) (h.replaces _)
      exact h.deploys _ _
  | objectStore =>
      refine .trailing (.trailing (.mul (.leading (.leading (h.replaces _) ?_) ?_) (h.queried _))
        (hawait _ _ _)) (hawait _ _ _)
      · exact h.granted (.delete _) trivial
      · exact h.deploys _ _
  | operator => exact .trailing (h.deploys _ _) (hawait _ _ _)
  | serving =>
      refine .trailing (.mul (.mul ?_ ?_) (h.queried _)) (hawait _ _ _)
      · exact yields_answered (.machine (.write _ _)) _
      · exact yields_granted (.apply _ _)
  | access =>
      refine .leading (.leading ?_ (hrecord _ _)) (hrecord _ _)
      exact h.beside (.cluster (.present _)) trivial _

theorem course : Yields f G ((Step.all.filter (·.isEnabled p)).flatMap (extract f manifest queried p))
    (Deployment.course p) := by
  rw [← stepsCourse_all]
  generalize Step.all = steps
  induction steps with
  | nil => exact yields_one
  | cons s rest ih =>
      rw [stepsCourse_cons]
      by_cases hs : s.isEnabled p = true
      · rw [if_pos hs, List.filter_cons_of_pos hs]
        exact (h.stepCourse s).mul ih
      · rw [if_neg hs, List.filter_cons_of_neg hs, one_mul]
        exact ih

theorem run {σ : Type} {d : Handler Site.interface σ} {x : σ} (hok : ((runRecorded p).run d x).1.2.isOk = true)
    (hG : ∀ e ∈ (runRecorded p).transcript d x, G e) :
    ((runRecorded p).transcript d x).filterMap (fun e => f e.1) =
      (Step.all.filter (·.isEnabled p)).flatMap (extract f manifest queried p) := by
  rw [← filterMap_calls fun r hr => h.incidental r (incidental_of_not_isCall hr)]
  exact h.course _ (calls_mem_course hok) fun e he => hG e ((calls_sublist _).subset he)

end Extracts

end Deployment

end Rollout
