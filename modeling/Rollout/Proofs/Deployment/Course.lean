import Rollout.Proofs.Deployment.Stages
import Rollout.Proofs.Diagnosis.Inquiries
import Rollout.Proofs.Wait.Course

namespace Rollout.Deployment

open Cluster Program Site

variable {α : Type} {p : Plan} {t : List Event}

/-- A manifest is rendered and then applied as it is. -/
def deploys (part : Part) (ns : Option String) : Language Event :=
  ⨆ text, rendered part text * granted (.apply text ns)

def replaces (s : Secret) : Language Event :=
  granted (.delete ⟨.secret, s.name, s.ns⟩) * granted (.createSecret s)

def ready (t : Target) : Language Event :=
  (if t.existsWithin.isSome then appears t.resource else 1) *
    granted (.await t.resource .available t.availableWithin)

theorem silent_diagnose (p : Plan) (w : Resource) : Silent (diagnose p w) :=
  (Diagnosis.inquires_collectAndLog ..).silent.bind fun _ => .pure _

theorem call_follows {c : Call} (hc : c.isDiagnostic = false) (x : c.Answer) :
    Follows (call c) fun _ => granted c :=
  (Follows.call hc x).mono fun x => le_iSup (replies c) x

theorem apply_follows (p : Plan) (t : Target) (manifest : String) (ns : Option String) :
    Follows (apply p t manifest ns) fun _ => granted (.apply manifest ns) :=
  (call_follows rfl ()).onFailure (silent_diagnose ..)

theorem waitReady_follows (p : Plan) (t : Target) : Follows (waitReady p t) fun _ => ready t :=
  ((Wait.untilExists_follows t).onFailure (silent_diagnose ..)).seq
    ((Wait.untilCondition_follows ..).onFailure (silent_diagnose ..))

theorem recreateSecret_follows (s : Secret) : Follows (recreateSecret s) fun _ => replaces s := by
  refine ((call_follows rfl ()).seq ((call_follows rfl ()).seq (.info ..))).mono fun _ => le_of_eq ?_
  rw [mul_one, replaces]

theorem deploys_follows {b : Action α} {M : α → Language Event} (p : Plan) (t : Target) (part : Part)
    (ns : Option String) (hb : Follows b M) :
    Follows (render part >>= fun text => apply p t text ns >>= fun _ => b) fun x => deploys part ns * M x := by
  refine ((Follows.render part).bind fun text => (apply_follows p t text ns).seq hb).mono fun x => ?_
  rw [deploys, Language.iSup_mul]
  exact iSup_mono fun text => le_of_eq (mul_assoc ..).symm

/-- The namespace is created only where it is not there. -/
def namespaceCourse (p : Plan) : Language Event :=
  replies (.namespaceExists p.ns) true +
    replies (.namespaceExists p.ns) false * granted (.createNamespace p.ns)

def databaseCourse (p : Plan) : Language Event :=
  deploys .database (some p.ns) *
    appears ⟨.deployment, Stack.databaseWorkload, p.ns⟩ *
    granted (.await ⟨.deployment, Stack.databaseWorkload, p.ns⟩ .available p.limits.wait) *
    replaces p.databaseSecret

def objectStoreCourse (p : Plan) : Language Event :=
  replaces p.objectStoreSecret *
    granted (.delete ⟨.job, Stack.objectStoreJob, p.ns⟩) *
    deploys .objectStore none *
    appears ⟨.deployment, Stack.objectStoreWorkload, p.ns⟩ *
    granted (.await ⟨.deployment, Stack.objectStoreWorkload, p.ns⟩ .available p.limits.wait) *
    granted (.await ⟨.job, Stack.objectStoreJob, p.ns⟩ .complete p.limits.initJob)

/-- Nobody waits for the workload of the operator to exist. -/
def operatorCourse (p : Plan) : Language Event :=
  deploys .operator none *
    granted (.await ⟨.deployment, Stack.operatorWorkload, p.ns⟩ .available p.limits.wait)

def servingCourse (p : Plan) : Language Event :=
  written p.places.manifest p.design.yaml *
    granted (.apply p.design.yaml none) *
    appears ⟨.deployment, Stack.instanceName, p.ns⟩ *
    granted (.await ⟨.deployment, Stack.instanceName, p.ns⟩ .available p.limits.wait)

/-- The service is looked for to no consequence. -/
def accessCourse (p : Plan) : Language Event :=
  asked (.present ⟨.service, Stack.instanceName, p.ns⟩) *
    recorded "mlflow_url" Stack.localUrl *
    recorded "namespace" p.ns

/-- The calls of a deployment that succeeds. -/
def course (p : Plan) : Language Event :=
  namespaceCourse p *
    (if p.backend = .postgres ∨ p.registry = .postgres then databaseCourse p else 1) *
    (if p.artifacts = .s3 then objectStoreCourse p else 1) *
    operatorCourse p *
    servingCourse p *
    accessCourse p

def stepCourse (p : Plan) : Step → Language Event
  | .ns => namespaceCourse p
  | .database => databaseCourse p
  | .objectStore => objectStoreCourse p
  | .operator => operatorCourse p
  | .serving => servingCourse p
  | .access => accessCourse p

theorem ensureNamespace_follows (p : Plan) : Follows (ensureNamespace p) fun _ => namespaceCourse p := by
  have hbranch (found : Bool) :
      Follows (if found then info "Namespace already exists" [("namespace", p.ns)] else do
        call (.createNamespace p.ns)
        info "Namespace created" [("namespace", p.ns)])
        fun _ => if found then 1 else granted (.createNamespace p.ns) := by
    cases found with
    | true => exact .info ..
    | false =>
        refine ((call_follows rfl ()).seq (.info ..)).mono fun _ => le_of_eq ?_
        rw [mul_one]
        rfl
  refine ((Follows.call rfl true).bind hbranch).mono fun _ => iSup_le fun found => ?_
  cases found with
  | true =>
      rw [if_pos rfl, mul_one]
      exact le_sup_left
  | false => exact le_sup_right

theorem deployDatabase_follows (p : Plan) : Follows (deployDatabase p) fun _ => databaseCourse p := by
  refine (deploys_follows p _ _ _ ((waitReady_follows p _).seq (recreateSecret_follows _))).mono fun _ => ?_
  refine le_of_eq ?_
  simp only [databaseCourse, ready, mul_assoc]
  rfl

theorem deployObjectStore_follows (p : Plan) :
    Follows (deployObjectStore p) fun _ => objectStoreCourse p := by
  have hjob := (Wait.untilCondition_follows ⟨.job, Stack.objectStoreJob, p.ns⟩ .complete
    p.limits.initJob).onFailure (silent_diagnose p ⟨.job, Stack.objectStoreJob, p.ns⟩)
  refine ((recreateSecret_follows _).seq ((call_follows rfl ()).seq
    (deploys_follows p _ _ _ ((waitReady_follows p _).seq hjob)))).mono fun _ => ?_
  refine le_of_eq ?_
  simp only [objectStoreCourse, ready, mul_assoc]
  rfl

theorem deployOperator_follows (p : Plan) : Follows (deployOperator p) fun _ => operatorCourse p := by
  refine (deploys_follows p _ _ _ (waitReady_follows p _)).mono fun _ => le_of_eq ?_
  simp only [operatorCourse, ready]
  rw [show (Step.operatorTarget p).existsWithin.isSome = false from rfl, if_neg (by simp), one_mul]
  rfl

theorem staysAside_logWarnings (ws : List Warning) : StaysAside (logWarnings ws) := by
  induction ws with
  | nil => exact .pure _
  | cons w ws ih => exact (staysAside_log ..).bind fun _ => ih

theorem deployInstance_follows (p : Plan) : Follows (deployInstance p) fun _ => servingCourse p := by
  refine ((Follows.silent (staysAside_logWarnings p.warnings).silent).seq ((Follows.write _ _).seq ((Follows.info ..).seq
    ((apply_follows p _ _ _).seq (waitReady_follows p _))))).mono fun _ => le_of_eq ?_
  simp only [servingCourse, ready, one_mul, mul_assoc]
  rfl

theorem lookForService_follows (p : Plan) :
    Follows (ExceptT.lift (lookForService p)) fun _ =>
      asked (.present ⟨.service, Stack.instanceName, p.ns⟩) := by
  refine .lift ⟨_, mem_asked .zero (.ok true)⟩ fun t ht => ?_
  obtain ⟨u, v, x, rfl, hu, hv⟩ := Program.runs_bind_iff.1 ht
  obtain ⟨took, rfl⟩ := runs_attempt_iff.1 hu
  have hlog : calls v = [] := by
    rcases x with e | _ | _
    · exact calls_of_silent (silent_log ..) hv
    · exact calls_of_silent (silent_log ..) hv
    · exact calls_of_silent (silent_log ..) hv
  rw [calls_append, hlog, List.append_nil, calls_cons_of_isCall rfl]
  exact mem_asked took x

theorem publishAccess_follows (p : Plan) : Follows (publishAccess p) fun _ => accessCourse p := by
  refine ((lookForService_follows p).seq ((Follows.info ..).seq ((Follows.info ..).seq ((Follows.info ..).seq
    ((Follows.record _ _).seq (Follows.record _ _)))))).mono fun _ => le_of_eq ?_
  simp only [accessCourse, one_mul, mul_assoc]

theorem perform_follows (p : Plan) (s : Step) : Follows (perform p s) fun _ => stepCourse p s := by
  cases s with
  | ns => exact ensureNamespace_follows p
  | database => exact deployDatabase_follows p
  | objectStore => exact deployObjectStore_follows p
  | operator => exact deployOperator_follows p
  | serving => exact deployInstance_follows p
  | access => exact publishAccess_follows p

def stepsCourse (p : Plan) (steps : List Step) : Language Event :=
  (steps.map fun s => if s.isEnabled p then stepCourse p s else 1).prod

theorem stepsCourse_nil (p : Plan) : stepsCourse p [] = 1 := rfl

theorem stepsCourse_cons (p : Plan) (s : Step) (rest : List Step) :
    stepsCourse p (s :: rest) = (if s.isEnabled p then stepCourse p s else 1) * stepsCourse p rest := by
  rw [stepsCourse, List.map_cons, List.prod_cons, stepsCourse]

theorem stepsCourse_append (p : Plan) (first rest : List Step) :
    stepsCourse p (first ++ rest) = stepsCourse p first * stepsCourse p rest := by
  rw [stepsCourse, List.map_append, List.prod_append, stepsCourse, stepsCourse]

theorem stepsCourse_all (p : Plan) : stepsCourse p Step.all = course p := by
  simp only [Step.all, stepsCourse_cons, stepsCourse_nil, Step.database_isEnabled_iff,
    Step.objectStore_isEnabled_iff, course, mul_one, mul_assoc]
  rfl

theorem stepCourse_possible (p : Plan) (s : Step) : ∃ w, w ∈ stepCourse p s := by
  obtain ⟨_, hw⟩ := (perform_follows p s).possible
  exact hw

theorem stepsCourse_possible (p : Plan) (steps : List Step) : ∃ w, w ∈ stepsCourse p steps := by
  induction steps with
  | nil => exact ⟨[], rfl⟩
  | cons s rest ih =>
      obtain ⟨v, hv⟩ := ih
      rw [stepsCourse_cons]
      split
      · obtain ⟨u, hu⟩ := stepCourse_possible p s
        exact ⟨u ++ v, Language.append_mem_mul hu hv⟩
      · exact ⟨v, by rwa [one_mul]⟩

/-- How the steps of a deployment go, less what is logged and looked up around them. -/
inductive StepsTaken (p : Plan) : List Step → List Event → Except Failure Unit → Prop
  | nil : StepsTaken p [] [] (.ok ())
  | skipped {s : Step} {rest : List Step} {before t : List Event} {r : Except Failure Unit}
      (hs : s.isEnabled p = false) (hbefore : Aside before) (h : StepsTaken p rest t r) :
      StepsTaken p (s :: rest) (before ++ t) r
  | taken {s : Step} {rest : List Step} {before u after t : List Event} {r : Except Failure Unit}
      (hs : s.isEnabled p = true) (hbefore : Aside before) (hu : Runs (perform p s).run u (.ok ()))
      (hafter : Aside after) (h : StepsTaken p rest t r) :
      StepsTaken p (s :: rest) (before ++ u ++ after ++ t) r
  | failed {s : Step} {rest : List Step} {before u after : List Event} {e : Failure}
      (hs : s.isEnabled p = true) (hbefore : Aside before) (hu : Runs (perform p s).run u (.error e))
      (hafter : Aside after) : StepsTaken p (s :: rest) (before ++ u ++ after) (.error e)

theorem Taken.stepsTaken {steps : List Step} {stages : List Stage} {r : Except Failure Unit}
    (h : Taken p steps t stages r) : StepsTaken p steps t r := by
  have hlogged (e : LogEntry) : Aside [logged e] := List.forall_mem_singleton.2 rfl
  have hnoted (now : Instant) : Aside [noted now] := List.forall_mem_singleton.2 rfl
  induction h with
  | nil => exact .nil
  | skipped hs _ ih => exact .skipped hs (hlogged _) ih
  | @passed s rest u t stages r start finish hs hu h ih =>
      have htaken := StepsTaken.taken hs ((hlogged (announcement s)).append (hnoted start)) hu (hnoted finish) ih
      simpa only [List.append_assoc, List.cons_append, List.nil_append] using htaken
  | @failed s rest u e start finish hs hu =>
      have hfailed : StepsTaken p (s :: rest) _ _ := .failed hs ((hlogged (announcement s)).append (hnoted start)) hu
        ((hlogged (complaint s e)).append (hnoted finish))
      simpa only [List.append_assoc, List.cons_append, List.nil_append] using hfailed

theorem StepsTaken.keeps {steps : List Step} {r : Except Failure Unit} (h : StepsTaken p steps t r) :
    Keeps (fun _ => stepsCourse p steps) t r := by
  induction h with
  | nil => exact Language.nil_mem_one
  | @skipped s rest before t r hs hbefore h ih =>
      rw [stepsCourse_cons, if_neg (by simp [hs]), one_mul]
      refine ih.of_calls_eq ?_
      rw [calls_append, hbefore.calls_eq_nil, List.nil_append]
  | @taken s rest before u after t r hs hbefore hu hafter h ih =>
      have hstep : calls u ∈ stepCourse p s := (perform_follows p s).keeps hu
      rw [stepsCourse_cons, if_pos hs]
      refine (ih.mul_left hstep).of_calls_eq ?_
      simp only [calls_append, hbefore.calls_eq_nil, hafter.calls_eq_nil, List.nil_append, List.append_nil]
  | @failed s rest before u after e hs hbefore hu hafter =>
      obtain ⟨x, hx⟩ := BreaksOff.of_iSup ((perform_follows p s).keeps hu)
      obtain ⟨w, hw⟩ := stepsCourse_possible p rest
      rw [stepsCourse_cons, if_pos hs, Keeps, calls_append, calls_append, hbefore.calls_eq_nil,
        hafter.calls_eq_nil, List.append_nil]
      exact (hx.mul_right hw).iSup ()

theorem staysAside_removeFiles (paths : List String) :
    StaysAside (Transient.removeFiles paths : Program interface Nat) := by
  induction paths with
  | nil => exact .pure _
  | cons path paths ih =>
      refine Asks.bind ?_ fun _ => ih.bind fun _ => .pure _
      refine Asks.bind (.perform rfl) fun found => ?_
      cases found with
      | false => exact .pure _
      | true =>
          refine Asks.bind (.perform rfl) fun x => ?_
          cases x with
          | ok => exact (staysAside_log ..).bind fun _ => .pure _
          | error => exact (staysAside_log ..).bind fun _ => .pure _

theorem staysAside_release (f : Transient) : StaysAside (f.release : Program interface _) := by
  rw [Transient.release]
  split
  · exact .pure _
  · exact (staysAside_removeFiles _).bind fun _ => .pure _

theorem asks_logSummary (s : Summary) : (logSummary s).Asks fun r => ∃ e, r = Request.machine (.log e) := by
  have hstages (stages : List Stage) : (logStages stages).Asks fun r => ∃ e, r = Request.machine (.log e) := by
    induction stages with
    | nil => exact .pure _
    | cons s ss ih => exact Asks.bind (.perform ⟨_, rfl⟩) fun _ => ih
  exact Asks.bind (.perform ⟨_, rfl⟩) fun _ => (hstages _).bind fun _ => .perform ⟨_, rfl⟩

theorem staysAside_logSummary (s : Summary) : StaysAside (logSummary s) :=
  (asks_logSummary s).mono fun _ ⟨_, he⟩ => he ▸ rfl

theorem aside_map_logged (es : List LogEntry) : Aside (es.map logged) := by
  intro e he
  obtain ⟨entry, -, rfl⟩ := List.mem_map.1 he
  rfl

theorem runs_run {r : Except Failure Summary} (h : Runs (run p).run t r) :
    ∃ before u after x, t = before ++ u ++ after ∧ Aside before ∧ Aside after ∧
      StepsTaken p Step.all u x ∧ (x = .ok () ∧ (∃ s, r = .ok s) ∨ ∃ e, x = .error e ∧ r = .error e) := by
  obtain ⟨a, b, ⟨summary, outcome⟩, rfl, ha, hb⟩ := Program.runs_bind_iff.1 h
  obtain ⟨rfl, rfl⟩ := runs_pure_iff.1 hb
  obtain ⟨id, u, cleanup, released, stages, rfl, htaken, hcleanup, -⟩ := runs_runRecorded ha
  refine ⟨[⟨.machine .drawId, id⟩, logged ⟨.info, "Starting MLflow deployment", particulars p id⟩], u,
    cleanup ++ summary.report.map logged, outcome, by simp, ?_, ?_, htaken.stepsTaken, ?_⟩
  · exact List.forall_mem_cons.2 ⟨rfl, List.forall_mem_singleton.2 rfl⟩
  · exact ((staysAside_release _).aside hcleanup).append (aside_map_logged _)
  · cases outcome with
    | ok => exact .inl ⟨rfl, summary, rfl⟩
    | error e => exact .inr ⟨e, rfl, rfl⟩

theorem run_keeps {r : Except Failure Summary} (h : Runs (run p).run t r) :
    (∃ s, r = .ok s) ∧ calls t ∈ course p ∨ (∃ e, r = .error e) ∧ BreaksOff (course p) (calls t) := by
  obtain ⟨before, u, after, x, rfl, hbefore, hafter, hsteps, hr⟩ := runs_run h
  have hkeeps := hsteps.keeps
  rw [stepsCourse_all] at hkeeps
  rw [calls_append, calls_append, hbefore.calls_eq_nil, hafter.calls_eq_nil, List.nil_append, List.append_nil]
  rcases hr with ⟨rfl, s, rfl⟩ | ⟨e, rfl, rfl⟩
  · exact .inl ⟨⟨s, rfl⟩, hkeeps⟩
  · obtain ⟨_, hbreak⟩ := BreaksOff.of_iSup hkeeps
    exact .inr ⟨⟨e, rfl⟩, hbreak⟩

theorem course_last {w : List Event} (hw : w ∈ course p) :
    ∃ u, w = u ++ [⟨.record "namespace" p.ns, .ok ()⟩] := by
  obtain ⟨u, _, v, hv, rfl⟩ := Language.mem_mul.1 hw
  obtain ⟨v, _, _, ⟨_, rfl, rfl⟩, rfl⟩ := Language.mem_mul.1 hv
  exact ⟨u ++ v, (List.append_assoc ..).symm⟩

theorem not_mem_course_of_breaksOff (h : BreaksOff (course p) t) : t ∉ course p := by
  intro ht
  obtain ⟨u, r, x, y, v, rfl, hfail, _⟩ := h
  obtain ⟨w, hw⟩ := course_last ht
  obtain ⟨_, hlast⟩ := List.append_inj' hw rfl
  rw [List.cons.injEq] at hlast
  rw [hlast.1] at hfail
  cases hfail

/-- Whatever is answered, what is asked in a run is the beginning of what is asked in the course that the
plan fixes. A run that succeeds goes through the course, and one that fails ends with a call that failed. -/
theorem run_follows_course {σ : Type} (h : Handler Site.interface σ) (s : σ) (p : Plan) :
    let t := calls ((run p).run.transcript h s)
    let r := ((run p).run.run h s).1
    (∃ w ∈ course p, t.map Sigma.fst <+: w.map Sigma.fst) ∧
      (r.isOk = true ∧ t ∈ course p ∨ r.isOk = false ∧ t ∉ course p ∧ BreaksOff (course p) t) := by
  intro t r
  rcases run_keeps (runs_transcript h (run p).run s) with ⟨⟨x, hx⟩, ht⟩ | ⟨⟨e, he⟩, hbreak⟩
  · have hr : r.isOk = true := by
      change ((run p).run.run h s).1.isOk = true
      rw [hx]
      rfl
    exact ⟨⟨t, ht, List.prefix_rfl⟩, .inl ⟨hr, ht⟩⟩
  · have hr : r.isOk = false := by
      change ((run p).run.run h s).1.isOk = false
      rw [he]
      rfl
    exact ⟨hbreak.requests_prefix, .inr ⟨hr, not_mem_course_of_breaksOff hbreak, hbreak⟩⟩

end Rollout.Deployment
