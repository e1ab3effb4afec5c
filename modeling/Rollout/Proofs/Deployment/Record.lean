import Mathlib.Data.List.Forall2
import Rollout.Proofs.Deployment.Requests

namespace Rollout.Deployment

open Program Site

variable {α : Type} {p : Plan} {s : Step} {t u : List Event} {steps : List Step} {stages : List Stage}
  {r : Except Failure Unit}

def announced? : Event → Option Step
  | ⟨.machine (.log e), _⟩ => Step.all.find? fun s => e == announcement s
  | _ => none

def started (t : List Event) : List Step := t.filterMap announced?

theorem started_append (t u : List Event) : started (t ++ u) = started t ++ started u := List.filterMap_append

theorem announced?_announcement (s : Step) : announced? (logged (announcement s)) = some s := by
  cases s with
  | _ => decide

theorem announced?_logged {e : LogEntry} (h : Unannounced e) : announced? (logged e) = none :=
  List.find?_eq_none.2 fun s _ he => h s (eq_of_beq he)

def Tacit (r : Request) : Prop := ∀ e, r = .machine (.log e) → Unannounced e

theorem started_of_tacit (h : ∀ e ∈ t, Tacit e.1) : started t = [] := by
  refine List.filterMap_eq_nil_iff.2 fun e he => ?_
  have htacit := h e he
  unfold announced?
  split
  case h_1 entry x => exact announced?_logged (htacit entry rfl)
  case h_2 => rfl

theorem started_of_asks {P : Request → Prop} {a : Program interface α} {x : α} (ha : a.Asks P)
    (hP : ∀ r, P r → Tacit r) (h : Runs a t x) : started t = [] :=
  started_of_tacit fun _ he => (ha.mono hP).of_mem h he

theorem started_perform {x : Except Failure Unit} (h : Runs (perform p s).run t x) : started t = [] := by
  refine started_of_asks (comprises_perform p s).asks (fun r hr => ?_) h
  rintro e rfl
  rcases hr with hr | ⟨_, _, hr⟩
  · exact hr
  · exact hr

def leftOut? (p : Plan) : Step → Option String
  | .database => if p.backend = .postgres ∨ p.registry = .postgres then none else some "sqlite stores"
  | .objectStore => if p.artifacts = .s3 then none else some "file artifact storage"
  | .ns | .operator | .serving | .access => none

theorem leftOut?_eq (p : Plan) (s : Step) : leftOut? p s = if s.isEnabled p then none else some s.skipReason := by
  cases s with
  | database => exact if_congr Step.database_isEnabled_iff.symm rfl rfl
  | objectStore => exact if_congr Step.objectStore_isEnabled_iff.symm rfl rfl
  | _ => rfl

theorem isNone_leftOut? (p : Plan) (s : Step) : (leftOut? p s).isNone = s.isEnabled p := by
  rw [leftOut?_eq]
  cases s.isEnabled p with
  | _ => rfl

/-- The record of a step that is no obstacle: it was taken with success, or left out for its reason. -/
structure Passed (p : Plan) (s : Step) (stage : Stage) : Prop where
  name : stage.name = s.name
  title : stage.title = s.title
  status : stage.status = if (leftOut? p s).isNone then .success else .skipped
  message : stage.message = leftOut? p s

theorem passed_finished (hs : s.isEnabled p = true) (start finish : Instant) :
    Passed p s (finishedStage s start finish none) := by
  refine ⟨rfl, rfl, ?_, ?_⟩
  · rw [isNone_leftOut?, hs]
    rfl
  · rw [leftOut?_eq, hs]
    rfl

theorem passed_skipped (hs : s.isEnabled p = false) : Passed p s (skippedStage s (some s.skipReason)) := by
  refine ⟨rfl, rfl, ?_, ?_⟩
  · rw [isNone_leftOut?, hs]
    rfl
  · rw [leftOut?_eq, hs]
    rfl

structure FailedWith (s : Step) (e : Failure) (stage : Stage) : Prop where
  name : stage.name = s.name
  title : stage.title = s.title
  status : stage.status = .failed
  message : stage.message = some e.message

/-- What steps come to, by their records, and which of them were begun. After one that fails no other is begun. -/
inductive Accounts (p : Plan) : List Step → List Stage → List Step → Except Failure Unit → Prop
  | success {steps : List Step} {stages : List Stage} (h : List.Forall₂ (Passed p) steps stages) :
      Accounts p steps stages (steps.filter (·.isEnabled p)) (.ok ())
  | failure {earlier : List Step} {step : Step} {stages : List Stage} {stage : Stage} {e : Failure}
      (later : List Step) (hearlier : List.Forall₂ (Passed p) earlier stages) (hstep : step.isEnabled p = true)
      (hstage : FailedWith step e stage) :
      Accounts p (earlier ++ step :: later) (stages ++ stage :: later.map fun s => skippedStage s none)
        (earlier.filter (·.isEnabled p) ++ [step]) (.error e)

theorem Accounts.cons {stage : Stage} {begun : List Step} (h : Accounts p steps stages begun r) (hs : Passed p s stage) :
    Accounts p (s :: steps) (stage :: stages) ([s].filter (·.isEnabled p) ++ begun) r := by
  cases h with
  | success h =>
      rw [← List.filter_append]
      exact .success (.cons hs h)
  | failure later hearlier hstep hstage =>
      rw [← List.append_assoc, ← List.filter_append]
      have hfailed := Accounts.failure later (List.Forall₂.cons hs hearlier) hstep hstage
      exact hfailed

theorem Taken.accounts (h : Taken p steps t stages r) : Accounts p steps stages (started t) r := by
  have hquiet {e : Event} (t : List Event) (he : announced? e = none) : started (e :: t) = started t :=
    List.filterMap_cons_none he
  have hbegun (s : Step) (t : List Event) : started (logged (announcement s) :: t) = s :: started t :=
    List.filterMap_cons_some (announced?_announcement s)
  induction h with
  | nil => exact .success .nil
  | @skipped s rest t stages r hs h ih =>
      have homission : Unannounced (omission s) := unannounced_of_keys (by simp [omission])
      have haccounts := ih.cons (passed_skipped hs)
      rw [hquiet t (announced?_logged homission)]
      rwa [List.filter_cons_of_neg (by simp [hs])] at haccounts
  | @passed s rest u t stages r start finish hs hu h ih =>
      have haccounts := ih.cons (passed_finished hs start finish)
      rw [hbegun, hquiet _ rfl, started_append, started_perform hu, hquiet _ rfl]
      rwa [List.filter_cons_of_pos hs] at haccounts
  | @failed s rest u e start finish hs hu =>
      have hcomplaint : Unannounced (complaint s e) := unannounced_of_level (by simp [complaint])
      rw [hbegun, hquiet _ rfl, started_append, started_perform hu, hquiet _ (announced?_logged hcomplaint)]
      have hfailed : FailedWith s e (finishedStage s start finish (some e)) := ⟨rfl, rfl, rfl, rfl⟩
      have haccounts := Accounts.failure rest (List.Forall₂.nil (R := Passed p)) hs hfailed
      exact haccounts

theorem titles_of_passed (h : List.Forall₂ (Passed p) steps stages) :
    (stages.map fun stage => (stage.name, stage.title)) = steps.map fun s => (s.name, s.title) := by
  induction h with
  | nil => rfl
  | cons hs _ ih => rw [List.map_cons, List.map_cons, hs.name, hs.title, ih]

theorem Accounts.titles {begun : List Step} (h : Accounts p steps stages begun r) :
    (stages.map fun stage => (stage.name, stage.title)) = steps.map fun s => (s.name, s.title) := by
  cases h with
  | success h => exact titles_of_passed h
  | failure later hearlier _ hstage =>
      rw [List.map_append, List.map_append, titles_of_passed hearlier, List.map_cons, List.map_cons, hstage.name,
        hstage.title, List.map_map]
      rfl

theorem status_of_passed (h : List.Forall₂ (Passed p) steps stages) :
    ∀ stage ∈ stages, stage.status = .success ∨ stage.status = .skipped := by
  induction h with
  | nil => exact List.forall_mem_nil _
  | @cons s stage _ _ hs _ ih =>
      refine List.forall_mem_cons.2 ⟨?_, ih⟩
      rw [hs.status]
      split
      · exact .inl rfl
      · exact .inr rfl

theorem filter_failed_of_passed (h : List.Forall₂ (Passed p) steps stages) :
    stages.filter (·.status = .failed) = [] := by
  refine List.filter_eq_nil_iff.2 fun stage hstage => ?_
  rcases status_of_passed h stage hstage with hs | hs
  · simp [hs]
  · simp [hs]

def complaints (s : Summary) : List LogEntry := s.report.filter (·.level = .error)

theorem complaints_eq (s : Summary) : complaints s =
    (s.stages.filter (·.status = .failed)).map fun stage => ⟨.error, stage.summaryLine, []⟩ := by
  have hstages (stages : List Stage) :
      (stages.map fun stage => (⟨if stage.status = .failed then .error else .info, stage.summaryLine, []⟩ :
        LogEntry)).filter (·.level = .error) =
        (stages.filter (·.status = .failed)).map fun stage => ⟨.error, stage.summaryLine, []⟩ := by
    induction stages with
    | nil => rfl
    | cons stage stages ih =>
        by_cases h : stage.status = .failed
        · simp [h, ih]
        · simp [h, ih]
  rw [complaints, Summary.report, List.filter_append, List.filter_cons_of_neg (by simp), hstages]
  exact List.append_nil _

/-- How the record of a run reads. -/
inductive Recorded (p : Plan) (begun : List Step) (s : Summary) : Except Failure Unit → Prop
  | success (hstages : List.Forall₂ (Passed p) Step.all s.stages)
      (hbegun : begun = Step.all.filter fun s => (leftOut? p s).isNone)
      (hstatus : s.status = .success) (hurl : s.url = some Stack.localUrl) (hcomplaints : complaints s = []) :
      Recorded p begun s (.ok ())
  | failure {earlier later : List Step} {step : Step} {stages : List Stage} {stage : Stage} {e : Failure}
      (hsteps : Step.all = earlier ++ step :: later)
      (hstages : s.stages = stages ++ stage :: later.map fun s => skippedStage s none)
      (hearlier : List.Forall₂ (Passed p) earlier stages) (hstep : leftOut? p step = none)
      (hstage : FailedWith step e stage) (hfailed : s.stages.filter (·.status = .failed) = [stage])
      (hbegun : begun = (earlier.filter fun s => (leftOut? p s).isNone) ++ [step]) (hstatus : s.status = .failed)
      (hurl : s.url = none) (hcomplaints : complaints s = [⟨.error, stage.summaryLine, []⟩]) :
      Recorded p begun s (.error e)

theorem Accounts.recorded {begun : List Step} (id : RunId) (h : Accounts p Step.all stages begun r) :
    Recorded p begun (summaryOf p id stages r) r := by
  have hstages : (summaryOf p id stages r).stages = stages := rfl
  generalize hall : Step.all = all at h
  cases h with
  | success h =>
      subst hall
      refine .success h (by simp only [isNone_leftOut?]) rfl rfl ?_
      rw [complaints_eq, hstages, filter_failed_of_passed h]
      rfl
  | @failure earlier step passed stage e later hearlier hstep hstage =>
      have hlater : (later.map fun s => skippedStage s none).filter (·.status = .failed) = [] :=
        List.filter_eq_nil_iff.2 fun stage hstage => by
          obtain ⟨s, -, rfl⟩ := List.mem_map.1 hstage
          simp [skippedStage, Stage.skip]
      have hfailed : (passed ++ stage :: later.map fun s => skippedStage s none).filter (·.status = .failed) =
          [stage] := by
        rw [List.filter_append, filter_failed_of_passed hearlier, List.filter_cons_of_pos (by simp [hstage.status]),
          hlater]
        rfl
      refine .failure hall rfl hearlier ?_ hstage hfailed (by simp only [isNone_leftOut?]) rfl rfl ?_
      · rw [leftOut?_eq, if_pos hstep]
      · rw [complaints_eq, hstages, hfailed]
        rfl

theorem not_pending_of_accounts {begun : List Step} (h : Accounts p steps stages begun r) :
    ∀ stage ∈ stages, stage.status ≠ .pending ∧ stage.status ≠ .running := by
  have hpassed {steps : List Step} {stages : List Stage} (h : List.Forall₂ (Passed p) steps stages) :
      ∀ stage ∈ stages, stage.status ≠ .pending ∧ stage.status ≠ .running := by
    intro stage hstage
    rcases status_of_passed h stage hstage with hs | hs
    · simp [hs]
    · simp [hs]
  cases h with
  | success h => exact hpassed h
  | failure later hearlier hstep hstage =>
      refine List.forall_mem_append.2 ⟨hpassed hearlier, List.forall_mem_cons.2 ⟨by simp [hstage.status], ?_⟩⟩
      intro stage hstage
      obtain ⟨s, -, rfl⟩ := List.mem_map.1 hstage
      simp [skippedStage, Stage.skip]

theorem started_logged {es : List LogEntry} (h : ∀ e ∈ es, Unannounced e) : started (es.map logged) = [] := by
  refine started_of_tacit fun e he => ?_
  obtain ⟨entry, hentry, rfl⟩ := List.mem_map.1 he
  rintro _ ⟨⟩
  exact h entry hentry

theorem unannounced_of_mem_report {s : Summary} : ∀ e ∈ s.report, Unannounced e := by
  refine List.forall_mem_append.2 ⟨List.forall_mem_cons.2 ⟨unannounced_of_keys (by simp), ?_⟩, ?_⟩
  · intro e he
    obtain ⟨stage, -, rfl⟩ := List.mem_map.1 he
    exact unannounced_of_keys (by simp)
  · exact List.forall_mem_singleton.2 (unannounced_of_keys (by simp))

theorem started_runRecorded {x : Summary × Except Failure Unit} (h : Runs (runRecorded p) t x) :
    ∃ id stages, x.1 = summaryOf p id stages x.2 ∧ Accounts p Step.all stages (started t) x.2 ∧
      x.1.report.map logged <:+ t := by
  obtain ⟨id, steps, cleanup, released, stages, rfl, htaken, hcleanup, hsummary⟩ := runs_runRecorded h
  refine ⟨id, stages, hsummary, ?_, List.suffix_append _ _⟩
  have hstart : started (⟨.machine .drawId, id⟩ ::
      logged ⟨.info, "Starting MLflow deployment", particulars p id⟩ :: steps) = started steps := by
    have hparticulars : Unannounced ⟨.info, "Starting MLflow deployment", particulars p id⟩ :=
      unannounced_of_keys (by simp [particulars])
    exact (List.filterMap_cons_none rfl).trans (List.filterMap_cons_none (announced?_logged hparticulars))
  have hclear : started cleanup = [] := by
    refine started_of_asks (asks_release _) (fun r hr => ?_) hcleanup
    rintro e rfl
    exact hr
  rw [started_append, started_append, hclear, started_logged unannounced_of_mem_report, List.append_nil, List.append_nil,
    hstart]
  exact htaken.accounts

theorem transcript_run {σ : Type} (p : Plan) (h : Handler Site.interface σ) (x : σ) :
    (run p).run.transcript h x = (runRecorded p).transcript h x :=
  (transcript_bind h (runRecorded p) _ x).trans (List.append_nil _)

theorem outcome_run {σ : Type} (p : Plan) (h : Handler Site.interface σ) (x : σ) :
    ((run p).run.run h x).1 = ((runRecorded p).run h x).1.2.map fun _ => ((runRecorded p).run h x).1.1 := by
  rw [run, ExceptT.run_mk, run_seq]
  rfl

theorem calls_mem_course {σ : Type} {h : Handler Site.interface σ} {x : σ}
    (hok : ((runRecorded p).run h x).1.2.isOk = true) : calls ((runRecorded p).transcript h x) ∈ course p := by
  rcases run_keeps (runs_transcript h (run p).run x) with ⟨-, hcourse⟩ | ⟨⟨e, he⟩, -⟩
  · rwa [transcript_run] at hcourse
  · rw [outcome_run] at he
    cases hout : ((runRecorded p).run h x).1.2 with
    | error e =>
        rw [hout] at hok
        cases hok
    | ok y =>
        rw [hout] at he
        cases he

/-- Whatever is answered, a run ends with its record being told. The record has the stages of all steps, each of
them settled, and it says of each what has become of it. -/
theorem record_of_run {σ : Type} (h : Handler Site.interface σ) (x : σ) (p : Plan) :
    let t := (run p).run.transcript h x
    let out := ((runRecorded p).run h x).1
    ((run p).run.run h x).1 = out.2.map (fun _ => out.1) ∧ out.1.report.map logged <:+ t ∧
      (out.1.stages.map fun stage => (stage.name, stage.title)) =
        [("namespace", "Namespace"), ("database", "PostgreSQL"), ("object_store", "SeaweedFS"),
          ("operator", "MLflow Operator"), ("instance", "MLflow"), ("access", "Access")] ∧
      (∀ stage ∈ out.1.stages, stage.status ≠ .pending ∧ stage.status ≠ .running) ∧
      Recorded p (started t) out.1 out.2 := by
  intro t out
  have ht : t = (runRecorded p).transcript h x := transcript_run p h x
  obtain ⟨id, stages, hsummary, haccounts, htells⟩ := started_runRecorded (runs_transcript h (runRecorded p) x)
  rw [← ht] at haccounts htells
  have hstages : out.1.stages = stages := congrArg Summary.stages hsummary
  refine ⟨outcome_run p h x, htells, ?_, ?_, ?_⟩
  · rw [hstages]
    exact haccounts.titles
  · rw [hstages]
    exact not_pending_of_accounts haccounts
  · have hrecorded := haccounts.recorded id
    rwa [← hsummary] at hrecorded

end Rollout.Deployment
