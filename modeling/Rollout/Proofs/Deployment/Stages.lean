import Rollout.Deployment.Run
import Rollout.Proofs.Site.Calls

namespace Rollout

def Summary.report (s : Summary) : List LogEntry :=
  ⟨.info, "=== Stage Summary ===", []⟩ ::
    (s.stages.map fun stage => ⟨if stage.status = .failed then .error else .info, stage.summaryLine, []⟩) ++
    [⟨.info, "MLflow deployment finished",
      [("run_id", s.runId.text), ("namespace", s.ns), ("status", s.status.text)]⟩]

namespace Deployment

open Program Site

variable {p : Plan} {t : List Event}

def logged (e : LogEntry) : Event := ⟨.machine (.log e), ()⟩

def noted (now : Instant) : Event := ⟨.machine .now, now⟩

def announcement (s : Step) : LogEntry := ⟨.info, "▶ " ++ s.title, [("stage", s.name)]⟩

def omission (s : Step) : LogEntry := ⟨.info, "Skipping stage", [("stage", s.name), ("reason", s.skipReason)]⟩

def complaint (s : Step) (e : Failure) : LogEntry :=
  ⟨.error, "Stage failed", [("stage", s.name), ("error", e.message)]⟩

def skippedStage (s : Step) (message : Option String) : Stage := (pendingStage s).skip message

def finishedStage (s : Step) (start finish : Instant) (failure : Option Failure) : Stage :=
  ((pendingStage s).start start).finish finish failure.isNone (failure.map Failure.message)

/-- How steps are taken: what is asked for the sake of each, the record of each, and what they come to. -/
inductive Taken (p : Plan) : List Step → List Event → List Stage → Except Failure Unit → Prop
  | nil : Taken p [] [] [] (.ok ())
  | skipped {s : Step} {rest : List Step} {t : List Event} {stages : List Stage} {r : Except Failure Unit}
      (hs : s.isEnabled p = false) (h : Taken p rest t stages r) :
      Taken p (s :: rest) (logged (omission s) :: t) (skippedStage s (some s.skipReason) :: stages) r
  | passed {s : Step} {rest : List Step} {u t : List Event} {stages : List Stage} {r : Except Failure Unit}
      (start finish : Instant) (hs : s.isEnabled p = true) (hu : Runs (perform p s).run u (.ok ()))
      (h : Taken p rest t stages r) :
      Taken p (s :: rest) (logged (announcement s) :: noted start :: (u ++ noted finish :: t))
        (finishedStage s start finish none :: stages) r
  | failed {s : Step} {rest : List Step} {u : List Event} {e : Failure} (start finish : Instant)
      (hs : s.isEnabled p = true) (hu : Runs (perform p s).run u (.error e)) :
      Taken p (s :: rest) (logged (announcement s) :: noted start :: (u ++ [logged (complaint s e), noted finish]))
        (finishedStage s start finish (some e) :: rest.map fun s => skippedStage s none) (.error e)

theorem runs_now_iff {now : Instant} : Runs (Machine.now : Program interface Instant) t now ↔ t = [noted now] :=
  runs_perform_iff

theorem runs_note_iff {level : Level} {text : String} {fields : List (String × String)} {x : Unit} :
    Runs (Machine.log level text fields : Program interface Unit) t x ↔ t = [logged ⟨level, text, fields⟩] :=
  runs_perform_iff

theorem taken_of_runs {steps : List Step} {x : List Stage × Except Failure Unit}
    (h : Runs (takeSteps p steps) t x) : Taken p steps t x.1 x.2 := by
  induction steps generalizing t x with
  | nil =>
      obtain ⟨rfl, rfl⟩ := runs_pure_iff.1 h
      exact .nil
  | cons s rest ih =>
      rw [takeSteps] at h
      split at h
      case isTrue hs =>
        obtain ⟨_, _, _, rfl, ha, h⟩ := Program.runs_bind_iff.1 h
        obtain ⟨_, _, start, rfl, hc, h⟩ := Program.runs_bind_iff.1 h
        obtain ⟨u, _, r, rfl, hu, h⟩ := Program.runs_bind_iff.1 h
        obtain rfl := runs_note_iff.1 ha
        obtain rfl := runs_now_iff.1 hc
        cases r with
        | ok r =>
            obtain ⟨_, _, finish, rfl, ha, h⟩ := Program.runs_bind_iff.1 h
            obtain ⟨v, _, y, rfl, hv, h⟩ := Program.runs_bind_iff.1 h
            obtain ⟨rfl, rfl⟩ := runs_pure_iff.1 h
            obtain rfl := runs_now_iff.1 ha
            rw [List.append_nil]
            exact .passed start finish hs hu (ih hv)
        | error e =>
            obtain ⟨_, _, _, rfl, ha, h⟩ := Program.runs_bind_iff.1 h
            obtain ⟨_, _, finish, rfl, hc, h⟩ := Program.runs_bind_iff.1 h
            obtain ⟨rfl, rfl⟩ := runs_pure_iff.1 h
            obtain rfl := runs_note_iff.1 ha
            obtain rfl := runs_now_iff.1 hc
            exact .failed start finish hs hu
      case isFalse hs =>
        obtain ⟨_, _, _, rfl, ha, h⟩ := Program.runs_bind_iff.1 h
        obtain ⟨v, _, y, rfl, hv, h⟩ := Program.runs_bind_iff.1 h
        obtain ⟨rfl, rfl⟩ := runs_pure_iff.1 h
        obtain rfl := runs_note_iff.1 ha
        rw [List.append_nil]
        exact .skipped (Bool.eq_false_iff.2 hs) (ih hv)

theorem runs_logStages {stages : List Stage} {x : Unit} (h : Runs (logStages stages) t x) :
    t = stages.map fun stage =>
      logged ⟨if stage.status = .failed then .error else .info, stage.summaryLine, []⟩ := by
  induction stages generalizing t with
  | nil => exact (runs_pure_iff.1 h).1
  | cons stage stages ih =>
      obtain ⟨_, v, _, rfl, ha, hv⟩ := Program.runs_bind_iff.1 h
      rw [runs_note_iff.1 ha, ih hv]
      rfl

theorem runs_logSummary {s : Summary} {x : Unit} (h : Runs (logSummary s) t x) : t = s.report.map logged := by
  obtain ⟨_, _, _, rfl, ha, h⟩ := Program.runs_bind_iff.1 h
  obtain ⟨u, _, _, rfl, hu, hb⟩ := Program.runs_bind_iff.1 h
  rw [runs_note_iff.1 ha, runs_logStages hu, runs_note_iff.1 hb, Summary.report, List.map_append, List.map_cons,
    List.map_map]
  rfl

def summaryOf (p : Plan) (id : RunId) (stages : List Stage) (r : Except Failure Unit) : Summary where
  runId := id
  ns := p.ns
  status := if r.isOk then .success else .failed
  url := if r.isOk then some Stack.localUrl else none
  stages := stages

theorem runs_runRecorded {x : Summary × Except Failure Unit} (h : Runs (runRecorded p) t x) :
    ∃ id steps cleanup released stages,
      t = ⟨.machine .drawId, id⟩ :: logged ⟨.info, "Starting MLflow deployment", particulars p id⟩ :: steps ++ cleanup ++
        x.1.report.map logged ∧
      Taken p Step.all steps stages x.2 ∧ Runs (Transient.ofPlan p).release cleanup released ∧
      x.1 = summaryOf p id stages x.2 := by
  obtain ⟨_, _, id, rfl, ha, h⟩ := Program.runs_bind_iff.1 h
  obtain ⟨_, _, _, rfl, hb, h⟩ := Program.runs_bind_iff.1 h
  obtain ⟨steps, _, ⟨stages, r⟩, rfl, hsteps, h⟩ := Program.runs_bind_iff.1 h
  obtain ⟨cleanup, _, released, rfl, hcleanup, h⟩ := Program.runs_bind_iff.1 h
  obtain ⟨told, _, _, rfl, htold, h⟩ := Program.runs_bind_iff.1 h
  obtain ⟨rfl, rfl⟩ := runs_pure_iff.1 h
  obtain rfl := runs_logSummary htold
  obtain rfl := runs_perform_iff.1 ha
  obtain rfl := runs_note_iff.1 hb
  refine ⟨id, steps, cleanup, released, stages, ?_, taken_of_runs hsteps, hcleanup, rfl⟩
  simp

end Deployment

end Rollout
