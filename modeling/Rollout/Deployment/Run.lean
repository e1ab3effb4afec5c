import Rollout.Deployment.Actions
import Rollout.Stage
import Rollout.Transient

namespace Rollout.Deployment

open Site

def pendingStage (s : Step) : Stage := .pending s.name s.title

/-- Takes the steps in order. One that is not enabled is skipped for its reason, and after one that
fails no other is taken. -/
def takeSteps (p : Plan) : List Step → Program interface (List Stage × Except Failure Unit)
  | [] => return ([], .ok ())
  | s :: rest =>
    if s.isEnabled p then do
      Machine.info ("▶ " ++ s.title) [("stage", s.name)]
      let started := (pendingStage s).start (← Machine.now)
      match ← (perform p s).run with
      | .ok _ => do
        let stage := started.finish (← Machine.now) true none
        let (stages, outcome) ← takeSteps p rest
        return (stage :: stages, outcome)
      | .error e => do
        Machine.error "Stage failed" [("stage", s.name), ("error", e.message)]
        let stage := started.finish (← Machine.now) false (some e.message)
        return (stage :: rest.map fun s => (pendingStage s).skip none, .error e)
    else do
      Machine.info "Skipping stage" [("stage", s.name), ("reason", s.skipReason)]
      let (stages, outcome) ← takeSteps p rest
      return ((pendingStage s).skip (some s.skipReason) :: stages, outcome)

def logStages : List Stage → Program interface Unit
  | [] => return ()
  | s :: ss => do
    Machine.log (if s.status = .failed then .error else .info) s.summaryLine
    logStages ss

def logSummary (s : Summary) : Program interface Unit := do
  Machine.info "=== Stage Summary ==="
  logStages s.stages
  Machine.info "MLflow deployment finished"
    [("run_id", s.runId.text), ("namespace", s.ns), ("status", s.status.text)]

def particulars (p : Plan) (id : RunId) : List (String × String) :=
  [("run_id", id.text), ("namespace", p.ns), ("mlflow_image", p.image),
    ("operator_image", p.operatorImage), ("backend_store", p.backend.text),
    ("registry_store", p.registry.text), ("artifact_storage", p.artifacts.text),
    ("serve_artifacts", toString p.serveArtifacts)]

/-- A whole run: all steps, then the transient files are removed, then the summary is logged. The record
comes with the outcome, whatever that is. -/
def runRecorded (p : Plan) : Program interface (Summary × Except Failure Unit) := do
  let id ← Machine.drawId
  Machine.info "Starting MLflow deployment" (particulars p id)
  let (stages, outcome) ← takeSteps p Step.all
  let _ ← (Transient.ofPlan p).release
  let summary : Summary :=
    { runId := id
      ns := p.ns
      status := if outcome.isOk then .success else .failed
      url := if outcome.isOk then some Stack.localUrl else none
      stages := stages }
  logSummary summary
  return (summary, outcome)

def run (p : Plan) : Action Summary :=
  ExceptT.mk do
    let (summary, outcome) ← runRecorded p
    return outcome.map fun _ => summary

/-- What still happens to a run that is broken off. -/
def abandon {I : Interface} [HasMachine I] (p : Plan) : Program I Unit := do
  let _ ← (Transient.ofPlan p).release
  return ()

end Rollout.Deployment
