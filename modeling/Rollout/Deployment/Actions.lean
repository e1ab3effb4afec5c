import Rollout.Credentials
import Rollout.Deployment.Step
import Rollout.Diagnosis.Collect
import Rollout.Instance.Design
import Rollout.Wait

namespace Rollout.Deployment

open Cluster Site

def diagnose (p : Plan) (w : Resource) : Program interface Unit := do
  let _ ← Diagnosis.collectAndLog p.limits.probe w
  return ()

/-- Applies a manifest. When that fails, the workload that should have created the target is looked
into. -/
def apply (p : Plan) (t : Target) (manifest : String) (ns : Option String) : Action Unit :=
  onFailure (call (.apply manifest ns)) (diagnose p t.creator)

def waitReady (p : Plan) (t : Target) : Action Unit := do
  onFailure (Wait.untilExists t) (diagnose p t.creator)
  onFailure (Wait.untilAvailable t) (diagnose p t.resource)

def recreateSecret (s : Secret) : Action Unit := do
  call (.delete ⟨.secret, s.name, s.ns⟩)
  call (.createSecret s)
  info "Secret created" [("secret", s.name), ("namespace", s.ns)]

def ensureNamespace (p : Plan) : Action Unit := do
  if ← call (.namespaceExists p.ns) then info "Namespace already exists" [("namespace", p.ns)]
  else do
    call (.createNamespace p.ns)
    info "Namespace created" [("namespace", p.ns)]

def deployDatabase (p : Plan) : Action Unit := do
  let manifest ← render .database
  apply p (Step.databaseTarget p) manifest (some p.ns)
  waitReady p (Step.databaseTarget p)
  recreateSecret p.databaseSecret

/-- The job that sets up the object store cannot be changed in place, so an old one goes first. -/
def deployObjectStore (p : Plan) : Action Unit := do
  recreateSecret p.objectStoreSecret
  call (.delete ⟨.job, Stack.objectStoreJob, p.ns⟩)
  let manifest ← render .objectStore
  apply p (Step.objectStoreTarget p) manifest none
  waitReady p (Step.objectStoreTarget p)
  onFailure (Wait.untilJobComplete Stack.objectStoreJob p.ns p.limits.initJob)
    (diagnose p ⟨.job, Stack.objectStoreJob, p.ns⟩)

def deployOperator (p : Plan) : Action Unit := do
  let manifest ← render .operator
  apply p (Step.operatorTarget p) manifest none
  waitReady p (Step.operatorTarget p)

def logWarnings : List Warning → Program interface Unit
  | [] => return ()
  | w :: ws => do
    Machine.warn w.text
    logWarnings ws

def deployInstance (p : Plan) : Action Unit := do
  logWarnings p.warnings
  let manifest := p.design.yaml
  write p.places.manifest manifest
  info "MLflow manifest written" [("path", p.places.manifest)]
  apply p (Step.servingTarget p) manifest none
  waitReady p (Step.servingTarget p)

/-- Whether the service of the instance is there makes no difference but in the log. -/
def lookForService (p : Plan) : Program interface Unit := do
  match ← attempt (.present ⟨.service, Stack.instanceName, p.ns⟩) with
  | .ok true => Machine.info "MLflow service found" [("service", Stack.instanceName)]
  | .ok false => Machine.warn "MLflow service not found" [("service", Stack.instanceName)]
  | .error e =>
    Machine.warn "Could not check MLflow service"
      [("service", Stack.instanceName), ("error", e.message)]

def publishAccess (p : Plan) : Action Unit := do
  lookForService p
  info "MLflow is ready! To access it, run:"
  info
    ("  kubectl port-forward service/" ++ Stack.instanceName ++ " " ++ toString Stack.localPort ++
      ":" ++ toString Stack.servicePort ++ " -n " ++ p.ns)
  info ("Then open " ++ Stack.localUrl)
  record "mlflow_url" Stack.localUrl
  record "namespace" p.ns

def perform (p : Plan) : Step → Action Unit
  | .ns => ensureNamespace p
  | .database => deployDatabase p
  | .objectStore => deployObjectStore p
  | .operator => deployOperator p
  | .serving => deployInstance p
  | .access => publishAccess p

end Rollout.Deployment
