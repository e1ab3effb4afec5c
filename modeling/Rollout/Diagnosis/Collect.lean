import Rollout.Diagnosis.Report
import Rollout.Site
import Rollout.Stack
import Rollout.Text.Lines
import Rollout.Text.Search

namespace Rollout.Diagnosis

open Cluster Site

def logTail : Nat := 100

def frontService : String := "minio-service"

def selectors (w : Resource) : String × String :=
  match w.kind with
  | .job => ("job-name=" ++ w.name, "controller-uid")
  | _ => ("app=" ++ w.name, "")

/-- The pods that bear the exact label. If there are none, or they are not to be found out, those of the
wider label whose names contain that of the workload. -/
def findPods (w : Resource) : Program interface (List String) := do
  let (exact, broad) := selectors w
  match ← attempt (.pods exact w.ns) with
  | .ok (p :: ps) => return p :: ps
  | _ =>
    match ← attempt (.pods broad w.ns) with
    | .ok ps => return ps.filter fun p => Text.contains p w.name
    | .error _ => return []

def describe (r : Resource) : Program interface Evidence :=
  return .ofOutcome (← attempt (.describe r))

def when (b : Bool) (p : Program interface Evidence) : Program interface (Option Evidence) :=
  if b then some <$> p else pure none

def inspect (ns pod : String) : Program interface PodReport := do
  let description ← describe ⟨.pod, pod, ns⟩
  match ← attempt (.podPhase pod ns) with
  | .error _ => return { PodReport.empty pod with description := some description }
  | .ok phase =>
    let logs ← when phase.hasLogs do return .ofOutcome (← attempt (.podLogs pod ns logTail))
    let events ← when phase.needsEvents do return .ofOutcome (← attempt (.events pod ns))
    return ⟨pod, some phase, some description, events, logs⟩

def inspectAll (ns : String) : List String → Program interface (List PodReport)
  | [] => return []
  | p :: ps => do
    let r ← inspect ns p
    return r :: (← inspectAll ns ps)

def inspectNew (ns : String) : List PodReport → List String → Program interface (List PodReport)
  | listed, [] => return listed
  | listed, p :: ps =>
    if listed.any fun r => r.name == p then inspectNew ns listed ps
    else do
      let r ← inspect ns p
      inspectNew ns (listed ++ [r]) ps

def probe (limit : Duration) (name image ns : String) (words : List String) :
    Program interface Evidence :=
  return .ofOutcome (← attempt (.probe ⟨name, image, ns, words, limit⟩))

def fetch (url : String) : List String := ["curl", "-v", "--connect-timeout", "10", url]

def reachPod (limit : Duration) (ns pod : String) : Program interface Evidence := do
  match ← attempt (.podAddress pod ns) with
  | .ok (some address) =>
    probe limit "debug-pod-direct" "curlimages/curl" ns
      (fetch ("http://" ++ address ++ ":" ++ toString Stack.objectStorePodPort ++ "/"))
  | .ok none => return .unavailable "pod has no IP"
  | .error e => return .unavailable e.message

def reachPods (limit : Duration) (ns : String) :
    List String → Sorted Evidence → Program interface (Sorted Evidence)
  | [], found => return found
  | p :: ps, found => do
    let e ← reachPod limit ns p
    reachPods limit ns ps (found.insert ("pod " ++ p ++ " connectivity") e)

def surveyObjectStore (limit : Duration) (ns : String) : Program interface (Sorted Evidence) := do
  let host := frontService ++ "." ++ ns
  let service ← attempt (.get ⟨.service, frontService, ns⟩ .wide)
  let front ← attempt (.get ⟨.endpoints, frontService, ns⟩ .yaml)
  let back ← attempt (.get ⟨.endpoints, Stack.objectStoreWorkload, ns⟩ .yaml)
  let resolution ← probe limit "dns-test" "busybox" ns ["nslookup", host ++ ".svc.cluster.local"]
  let reached ← probe limit "test-pod" "alpine/curl:latest" ns
    (fetch ("http://" ++ host ++ ":" ++ toString Stack.objectStoreServicePort ++ "/"))
  let pods ← attempt (.pods ("app=" ++ Stack.objectStoreWorkload) ns)
  let found := Sorted.ofList
    [("service/" ++ frontService, .ofOutcome service),
      ("endpoints/" ++ frontService, .ofOutcome front),
      ("endpoints/" ++ Stack.objectStoreWorkload, .ofOutcome back),
      ("dns resolution", resolution), ("service connectivity", reached)]
  let found ← reachPods limit ns (match pods with | .ok ps => ps | .error _ => []) found
  let table ← attempt (.podTable ns)
  return found.insert "pods" (.ofOutcome table)

def concernsObjectStore (w : Resource) : Bool :=
  w.name == Stack.objectStoreWorkload || w.name == Stack.objectStoreJob

/-- Gathers what can be found out about a workload. A query that fails leaves a gap and hinders no other
one, so there always is a report. -/
def collect (limit : Duration) (w : Resource) : Program interface Report := do
  Machine.warn "Collecting diagnostics" [("workload", w.text)]
  let description ← describe w
  let pods ← inspectAll w.ns (← findPods w)
  if concernsObjectStore w then
    return ⟨w, description, pods, ← surveyObjectStore limit w.ns⟩
  else if w.name = Stack.operatorWorkload then do
    let pods ← match ← attempt (.pods Stack.operatorSelector w.ns) with
      | .ok ps => inspectNew w.ns pods ps
      | .error _ => pure pods
    let managed ← describe ⟨.mlflow, Stack.instanceName, w.ns⟩
    return ⟨w, description, pods, [("mlflow/" ++ Stack.instanceName, managed)]⟩
  else return ⟨w, description, pods, []⟩

def logLines : List String → Program interface Unit
  | [] => return ()
  | l :: ls => do
    Machine.warn l
    logLines ls

def collectAndLog (limit : Duration) (w : Resource) : Program interface Report := do
  let r ← collect limit w
  logLines (Text.linesOf r.render)
  return r

end Rollout.Diagnosis
