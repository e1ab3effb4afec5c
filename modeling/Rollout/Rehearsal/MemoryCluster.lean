import Rollout.Plan
import Rollout.Rehearsal.Workstation
import Rollout.Results
import Rollout.Site

namespace Rollout.Rehearsal

open Cluster

/-- How a cluster in memory behaves: from which query on a resource is there (a resource that is not listed
always is), whether and how queries before that fail, what else fails, and which pods there are. -/
structure Behaviour where
  appearAfter : Sorted (Option Nat)
  existsErrors : Bool
  existsDelay : Duration
  failingWaits : List String
  failingApplies : Bool
  failingProbes : Bool
  failingOperator : Bool
  pods : Sorted (List String)
  phases : Sorted Phase

/-- A cluster in memory. It keeps namespaces, secrets by name only, and the number of existence queries for
each resource. Lists have the latest first. -/
structure MemoryCluster where
  behaviour : Behaviour
  station : Workstation
  namespaces : List String
  secrets : Sorted Secret
  polls : Sorted Nat
  calls : List String
  applied : List String
  rendered : List Part
  ledger : Ledger
  tlsFiles : List String

namespace MemoryCluster

def start (behaviour : Behaviour) (disk : Disk) (namespaces : List String) : MemoryCluster where
  behaviour := behaviour
  station := .start disk
  namespaces := namespaces
  secrets := []
  polls := []
  calls := []
  applied := []
  rendered := []
  ledger := []
  tlsFiles := []

def injected (operation : String) : Failure := .operation operation .zero "injected failure"

def callText : Call → String
  | .apply _ ns => "apply " ++ ns.getD "-"
  | .namespaceExists n => "namespace_exists " ++ n
  | .createNamespace n => "create_namespace " ++ n
  | .createSecret s => "create_secret " ++ s.name
  | .delete r => "delete " ++ r.label
  | .present r => "exists " ++ r.label
  | .describe r => "describe " ++ r.label
  | .get r f => "get " ++ r.label ++ " " ++ f.text
  | .await r c _ => "wait " ++ r.label ++ " " ++ c.text
  | .pods selector _ => "pods " ++ selector
  | .podPhase pod _ => "phase " ++ pod
  | .podAddress pod _ => "pod_ip " ++ pod
  | .podLogs pod _ tail => "logs " ++ pod ++ " " ++ toString tail
  | .events object _ => "events " ++ object
  | .podTable ns => "list_pods " ++ ns
  | .probe p => "run_probe " ++ p.name ++ " " ++ p.image ++ " " ++ " ".intercalate p.words

def pollsOf (w : MemoryCluster) (r : Resource) : Nat := (w.polls.get? r.label).getD 0

def isThere (w : MemoryCluster) (r : Resource) (query : Nat) : Bool :=
  match w.behaviour.appearAfter.get? r.label with
  | some (some n) => n ≤ query
  | some none => false
  | none => true

def existsOutcome (w : MemoryCluster) (r : Resource) (query : Nat) : Except Failure Bool :=
  if w.isThere r query then .ok true
  else if w.behaviour.existsErrors then .error (injected ("kubectl get " ++ r.label))
  else .ok false

def diagnostic {α : Type} (w : MemoryCluster) (operation : String) (a : α) : Except Failure α :=
  if w.behaviour.failingProbes then .error (injected operation) else .ok a

def record (w : MemoryCluster) (text : String) : MemoryCluster := { w with calls := text :: w.calls }

def pass (w : MemoryCluster) (d : Duration) : MemoryCluster :=
  { w with station := w.station.pass d }

def countPoll (w : MemoryCluster) (r : Resource) : MemoryCluster :=
  { w with polls := w.polls.insert r.label (w.pollsOf r + 1) }

/-- What a call changes, its record aside. -/
def effect (w : MemoryCluster) : Call → MemoryCluster
  | .apply manifest _ =>
    if w.behaviour.failingApplies then w else { w with applied := manifest :: w.applied }
  | .createNamespace n =>
    if w.namespaces.contains n then w else { w with namespaces := n :: w.namespaces }
  | .createSecret s =>
    if (w.secrets.get? s.name).isSome then w else { w with secrets := w.secrets.insert s.name s }
  | .delete r =>
    if r.kind = .secret then { w with secrets := w.secrets.filter fun e => e.1 != r.name } else w
  | .present r => (w.countPoll r).pass w.behaviour.existsDelay
  | _ => w

def outcome (w : MemoryCluster) : (c : Call) → Except Failure c.Answer
  | .apply .. => if w.behaviour.failingApplies then .error (injected "kubectl apply") else .ok ()
  | .namespaceExists n => .ok (w.namespaces.contains n)
  | .createNamespace _ | .delete _ => .ok ()
  | .createSecret s =>
    if (w.secrets.get? s.name).isSome then
      .error (.operation ("kubectl create secret " ++ s.name) .zero "AlreadyExists")
    else .ok ()
  | .present r => w.existsOutcome r (w.pollsOf r + 1)
  | c@(.describe r) => w.diagnostic (callText c) ("Name: " ++ r.name)
  | c@(.get r f) => w.diagnostic (callText c) (r.label ++ " " ++ f.text)
  | .await r _ _ =>
    if w.behaviour.failingWaits.contains r.label then .error (injected ("kubectl wait " ++ r.label))
    else .ok ()
  | .pods selector _ =>
    w.diagnostic "kubectl get pods" ((w.behaviour.pods.get? selector).getD [])
  | .podPhase pod _ =>
    w.diagnostic "kubectl get pod phase" ((w.behaviour.phases.get? pod).getD .running)
  | .podAddress .. => w.diagnostic "kubectl get pod ip" (some "10.244.0.7")
  | c@(.podLogs pod ..) => w.diagnostic (callText c) ("log line from " ++ pod)
  | c@(.events object _) => w.diagnostic (callText c) ("Warning FailedScheduling " ++ object)
  | c@(.podTable _) => w.diagnostic (callText c) "NAME READY STATUS"
  | c@(.probe _) => w.diagnostic (callText c) "probe ok"

def took (w : MemoryCluster) : Call → Duration
  | .present _ => w.behaviour.existsDelay.timed
  | _ => .zero

def answerCall (w : MemoryCluster) (c : Call) : Reply c.Answer × MemoryCluster :=
  (⟨w.took c, w.outcome c⟩, (w.record (callText c)).effect c)

/-- A query that is given up lasts no longer than that, and counts all the same. -/
def answerPoll (w : MemoryCluster) (r : Resource) (limit : Duration) : Poll × MemoryCluster :=
  let query := w.pollsOf r + 1
  let w := (w.record (callText (.present r))).countPoll r
  (.answered w.behaviour.existsDelay.timed (w.existsOutcome r query),
    w.pass (w.behaviour.existsDelay.shorter limit))

def workloadOf : Part → String
  | .database => Stack.databaseWorkload
  | .objectStore => Stack.objectStoreWorkload
  | .operator => Stack.operatorWorkload

def manifestOf (part : Part) : String :=
  "kind: Deployment\nmetadata:\n  name: " ++ workloadOf part ++ "\n"

/-- The manifest of the operator comes with its certificate and key. -/
def answerRender (w : MemoryCluster) (part : Part) : Except Failure String × MemoryCluster :=
  let w := { w with rendered := part :: w.rendered }
  match part with
  | .operator =>
    let (done, station) := w.station.generate w.tlsFiles
    let w := { w with station := station }
    match done with
    | .error c => (.error (.io c), w)
    | .ok _ =>
      if w.behaviour.failingOperator then (.error (injected "kustomize build operator"), w)
      else (.ok (manifestOf part), w)
  | _ => (.ok (manifestOf part), w)

def answer : Handler Site.interface MemoryCluster
  | .cluster c, w => w.answerCall c
  | .poll r limit, w => w.answerPoll r limit
  | .render part, w => w.answerRender part
  | .record key value, w => (.ok (), { w with ledger := w.ledger.record key value })
  | .machine r, w =>
    let (a, station) := Workstation.answer r w.station
    (a, { w with station := station })

/-- Whether a run is broken off here, on a clock that goes no further than to `latest`. -/
def breaksOff (latest : Nat) : Site.Request → MemoryCluster → Bool
  | .machine r, w => w.station.breaksOff latest r
  | _, _ => false

end MemoryCluster

end Rollout.Rehearsal
