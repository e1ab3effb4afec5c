import Rollout.Deployment.Run
import Rollout.Rehearsal.MemoryCluster

namespace Rollout.Rehearsal

open Cluster

/-- What is done on a cluster, each time as a whole. A deployment comes with manifests of its own, of which that
of the operator may fail to be rendered. -/
inductive Operation
  | deploy (p : Plan) (failingOperator : Bool)
  | awaitExistence (t : Target)
  | awaitAvailability (t : Target)
  | awaitJob (name ns : String) (limit : Duration)
  | diagnose (limit : Duration) (r : Resource)

namespace Operation

abbrev Outcome : Operation → Type
  | deploy .. => Summary × Except Failure Unit
  | awaitExistence _ | awaitAvailability _ | awaitJob .. => Except Failure Unit
  | diagnose .. => Diagnosis.Report

def program : (o : Operation) → Program Site.interface o.Outcome
  | deploy p _ => Deployment.runRecorded p
  | awaitExistence t => (Wait.untilExists t).run
  | awaitAvailability t => (Wait.untilAvailable t).run
  | awaitJob name ns limit => (Wait.untilJobComplete name ns limit).run
  | diagnose limit r => Diagnosis.collect limit r

/-- What a deployment finds is the cluster and the machine as they are, with manifests of its own, of which one
comes with the files that its plan names, and with a ledger of its own. -/
def prepare (w : MemoryCluster) : Operation → MemoryCluster
  | deploy p failing =>
    { w with
      behaviour := { w.behaviour with failingOperator := failing }
      rendered := []
      ledger := []
      tlsFiles := p.places.tlsFiles }
  | _ => w

def outcome (o : Operation) (w : MemoryCluster) : o.Outcome :=
  (o.program.run MemoryCluster.answer (o.prepare w)).1

def next (o : Operation) (w : MemoryCluster) : MemoryCluster :=
  (o.program.run MemoryCluster.answer (o.prepare w)).2

/-- What is left to do for an operation that is broken off. -/
def cleanUp : Operation → Program Site.interface Unit
  | deploy p _ => Deployment.abandon p
  | _ => pure ()

/-- An operation on a clock that goes no further than to `latest`. It has no outcome if it is broken off. -/
def runBy (latest : Nat) (o : Operation) (w : MemoryCluster) : Option o.Outcome × MemoryCluster :=
  match o.program.runUpTo (MemoryCluster.breaksOff latest) MemoryCluster.answer (o.prepare w) with
  | (some out, w) => (some out, w)
  | (none, w) => (none, (o.cleanUp.run MemoryCluster.answer w).2)

end Operation

def MemoryCluster.after (w : MemoryCluster) (ops : List Operation) : MemoryCluster :=
  ops.foldl (fun w o => o.next w) w

end Rollout.Rehearsal
