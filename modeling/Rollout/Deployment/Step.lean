import Rollout.Cluster.Target
import Rollout.Plan

namespace Rollout

inductive Step
  | ns
  | database
  | objectStore
  | operator
  | serving
  | access
  deriving DecidableEq

namespace Step

def all : List Step := [.ns, .database, .objectStore, .operator, .serving, .access]

def name : Step → String
  | .ns => "namespace"
  | .database => "database"
  | .objectStore => "object_store"
  | .operator => "operator"
  | .serving => "instance"
  | .access => "access"

def title : Step → String
  | .ns => "Namespace"
  | .database => "PostgreSQL"
  | .objectStore => "SeaweedFS"
  | .operator => "MLflow Operator"
  | .serving => "MLflow"
  | .access => "Access"

def isEnabled (p : Plan) : Step → Bool
  | .database => p.needsDatabase
  | .objectStore => p.needsObjectStore
  | _ => true

theorem database_isEnabled_iff {p : Plan} :
    database.isEnabled p = true ↔ p.backend = .postgres ∨ p.registry = .postgres := by
  simp [isEnabled, Plan.needsDatabase]

theorem objectStore_isEnabled_iff {p : Plan} : objectStore.isEnabled p = true ↔ p.artifacts = .s3 := by
  simp [isEnabled, Plan.needsObjectStore]

def skipReason : Step → String
  | .database => "sqlite stores"
  | .objectStore => "file artifact storage"
  | _ => ""

def target (p : Plan) (workload : String) : Cluster.Target where
  resource := ⟨.deployment, workload, p.ns⟩
  existsWithin := some p.limits.wait
  availableWithin := p.limits.wait
  pollEvery := p.limits.pollInterval
  owner := none

def databaseTarget (p : Plan) : Cluster.Target := target p Stack.databaseWorkload

def objectStoreTarget (p : Plan) : Cluster.Target := target p Stack.objectStoreWorkload

/-- The workload of the operator is there as soon as its manifest is applied. -/
def operatorTarget (p : Plan) : Cluster.Target :=
  { target p Stack.operatorWorkload with existsWithin := none }

def servingTarget (p : Plan) : Cluster.Target :=
  { target p Stack.instanceName with owner := some ⟨.deployment, Stack.operatorWorkload, p.ns⟩ }

def target? (p : Plan) : Step → Option Cluster.Target
  | .database => some (databaseTarget p)
  | .objectStore => some (objectStoreTarget p)
  | .operator => some (operatorTarget p)
  | .serving => some (servingTarget p)
  | .ns | .access => none

end Step

end Rollout
