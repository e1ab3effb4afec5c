import Rollout.Cluster.Resource
import Rollout.Duration

namespace Rollout.Cluster

/-- A resource to wait for: until it exists, if that has a time limit, and until it is available. The
owner is the workload that creates it. -/
structure Target where
  resource : Resource
  existsWithin : Option Duration
  availableWithin : Duration
  pollEvery : Duration
  owner : Option Resource
  deriving DecidableEq

namespace Target

def deployment (name ns : String) : Target where
  resource := ⟨.deployment, name, ns⟩
  existsWithin := some (Duration.ofSecs 300)
  availableWithin := Duration.ofSecs 300
  pollEvery := Duration.ofSecs 10
  owner := none

def creator (t : Target) : Resource := t.owner.getD t.resource

end Target

end Rollout.Cluster
