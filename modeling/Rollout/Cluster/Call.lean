import Rollout.Cluster.Resource
import Rollout.Cluster.Phase
import Rollout.Cluster.Secret
import Rollout.Duration

namespace Rollout.Cluster

structure Probe where
  name : String
  image : String
  ns : String
  words : List String
  limit : Duration
  deriving DecidableEq

/-- Everything that a cluster can be asked. A manifest that is applied without a namespace brings its
own, and an empty selector stands for all pods of the namespace. -/
inductive Call
  | apply (manifest : String) (ns : Option String)
  | namespaceExists (name : String)
  | createNamespace (name : String)
  | createSecret (s : Secret)
  | delete (r : Resource)
  | present (r : Resource)
  | describe (r : Resource)
  | get (r : Resource) (f : Format)
  | await (r : Resource) (c : Condition) (limit : Duration)
  | pods (selector ns : String)
  | podPhase (pod ns : String)
  | podAddress (pod ns : String)
  | podLogs (pod ns : String) (tail : Nat)
  | events (object ns : String)
  | podTable (ns : String)
  | probe (p : Probe)
  deriving DecidableEq

namespace Call

abbrev Answer : Call → Type
  | .apply .. | .createNamespace _ | .createSecret _ | .delete _ | .await .. => Unit
  | .namespaceExists _ | .present _ => Bool
  | .describe _ | .get .. | .podLogs .. | .events .. | .podTable _ | .probe _ => String
  | .pods .. => List String
  | .podPhase .. => Phase
  | .podAddress .. => Option String

/-- A call that serves to explain a failure. -/
def isDiagnostic : Call → Bool
  | .describe _ | .get .. | .pods .. | .podPhase .. | .podAddress .. | .podLogs .. | .events ..
  | .podTable _ | .probe _ => true
  | _ => false

end Call

end Rollout.Cluster
