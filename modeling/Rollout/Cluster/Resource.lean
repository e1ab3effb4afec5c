namespace Rollout.Cluster

inductive Kind
  | ns
  | deployment
  | job
  | pod
  | secret
  | service
  | endpoints
  | mlflow
  deriving DecidableEq

namespace Kind

def all : List Kind :=
  [.ns, .deployment, .job, .pod, .secret, .service, .endpoints, .mlflow]

def text : Kind → String
  | .ns => "namespace"
  | .deployment => "deployment"
  | .job => "job"
  | .pod => "pod"
  | .secret => "secret"
  | .service => "service"
  | .endpoints => "endpoints"
  | .mlflow => "mlflow"

theorem text_injective {a b : Kind} (h : a.text = b.text) : a = b := by
  revert h; cases a <;> cases b <;> decide

end Kind

inductive Condition
  | available
  | complete
  deriving DecidableEq

def Condition.text : Condition → String
  | .available => "available"
  | .complete => "complete"

inductive Format
  | wide
  | yaml
  deriving DecidableEq

def Format.text : Format → String
  | .wide => "wide"
  | .yaml => "yaml"

structure Resource where
  kind : Kind
  name : String
  ns : String
  deriving DecidableEq

namespace Resource

def label (r : Resource) : String := r.kind.text ++ "/" ++ r.name

def text (r : Resource) : String := r.label ++ " -n " ++ r.ns

end Resource

end Rollout.Cluster
