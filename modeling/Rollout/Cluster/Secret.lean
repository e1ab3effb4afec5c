import Rollout.Sorted
import Rollout.Text.Record

namespace Rollout.Cluster

structure Secret where
  name : String
  ns : String
  data : Sorted String
  deriving DecidableEq

namespace Secret

def ofLiterals (name ns : String) (literals : List (String × String)) : Secret :=
  ⟨name, ns, Sorted.ofList literals⟩

def get? (s : Secret) (key : String) : Option String := s.data.get? key

def outline (s : Secret) : String :=
  Text.Record.write "Secret"
    [("name", Text.Quoted.quote s.name), ("namespace", Text.Quoted.quote s.ns),
      ("keys", Text.Record.list (s.data.keys.map Text.Quoted.quote))]

end Secret

end Rollout.Cluster
