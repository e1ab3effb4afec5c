import Rollout.Cluster.Phase
import Rollout.Cluster.Resource
import Rollout.Diagnosis.Evidence
import Rollout.Sorted

namespace Rollout.Diagnosis

open Cluster

structure PodReport where
  name : String
  phase : Option Phase
  description : Option Evidence
  events : Option Evidence
  logs : Option Evidence
  deriving DecidableEq

namespace PodReport

def empty (name : String) : PodReport := ⟨name, none, none, none, none⟩

def evidence (p : PodReport) : List (String × Evidence) :=
  [("description", p.description), ("events", p.events), ("logs", p.logs)].filterMap fun e =>
    e.2.map fun x => (e.1, x)

end PodReport

structure Report where
  workload : Resource
  description : Evidence
  pods : List PodReport
  extra : Sorted Evidence
  deriving DecidableEq

namespace Report

def empty (workload : Resource) : Report := ⟨workload, .unavailable "not collected", [], []⟩

def pod? (r : Report) (name : String) : Option PodReport := r.pods.find? fun p => p.name == name

def block (title body : String) : String := "--- " ++ title ++ " ---\n" ++ body ++ "\n"

def podText (p : PodReport) : String :=
  "--- pod " ++ p.name ++ " (phase: " ++ ((p.phase.map Phase.text).getD "unknown") ++ ") ---\n" ++
    String.join (p.evidence.map fun e => "[" ++ e.1 ++ "]\n" ++ e.2.text ++ "\n")

def render (r : Report) : String :=
  "=== Diagnostics for " ++ r.workload.text ++ " ===\n" ++
    block (r.workload.kind.text ++ " description") r.description.text ++
    (if r.pods = [] then "No pods found for " ++ r.workload.name ++ "\n" else "") ++
    String.join (r.pods.map podText) ++
    String.join (r.extra.map fun e => block e.1 e.2.text)

end Report

end Rollout.Diagnosis
