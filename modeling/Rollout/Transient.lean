import Rollout.Machine
import Rollout.Plan

namespace Rollout

/-- Files that must not outlive a run. -/
structure Transient where
  paths : List String
  released : Bool
  deriving DecidableEq

namespace Transient

def ofPaths (paths : List String) : Transient := ⟨paths, false⟩

def ofPlan (p : Plan) : Transient := ofPaths (p.places.tlsFiles ++ [p.places.manifest])

variable {I : Interface} [HasMachine I]

def removeFile (path : String) : Program I Bool := do
  if ← Machine.occupied path then
    match ← Machine.remove path with
    | .ok _ => do
      Machine.info "Removed generated file" [("file", path)]
      return true
    | .error c => do
      Machine.warn "Failed to remove generated file" [("file", path), ("error", c.message)]
      return false
  else return false

def removeFiles : List String → Program I Nat
  | [] => return 0
  | p :: ps => do
    let removed ← removeFile p
    let more ← removeFiles ps
    return (if removed then 1 else 0) + more

/-- Removes the files, the first time only. -/
def release (t : Transient) : Program I (Nat × Transient) :=
  if t.released then return (0, t)
  else do
    let n ← removeFiles t.paths
    return (n, { t with released := true })

end Transient

end Rollout
