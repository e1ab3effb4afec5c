import Rollout.Machine

namespace Rollout

inductive StageStatus
  | pending
  | running
  | success
  | failed
  | skipped
  deriving DecidableEq

def StageStatus.icon : StageStatus → String
  | .success => "✓"
  | .failed => "✗"
  | .skipped => "⊘"
  | .running => "⟳"
  | .pending => "○"

structure Stage where
  name : String
  title : String
  startedAt : Option Instant
  finishedAt : Option Instant
  durationMs : Option Int
  status : StageStatus
  message : Option String
  deriving DecidableEq

namespace Stage

def pending (name title : String) : Stage := ⟨name, title, none, none, none, .pending, none⟩

def start (t : Instant) (s : Stage) : Stage := { s with startedAt := some t, status := .running }

def finish (t : Instant) (success : Bool) (message : Option String) (s : Stage) : Stage :=
  { s with
    finishedAt := some t
    status := if success then .success else .failed
    message := message
    durationMs := match s.startedAt with
      | some t' => some ((t - t').tdiv 1000000)
      | none => s.durationMs }

def skip (message : Option String) (s : Stage) : Stage :=
  { s with status := .skipped, message := message }

def summaryLine (s : Stage) : String :=
  let duration := match s.durationMs with
    | some d => toString d ++ "ms"
    | none => "-"
  let line := s.status.icon ++ " " ++ s.title ++ " (" ++ duration ++ ")"
  match s.message with
  | some m => if s.status = .success then line else line ++ " - " ++ m
  | none => line

end Stage

inductive RunStatus
  | success
  | failed
  deriving DecidableEq

def RunStatus.text : RunStatus → String
  | .success => "success"
  | .failed => "failed"

structure Summary where
  runId : RunId
  ns : String
  status : RunStatus
  url : Option String
  stages : List Stage
  deriving DecidableEq

end Rollout
