import Rollout.CommandLine.LogFilter
import Rollout.CommandLine.Reading
import Rollout.Deployment.OnHost

namespace Rollout.CommandLine

inductive Outcome
  | refused (r : Refusal)
  | deployed (s : Summary)
  | failed (ns : String) (f : Failure)

def component : String := "mlflow_deploy"

namespace Outcome

def exitCode : Outcome → Nat
  | .refused r => r.exitCode
  | .deployed _ => 0
  | .failed .. => 1

def notice? : Outcome → Option Notice
  | .refused _ => none
  | .deployed s =>
    some ⟨component, .info, "MLflow deployed successfully",
      [("run_id", s.runId.text), ("url", s.url.getD "-")]⟩
  | .failed ns f =>
    some ⟨component, .error,
      "Deployment failed: MLflow deployment into namespace " ++ ns ++ " failed: " ++ f.chain, []⟩

end Outcome

def greeting (ns : String) : Notice :=
  ⟨component, .info, "mlflow-deploy starting", [("version", version), ("namespace", ns)]⟩

def tell (filter : LogFilter) (n : Notice) : Program Host.interface Unit :=
  if filter.lets n then Machine.log n.entry.level n.entry.text n.entry.fields else pure ()

def invoke (env : String → Option String) (words : List String) : Program Host.interface Outcome := do
  let filter := LogFilter.ofEnvironment env
  match read env words with
  | .error r => return .refused r
  | .ok s =>
    let plan := Plan.ofSettings s
    tell filter (greeting plan.ns)
    let outcome ← match ← plan.deploy.run with
      | .ok summary => pure (Outcome.deployed summary)
      | .error f => pure (Outcome.failed plan.ns f)
    match outcome.notice? with
    | some n => tell filter n
    | none => pure ()
    return outcome

def abandon (env : String → Option String) (words : List String) : Program Host.interface Unit :=
  match read env words with
  | .error _ => return ()
  | .ok s => Deployment.abandon (.ofSettings s)

def plainName : String := "NO_COLOR"

def styleName : String := "CLICOLOR_FORCE"

def isInStyle (env : String → Option String) : Bool :=
  (env plainName).getD "" = "" ∧ (env styleName).getD "0" ≠ "0"

def errorText (env : String → Option String) (o : Outcome) : List String :=
  (LogFilter.ofEnvironment env).warnings ++ match o with
    | .refused r => if r.isMistake then [r.shown (isInStyle env)] else []
    | _ => []

end Rollout.CommandLine
