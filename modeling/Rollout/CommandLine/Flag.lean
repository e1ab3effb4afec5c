import Rollout.Settings
import Rollout.Text.Integer

namespace Rollout.CommandLine

/-- What is wrong with a value: it is empty, or not one of a few words, or for a reason of its own. -/
inductive Objection
  | empty
  | choice
  | reason (text : String)
  deriving DecidableEq

structure Flag where
  name : String
  envName : String
  assign : String → Settings → Except Objection Settings

namespace Flag

def usage (f : Flag) : String :=
  let valueName := f.name.toList.map fun c => if c == '-' then '_' else c.toUpper
  "--" ++ f.name ++ " <" ++ String.ofList valueName ++ ">"

def text (name envName : String) (set : String → Settings → Settings) : Flag :=
  ⟨name, envName, fun v s => .ok (set v s)⟩

def path (name envName : String) (set : String → Settings → Settings) : Flag :=
  ⟨name, envName, fun v s => if v = "" then .error .empty else .ok (set v s)⟩

def storeMode (name envName : String) (set : StoreMode → Settings → Settings) : Flag :=
  ⟨name, envName, fun v s => match StoreMode.read v with
    | .ok m => .ok (set m s)
    | .error u => .error (.reason u.message)⟩

def artifactStorage (name envName : String) (set : ArtifactStorage → Settings → Settings) : Flag :=
  ⟨name, envName, fun v s => match ArtifactStorage.read v with
    | .ok m => .ok (set m s)
    | .error u => .error (.reason u.message)⟩

def switch (name envName : String) (set : Bool → Settings → Settings) : Flag :=
  ⟨name, envName, fun v s =>
    if v = "" then .error .empty
    else if v = "true" then .ok (set true s)
    else if v = "false" then .ok (set false s)
    else .error .choice⟩

/-- A port is first of all a 64-bit integer. -/
def port (name envName : String) (set : Nat → Settings → Settings) : Flag :=
  ⟨name, envName, fun v s => match Text.Integer.readInt 10 (Nat.pow 2 63 - 1) v.toList with
    | .error fault => .error (.reason fault.message)
    | .ok n =>
      if 0 ≤ n ∧ n ≤ 65535 then .ok (set n.toNat s)
      else .error (.reason (toString n ++ " is not in 0..=65535"))⟩

def seconds (name envName : String) (set : Nat → Settings → Settings) : Flag :=
  ⟨name, envName, fun v s => match Text.Integer.readNat 10 (Nat.pow 2 64 - 1) v.toList with
    | .error fault => .error (.reason fault.message)
    | .ok n => .ok (set n s)⟩

/-- Every flag, in the order in which their environment variables are read. -/
def all : List Flag :=
  [text "namespace" "MLFLOW_DEPLOY_NAMESPACE" fun v s => { s with ns := v },
    text "mlflow-image" "MLFLOW_DEPLOY_MLFLOW_IMAGE" fun v s => { s with image := v },
    text "mlflow-operator-image" "MLFLOW_DEPLOY_OPERATOR_IMAGE"
      fun v s => { s with operatorImage := v },
    storeMode "backend-store" "MLFLOW_DEPLOY_BACKEND_STORE" fun m s => { s with backend := m },
    storeMode "registry-store" "MLFLOW_DEPLOY_REGISTRY_STORE" fun m s => { s with registry := m },
    artifactStorage "artifact-storage" "MLFLOW_DEPLOY_ARTIFACT_STORAGE"
      fun m s => { s with artifacts := m },
    switch "serve-artifacts" "MLFLOW_DEPLOY_SERVE_ARTIFACTS"
      fun b s => { s with serveArtifacts := b },
    text "backend-store-uri" "MLFLOW_DEPLOY_BACKEND_STORE_URI"
      fun v s => { s with backendUri := v },
    text "registry-store-uri" "MLFLOW_DEPLOY_REGISTRY_STORE_URI"
      fun v s => { s with registryUri := v },
    text "artifacts-destination" "MLFLOW_DEPLOY_ARTIFACTS_DESTINATION"
      fun v s => { s with artifactsDestination := v },
    text "postgres-host" "MLFLOW_DEPLOY_POSTGRES_HOST"
      fun v s => { s with postgresHost := some v },
    port "postgres-port" "MLFLOW_DEPLOY_POSTGRES_PORT" fun n s => { s with postgresPort := n },
    text "postgres-user" "MLFLOW_DEPLOY_POSTGRES_USER" fun v s => { s with postgresUser := v },
    text "postgres-password" "MLFLOW_DEPLOY_POSTGRES_PASSWORD"
      fun v s => { s with postgresPassword := v },
    text "postgres-backend-db" "MLFLOW_DEPLOY_POSTGRES_BACKEND_DB"
      fun v s => { s with backendDatabase := v },
    text "postgres-registry-db" "MLFLOW_DEPLOY_POSTGRES_REGISTRY_DB"
      fun v s => { s with registryDatabase := v },
    text "s3-bucket" "MLFLOW_DEPLOY_S3_BUCKET" fun v s => { s with bucket := v },
    text "s3-access-key" "MLFLOW_DEPLOY_S3_ACCESS_KEY" fun v s => { s with accessKey := v },
    text "s3-secret-key" "MLFLOW_DEPLOY_S3_SECRET_KEY" fun v s => { s with secretKey := v },
    text "s3-endpoint" "MLFLOW_DEPLOY_S3_ENDPOINT"
      fun v s => { s with objectStoreEndpoint := some v },
    path "repo-root" "MLFLOW_DEPLOY_REPO_ROOT" fun v s => { s with root := v },
    path "manifest-path" "MLFLOW_DEPLOY_MANIFEST_PATH" fun v s => { s with manifestPath := v },
    path "results-file" "GITHUB_OUTPUT" fun v s => { s with resultsPath := some v },
    text "kubectl" "MLFLOW_DEPLOY_KUBECTL" fun v s => { s with kubectl := v },
    text "kustomize" "MLFLOW_DEPLOY_KUSTOMIZE" fun v s => { s with kustomize := v },
    seconds "wait-timeout-secs" "MLFLOW_DEPLOY_WAIT_TIMEOUT_SECS"
      fun n s => { s with waitSecs := n },
    seconds "init-job-timeout-secs" "MLFLOW_DEPLOY_INIT_JOB_TIMEOUT_SECS"
      fun n s => { s with initJobSecs := n },
    seconds "poll-interval-secs" "MLFLOW_DEPLOY_POLL_INTERVAL_SECS"
      fun n s => { s with pollSecs := n },
    seconds "command-timeout-secs" "MLFLOW_DEPLOY_COMMAND_TIMEOUT_SECS"
      fun n s => { s with commandSecs := n }]

def find? (name : String) : Option Flag := all.find? fun f => f.name == name

end Flag

end Rollout.CommandLine
