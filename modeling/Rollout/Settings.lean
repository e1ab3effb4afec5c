import Rollout.Storage

namespace Rollout

structure Settings where
  ns : String := "mlflow"
  image : String := "quay.io/opendatahub/mlflow:odh-stable"
  operatorImage : String := "quay.io/opendatahub/mlflow-operator:odh-stable"
  backend : StoreMode := .sqlite
  registry : StoreMode := .sqlite
  artifacts : ArtifactStorage := .file
  serveArtifacts : Bool := true
  backendUri : String := "sqlite:////mlflow/mlflow.db"
  registryUri : String := "sqlite:////mlflow/mlflow.db"
  artifactsDestination : String := "file:///mlflow/artifacts"
  postgresHost : Option String := none
  postgresPort : Nat := 5432
  postgresUser : String := "postgres"
  postgresPassword : String := "mysecretpassword"
  backendDatabase : String := "mydatabase"
  registryDatabase : String := "mydatabase"
  bucket : String := "mlpipeline"
  accessKey : String := "minio"
  secretKey : String := "minio123"
  objectStoreEndpoint : Option String := none
  root : String := "."
  manifestPath : String := "/tmp/mlflow-cr.yaml"
  resultsPath : Option String := none
  kubectl : String := "kubectl"
  kustomize : String := "kustomize"
  waitSecs : Nat := 300
  initJobSecs : Nat := 400
  pollSecs : Nat := 10
  commandSecs : Nat := 300
  deriving DecidableEq

end Rollout
