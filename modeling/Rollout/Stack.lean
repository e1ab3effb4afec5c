def Rollout.version : String := "0.3.0"

/-! Names of what a deployment consists of. -/

namespace Rollout.Stack

def apiVersion : String := "mlflow.opendatahub.io/v1"
def instanceKind : String := "MLflow"
def instanceName : String := "mlflow"
def servicePort : Nat := 5000
def localPort : Nat := 8080
def volumeSize : String := "10Gi"
def endpointVariable : String := "MLFLOW_S3_ENDPOINT_URL"

def databaseSecret : String := "mlflow-db-credentials"
def backendKey : String := "backend-store-uri"
def registryKey : String := "registry-store-uri"
def objectStoreSecret : String := "aws-credentials"
def accessKeyName : String := "AWS_ACCESS_KEY_ID"
def secretKeyName : String := "AWS_SECRET_ACCESS_KEY"

def databaseWorkload : String := "postgres-deployment"
def databaseService : String := "postgres"
def objectStoreWorkload : String := "seaweedfs"
def objectStoreJob : String := "init-seaweedfs"
def objectStoreService : String := "minio"
def objectStoreServicePort : Nat := 9000
def objectStorePodPort : Nat := 8333
def operatorWorkload : String := "mlflow-operator-controller-manager"
def operatorSelector : String := "control-plane=controller-manager"

def localUrl : String := "http://localhost:" ++ toString localPort

def endpoint (service ns : String) (port : Option Nat) : String :=
  let host := service ++ "-service." ++ ns ++ ".svc.cluster.local"
  match port with
  | some p => host ++ ":" ++ toString p
  | none => host

end Rollout.Stack
