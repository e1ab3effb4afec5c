import Rollout.Plan

namespace Rollout

open Text (Quoted.quote Record.write Record.option)

def redacted : String := Quoted.quote "***"

def Database.outline (d : Database) : String :=
  Record.write "PostgresConfig"
    [("host", Quoted.quote d.host), ("port", toString d.port), ("user", Quoted.quote d.user),
      ("password", redacted), ("backend_db", Quoted.quote d.backendName),
      ("registry_db", Quoted.quote d.registryName)]

def ObjectStore.outline (o : ObjectStore) : String :=
  Record.write "S3Config"
    [("bucket", Quoted.quote o.bucket), ("access_key", redacted), ("secret_key", redacted),
      ("endpoint", Quoted.quote o.endpoint)]

def Limits.outline (l : Limits) : String :=
  Record.write "Timeouts"
    [("wait", l.wait.text), ("init_job", l.initJob.text), ("poll_interval", l.pollInterval.text),
      ("command", l.command.text), ("probe", l.probe.text)]

def Places.outline (p : Places) : String :=
  Record.write "PathsConfig"
    [("repo_root", Quoted.quote p.root), ("manifest_path", Quoted.quote p.manifest),
      ("results_file", Record.option (p.results.map Quoted.quote))]

def Tools.outline (t : Tools) : String :=
  Record.write "ToolsConfig"
    [("kubectl", Quoted.quote t.kubectl), ("kustomize", Quoted.quote t.kustomize)]

def StoreMode.outline : StoreMode → String
  | .sqlite => "Sqlite"
  | .postgres => "Postgres"

def ArtifactStorage.outline : ArtifactStorage → String
  | .file => "File"
  | .s3 => "S3"

def Plan.outline (p : Plan) : String :=
  Record.write "DeploymentConfig"
    [("namespace", Quoted.quote p.ns), ("mlflow_image", Quoted.quote p.image),
      ("operator_image", Quoted.quote p.operatorImage), ("backend_store", p.backend.outline),
      ("registry_store", p.registry.outline), ("artifact_storage", p.artifacts.outline),
      ("serve_artifacts", if p.serveArtifacts then "true" else "false"),
      ("backend_store_uri", Quoted.quote p.backendUri),
      ("registry_store_uri", Quoted.quote p.registryUri),
      ("artifacts_destination", Quoted.quote p.artifactsDestination),
      ("postgres", p.database.outline), ("s3", p.objectStore.outline),
      ("timeouts", p.limits.outline), ("paths", p.places.outline), ("tools", p.tools.outline)]

end Rollout
