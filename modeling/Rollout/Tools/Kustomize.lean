import Rollout.Host
import Rollout.Plan
import Rollout.Site
import Rollout.Text.Assignments
import Rollout.Text.Substitution

namespace Rollout

def updateParams (path ns image : String) : Host.Action Unit := do
  Host.info "Updating operator parameters" [("path", path), ("namespace", ns), ("image", image)]
  let content ← Host.read path
  Host.write path
    (Text.Assignments.update [("NAMESPACE", ns), ("MLFLOW_OPERATOR_IMAGE", image)] content)

structure Kustomize where
  binary : String
  limit : Duration
  deriving DecidableEq

namespace Kustomize

def build (k : Kustomize) (folder : String) : Host.Action String := do
  let o ← Host.executeChecked ("kustomize build " ++ folder)
    ⟨k.binary, ["build", folder], none, none, k.limit⟩
  return o.stdout

def tlsOperation : String := "generate TLS certificates"

def checkFiles (elapsed : Duration) : List String → Host.Action Unit
  | [] => return ()
  | f :: fs => do
    if ← Host.occupied f then
      Host.info "TLS material generated" [("file", f)]
      checkFiles elapsed fs
    else throw (.operation tlsOperation elapsed ("TLS file was not created: " ++ f))

def generateTls (k : Kustomize) (p : Places) : Host.Action Unit := do
  let script := Path.join p.overlay "generate-tls.sh"
  Host.info "Generating TLS certificates" [("script", script)]
  let o ← Host.executeChecked tlsOperation
    ⟨"sh", [script, "generate"], none, some p.root, k.limit⟩
  checkFiles o.took p.tlsFiles

def render (k : Kustomize) (p : Plan) : Part → Host.Action String
  | .database => k.build (Path.join p.places.overlay "postgres")
  | .objectStore => do
    let rendered ← k.build (Path.join (Path.join p.places.overlay "seaweedfs") "base")
    return Text.substitute
      [("NAMESPACE", p.ns), ("APPLICATION_CRD_ID", "mlflow-pipelines"),
        ("PROFILE_NAMESPACE_LABEL", "mlflow-profile"), ("S3_ADMIN_USER", "kind-admin")] rendered
  | .operator => do
    updateParams (Path.join p.places.overlay "params.env") p.ns p.operatorImage
    k.generateTls p.places
    let rendered ← k.build p.places.overlay
    return Text.substitute [("NAMESPACE", p.ns)] rendered

end Kustomize

end Rollout
