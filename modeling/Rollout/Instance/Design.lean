import Rollout.Instance.Basic
import Rollout.Plan

namespace Rollout

inductive Warning
  | serveForced (destination : String)
  deriving DecidableEq

def Warning.text : Warning → String
  | .serveForced d =>
    "serveArtifacts=false is not supported with file-based artifact destination " ++ d ++
      ", forcing serveArtifacts=true"

namespace Plan

structure ArtifactDesign where
  serve : Bool
  destination : String
  secretVariables : List String
  environment : List (String × String)
  warnings : List Warning

def storeSource (mode : StoreMode) (key uri : String) : StoreSource :=
  match mode with
  | .postgres => .secret Stack.databaseSecret key
  | .sqlite => .uri uri

def isFileUri (s : String) : Bool := "file://".toList.isPrefixOf s.toList

/-- Artifacts in a bucket need its credentials and endpoint. In a local folder they must be served, since
the operator takes no such destination otherwise. -/
def artifactDesign (p : Plan) : ArtifactDesign :=
  match p.artifacts with
  | .s3 =>
    { serve := p.serveArtifacts
      destination := "s3://" ++ p.objectStore.bucket ++ "/artifacts"
      secretVariables := [Stack.objectStoreSecret]
      environment := [(Stack.endpointVariable, p.objectStore.endpoint)]
      warnings := [] }
  | .file =>
    let forced := isFileUri p.artifactsDestination && !p.serveArtifacts
    { serve := p.serveArtifacts || forced
      destination := p.artifactsDestination
      secretVariables := []
      environment := []
      warnings := if forced then [.serveForced p.artifactsDestination] else [] }

/-- The instance that a plan asks for. Artifacts that are not served have a default root below their
destination, and there is a volume unless nothing would be kept on it. -/
def design (p : Plan) : Instance :=
  let a := p.artifactDesign
  { apiVersion := Stack.apiVersion
    kind := Stack.instanceKind
    name := Stack.instanceName
    ns := p.ns
    image := p.image
    pullPolicy := "Always"
    backend := storeSource p.backend Stack.backendKey p.backendUri
    registry := storeSource p.registry Stack.registryKey p.registryUri
    serveArtifacts := a.serve
    artifactsDestination := a.destination
    defaultRoot := if a.serve then none else some (a.destination ++ "/runs")
    secretVariables := a.secretVariables
    environment := a.environment
    volume := if p.isExternal then none else some ⟨["ReadWriteOnce"], Stack.volumeSize⟩ }

def warnings (p : Plan) : List Warning := p.artifactDesign.warnings

end Plan

end Rollout
