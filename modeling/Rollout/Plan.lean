import Rollout.Duration
import Rollout.Path
import Rollout.Settings
import Rollout.Stack
import Rollout.Text.Blank
import Rollout.Text.Percent
import Rollout.Text.Record

namespace Rollout

structure Database where
  host : String
  port : Nat
  user : String
  password : String
  backendName : String
  registryName : String
  deriving DecidableEq

namespace Database

/-- The address of one database. User and password are percent-encoded, so that neither can end its
part of the address. -/
def uri (d : Database) (name : String) : String :=
  "postgresql://" ++ Text.Percent.encode d.user ++ ":" ++ Text.Percent.encode d.password ++ "@" ++
    d.host ++ ":" ++ toString d.port ++ "/" ++ name

end Database

structure ObjectStore where
  bucket : String
  accessKey : String
  secretKey : String
  endpoint : String
  deriving DecidableEq

structure Limits where
  wait : Duration
  initJob : Duration
  pollInterval : Duration
  command : Duration
  probe : Duration
  deriving DecidableEq

structure Places where
  root : String
  manifest : String
  results : Option String
  deriving DecidableEq

namespace Places

def overlay (p : Places) : String :=
  Path.join (Path.join (Path.join p.root "config") "overlays") "kind"

def certificate (p : Places) : String := Path.join p.overlay "tls.crt"

def certificateKey (p : Places) : String := Path.join p.overlay "tls.key"

def tlsFiles (p : Places) : List String := [p.certificate, p.certificateKey]

end Places

structure Tools where
  kubectl : String
  kustomize : String
  deriving DecidableEq

structure Plan where
  ns : String
  image : String
  operatorImage : String
  backend : StoreMode
  registry : StoreMode
  artifacts : ArtifactStorage
  serveArtifacts : Bool
  backendUri : String
  registryUri : String
  artifactsDestination : String
  database : Database
  objectStore : ObjectStore
  limits : Limits
  places : Places
  tools : Tools
  deriving DecidableEq

namespace Plan

def needsDatabase (p : Plan) : Bool := p.backend == .postgres || p.registry == .postgres

def needsObjectStore (p : Plan) : Bool := p.artifacts == .s3

def isExternal (p : Plan) : Bool :=
  p.backend == .postgres && p.registry == .postgres && p.artifacts == .s3

def nonVoid (s : Option String) : Option String := s.filter fun s => !Text.isVoid s

/-- Hosts that are not given are those of the services in the namespace, and polling rests at least a
second between queries. -/
def ofSettings (s : Settings) : Plan where
  ns := s.ns
  image := s.image
  operatorImage := s.operatorImage
  backend := s.backend
  registry := s.registry
  artifacts := s.artifacts
  serveArtifacts := s.serveArtifacts
  backendUri := s.backendUri
  registryUri := s.registryUri
  artifactsDestination := s.artifactsDestination
  database :=
    { host := (nonVoid s.postgresHost).getD (Stack.endpoint Stack.databaseService s.ns none)
      port := s.postgresPort
      user := s.postgresUser
      password := s.postgresPassword
      backendName := s.backendDatabase
      registryName := s.registryDatabase }
  objectStore :=
    { bucket := s.bucket
      accessKey := s.accessKey
      secretKey := s.secretKey
      endpoint := (nonVoid s.objectStoreEndpoint).getD
        ("http://" ++
          Stack.endpoint Stack.objectStoreService s.ns (some Stack.objectStoreServicePort)) }
  limits :=
    { wait := Duration.ofSecs s.waitSecs
      initJob := Duration.ofSecs s.initJobSecs
      pollInterval := Duration.ofSecs (max 1 s.pollSecs)
      command := Duration.ofSecs s.commandSecs
      probe := Duration.ofSecs 60 }
  places := { root := s.root, manifest := s.manifestPath, results := s.resultsPath }
  tools := { kubectl := s.kubectl, kustomize := s.kustomize }

theorem one_sec_le_pollInterval (s : Settings) :
    (Duration.ofSecs 1).nanos ≤ (ofSettings s).limits.pollInterval.nanos :=
  Nat.mul_le_mul_right _ (Nat.le_max_left 1 s.pollSecs)

end Plan

end Rollout
