import Rollout.Data.Yaml.Writer

namespace Rollout

/-- Where an instance finds the address of a store: in its own description, or in a key of a secret. -/
inductive StoreSource
  | uri (text : String)
  | secret (name key : String)
  deriving DecidableEq

structure Volume where
  accessModes : List String
  size : String
  deriving DecidableEq

structure Instance where
  apiVersion : String
  kind : String
  name : String
  ns : String
  image : String
  pullPolicy : String
  backend : StoreSource
  registry : StoreSource
  serveArtifacts : Bool
  artifactsDestination : String
  defaultRoot : Option String
  secretVariables : List String
  environment : List (String × String)
  volume : Option Volume
  deriving DecidableEq

namespace Instance

def storeField (key : String) : StoreSource → String × Data
  | .uri s => (key, .text s)
  | .secret name k => (key ++ "From", .fields [("name", .text name), ("key", .text k)])

def volumeTree (v : Volume) : Data :=
  .fields
    [("accessModes", .items (v.accessModes.map .text)),
      ("resources", .fields [("requests", .fields [("storage", .text v.size)])])]

def optionalFields (i : Instance) : List (String × Data) :=
  (i.defaultRoot.map fun r => ("defaultArtifactRoot", Data.text r)).toList ++
    (if i.secretVariables = [] then []
     else [("envFrom", .items (i.secretVariables.map fun n =>
       .fields [("secretRef", .fields [("name", .text n)])]))]) ++
    (if i.environment = [] then []
     else [("env", .items (i.environment.map fun v =>
       .fields [("name", .text v.1), ("value", .text v.2)]))]) ++
    (i.volume.map fun v => ("storage", volumeTree v)).toList

def specFields (i : Instance) : List (String × Data) :=
  [("image", .fields [("image", .text i.image), ("imagePullPolicy", .text i.pullPolicy)]),
    storeField "backendStoreUri" i.backend,
    storeField "registryStoreUri" i.registry,
    ("serveArtifacts", .flag i.serveArtifacts),
    ("artifactsDestination", .text i.artifactsDestination)] ++ i.optionalFields

def tree (i : Instance) : Data :=
  .fields
    [("apiVersion", .text i.apiVersion), ("kind", .text i.kind),
      ("metadata", .fields [("name", .text i.name), ("namespace", .text i.ns)]),
      ("spec", .fields i.specFields)]

def yaml (i : Instance) : String := Data.Yaml.write i.tree

end Instance

end Rollout
