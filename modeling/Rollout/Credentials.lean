import Rollout.Cluster.Secret
import Rollout.Plan

namespace Rollout.Plan

def databaseSecret (p : Plan) : Cluster.Secret :=
  .ofLiterals Stack.databaseSecret p.ns
    [(Stack.backendKey, p.database.uri p.database.backendName),
      (Stack.registryKey, p.database.uri p.database.registryName)]

def objectStoreSecret (p : Plan) : Cluster.Secret :=
  .ofLiterals Stack.objectStoreSecret p.ns
    [(Stack.accessKeyName, p.objectStore.accessKey), (Stack.secretKeyName, p.objectStore.secretKey)]

end Rollout.Plan
