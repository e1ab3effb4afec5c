import Rollout.Deployment.Run
import Rollout.Results
import Rollout.Tools.Kubectl
import Rollout.Tools.Kustomize

namespace Rollout.Plan

def kubectl (p : Plan) : Kubectl := ⟨p.tools.kubectl, p.limits.command⟩

def kustomize (p : Plan) : Kustomize := ⟨p.tools.kustomize, p.limits.command⟩

def resultsPlace (p : Plan) : ResultsPlace := .ofPath? p.places.results

def onHost (p : Plan) : (r : Site.Request) → Program Host.interface (Site.Answer r)
  | .cluster c => p.kubectl.call c
  | .poll r limit => p.kubectl.poll r limit
  | .render part => (p.kustomize.render p part).run
  | .record key value => p.resultsPlace.record key value
  | .machine r => .perform (I := Host.interface) (.machine r)

def deploy (p : Plan) : Host.Action Summary :=
  ExceptT.mk ((Deployment.run p).run.interpret p.onHost)

end Rollout.Plan
