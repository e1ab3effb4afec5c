import Rollout.Data.Json.Reader
import Rollout.Data.Json.Writer
import Rollout.Host
import Rollout.Site
import Rollout.Text.Search

namespace Rollout

structure Kubectl where
  binary : String
  limit : Duration
  deriving DecidableEq

namespace Kubectl

open Cluster

def operation : Call → String
  | .apply .. => "kubectl apply"
  | .namespaceExists _ => "kubectl get namespace"
  | .createNamespace _ => "kubectl create namespace"
  | .createSecret s => "kubectl create secret " ++ s.name
  | .delete r => "kubectl delete " ++ r.label
  | .present r | .get r _ => "kubectl get " ++ r.label
  | .describe r => "kubectl describe " ++ r.label
  | .await r c _ => "kubectl wait " ++ r.label ++ " (" ++ c.text ++ ")"
  | .pods selector _ => "kubectl get pods -l " ++ selector
  | .podPhase .. => "kubectl get pod phase"
  | .podAddress .. => "kubectl get pod ip"
  | .podLogs .. => "kubectl logs"
  | .events .. => "kubectl get events"
  | .podTable _ => "kubectl get pods"
  | .probe p => "kubectl run " ++ p.name

def statusPath (field : String) : String := "jsonpath=\x7b.status." ++ field ++ "\x7d"

def args : Call → List String
  | .apply _ none => ["apply", "-f", "-"]
  | .apply _ (some ns) => ["apply", "-f", "-", "-n", ns]
  | .namespaceExists n => ["get", "namespace", n, "-o", statusPath "phase"]
  | .createNamespace n => ["create", "namespace", n]
  | .createSecret _ => ["create", "-f", "-"]
  | .delete r => ["delete", r.kind.text, r.name, "-n", r.ns, "--ignore-not-found"]
  | .present r => ["get", r.kind.text, r.name, "-n", r.ns, "-o", "name"]
  | .describe r => ["describe", r.kind.text, r.name, "-n", r.ns]
  | .get r f => ["get", r.kind.text, r.name, "-n", r.ns, "-o", f.text]
  | .await r c limit =>
    ["wait", "--for=condition=" ++ c.text, r.label, "--timeout=" ++ toString limit.secs ++ "s", "-n",
      r.ns]
  | .pods selector ns =>
    ["get", "pods", "-n", ns, "-o", "json"] ++ if selector = "" then [] else ["-l", selector]
  | .podPhase pod ns => ["get", "pod", pod, "-n", ns, "-o", statusPath "phase"]
  | .podAddress pod ns => ["get", "pod", pod, "-n", ns, "-o", statusPath "podIP"]
  | .podLogs pod ns tail => ["logs", pod, "-n", ns, "--tail=" ++ toString tail]
  | .events object ns =>
    ["get", "events", "--field-selector", "involvedObject.name=" ++ object, "-n", ns,
      "--sort-by=.lastTimestamp"]
  | .podTable ns => ["get", "pods", "-n", ns, "-o", "wide"]
  | .probe p =>
    ["run", p.name, "--rm", "-i", "--restart=Never", "--image=" ++ p.image, "-n", p.ns, "--"] ++ p.words

def secretManifest (s : Secret) : Data :=
  .fields
    [("apiVersion", .text "v1"), ("kind", .text "Secret"),
      ("metadata", .fields [("name", .text s.name), ("namespace", .text s.ns)]),
      ("stringData", .fields (s.data.map fun e => (e.1, .text e.2))), ("type", .text "Opaque")]

/-- What a call reads from its input. Secrets are passed there and nowhere else. -/
def input : Call → Option String
  | .apply manifest _ => some manifest
  | .createSecret s => some (Data.Json.write (secretManifest s))
  | _ => none

/-- What a process that waits for a condition is given beyond the time limit of the wait. -/
def grace : Duration := .ofSecs 30

def limitOf (k : Kubectl) : Call → Duration
  | .await _ _ limit => limit.add grace
  | .probe p => p.limit
  | _ => k.limit

def command (k : Kubectl) (c : Call) : Command :=
  ⟨k.binary, args c, input c, none, k.limitOf c⟩

def isNotFound (stderr : String) : Bool :=
  Text.contains stderr "NotFound" || Text.contains stderr "not found"

/-- The names in a list of pods. What has none is passed over. -/
def podNames (d : Data) : List String :=
  (((d.field? "items").bind Data.items?).getD []).filterMap fun item =>
    ((item.field? "metadata").bind (Data.field? "name")).bind Data.text?

def bare (s : String) : String :=
  String.ofList (Text.strip Phase.isQuote (Text.trim s.toList))

/-- Everything that a probe has written. A probe that fails tells something by that. -/
def probeText (o : Command.Output) : String :=
  let text :=
    if Text.isVoid o.stderr then o.stdout
    else if o.stdout = "" ∨ o.stdout.toList.getLast? = some '\n' then o.stdout ++ o.stderr
    else o.stdout ++ "\n" ++ o.stderr
  if o.isSuccess then text else text ++ "\n(exit code " ++ toString o.exitCode ++ ")"

def checked (c : Call) (o : Command.Output) : Except Failure String :=
  if o.isSuccess then .ok o.stdout else .error (o.failure (operation c))

def looked (c : Call) (o : Command.Output) : Except Failure (Option String) :=
  if o.isSuccess then .ok (some o.stdout)
  else if isNotFound o.stderr then .ok none
  else .error (o.failure (operation c))

def understand : (c : Call) → Command.Output → Except Failure c.Answer
  | c@(.namespaceExists _), o =>
    (looked c o).map fun phase => match phase with
      | some s => String.ofList (Text.trim s.toList) == "Active"
      | none => false
  | c@(.present _), o => (looked c o).map Option.isSome
  | .probe _, o => .ok (probeText o)
  | c@(.pods ..), o => (checked c o).bind fun s => match Data.Json.read? s with
    | some d => .ok (podNames d)
    | none => .error (.operation (operation c) .zero "<invalid JSON>")
  | c@(.podPhase ..), o => (checked c o).map Phase.read
  | c@(.podAddress ..), o => (checked c o).map fun s => if bare s = "" then none else some (bare s)
  | c@(.describe _), o | c@(.get ..), o | c@(.podLogs ..), o | c@(.events ..), o
  | c@(.podTable _), o => checked c o
  | c@(.apply ..), o | c@(.createNamespace _), o | c@(.createSecret _), o | c@(.delete _), o
  | c@(.await ..), o => (checked c o).map fun _ => ()

def settle (limit : Duration) (c : Call) (r : Command.Ran) : Except Failure c.Answer :=
  match r.output limit with
  | .ok o => understand c o
  | .error f => .error (f.toFailure (operation c) r.took)

def holdLimit (k : Kubectl) : Call → Program Host.interface Unit
  | c@(.await ..) => Machine.hold (.length (k.limitOf c))
  | _ => pure ()

def call (k : Kubectl) (c : Call) : Program Host.interface (Reply c.Answer) := do
  k.holdLimit c
  let ran ← Host.runLogged (k.command c)
  return ⟨ran.took, settle (k.limitOf c) c ran⟩

/-- A query that is given up after a while, if the time limit of a call is not over before. -/
def poll (k : Kubectl) (r : Resource) (limit : Duration) : Program Host.interface Poll := do
  if k.limit.nanos ≤ limit.nanos then
    let reply ← k.call (.present r)
    return .answered reply.took reply.outcome
  else
    let ran ← Host.run { k.command (.present r) with limit := limit }
    match ran.ending with
    | .overran => return .unanswered
    | _ => return .answered ran.took (settle k.limit (.present r) ran)

end Kubectl

end Rollout
