import Rollout.Data
import Rollout.Plan
import Rollout.Rehearsal.Script
import Rollout.Rehearsal.Workstation
import Rollout.Results
import Rollout.Site

namespace Rollout.Rehearsal

open Cluster

/-- What an entry of the script has a call come to: after a delay, the usual, a value or a failure. -/
structure Scripted where
  delay : Duration
  outcome : Option (Except Failure Data)

/-- A cluster and a source of manifests that answer from a script and keep account of what was asked. Lists
have the latest first. -/
structure ScriptedCluster where
  station : Workstation
  script : Script Scripted
  calls : List String
  applied : List String
  created : List Secret
  ledger : Ledger
  results : Option String
  tlsFiles : List String

namespace ScriptedCluster

def start (disk : Disk) (script : Script Scripted) : ScriptedCluster where
  station := .start disk
  script := script
  calls := []
  applied := []
  created := []
  ledger := []
  results := none
  tlsFiles := []

def inNamespace (ns : String) : String := " -n " ++ ns

def millisText (d : Duration) : String := toString d.millis ++ "ms"

/-- A call as it is written down and as the script has it. -/
def callText : Call → String
  | .apply _ none => "apply"
  | .apply _ (some ns) => "apply" ++ inNamespace ns
  | .namespaceExists n => "namespace_exists " ++ n
  | .createNamespace n => "create_namespace " ++ n
  | .createSecret s => "create_secret " ++ s.name ++ inNamespace s.ns
  | .delete r => "delete " ++ r.text
  | .present r => "exists " ++ r.text
  | .describe r => "describe " ++ r.text
  | .get r f => "get " ++ r.text ++ " -o " ++ f.text
  | .await r c limit => "wait " ++ r.text ++ " " ++ c.text ++ " " ++ millisText limit
  | .pods selector ns => "pods" ++ inNamespace ns ++ " [" ++ selector ++ "]"
  | .podPhase pod ns => "phase " ++ pod ++ inNamespace ns
  | .podAddress pod ns => "pod_ip " ++ pod ++ inNamespace ns
  | .podLogs pod ns tail => "logs " ++ pod ++ inNamespace ns ++ " " ++ toString tail
  | .events object ns => "events " ++ object ++ inNamespace ns
  | .podTable ns => "list_pods" ++ inNamespace ns
  | .probe p =>
    "run_probe " ++ p.name ++ " " ++ p.image ++ inNamespace p.ns ++ " " ++ millisText p.limit ++
      " -- " ++ " ".intercalate p.words

def textOf (d : Data) : String := d.text?.getD ""

def isTrue : Data → Bool
  | .flag true => true
  | _ => false

def answerOf (d : Data) : (c : Call) → c.Answer
  | .apply .. | .createNamespace _ | .createSecret _ | .delete _ | .await .. => ()
  | .namespaceExists _ | .present _ => isTrue d
  | .describe _ | .get .. | .podLogs .. | .events .. | .podTable _ | .probe _ => textOf d
  | .pods .. => (d.items?.getD []).filterMap Data.text?
  | .podPhase .. => .read (textOf d)
  | .podAddress .. => d.text?

def usualAnswer : (c : Call) → c.Answer
  | .apply .. | .createNamespace _ | .createSecret _ | .delete _ | .await .. => ()
  | .namespaceExists _ => false
  | .present _ => true
  | .describe r => "Name: " ++ r.name
  | .get r f => r.label ++ " " ++ f.text
  | .pods .. => []
  | .podPhase .. => .running
  | .podAddress .. => some "10.244.0.7"
  | .podLogs pod .. => "log line from " ++ pod
  | .events object _ => "Warning FailedScheduling " ++ object
  | .podTable _ => "NAME READY STATUS"
  | .probe _ => "probe ok"

def consult (w : ScriptedCluster) (text : String) : Scripted × ScriptedCluster :=
  let (found, script) := w.script.choose text
  (found.getD ⟨.zero, none⟩, { w with script := script, calls := text :: w.calls })

def pass (w : ScriptedCluster) (d : Duration) : ScriptedCluster :=
  { w with station := w.station.pass d }

def keep (w : ScriptedCluster) : Call → ScriptedCluster
  | .apply manifest _ => { w with applied := manifest :: w.applied }
  | .createSecret s => { w with created := s :: w.created }
  | _ => w

def settle (c : Call) : Option (Except Failure Data) → Except Failure c.Answer
  | some (.ok d) => .ok (answerOf d c)
  | some (.error e) => .error e
  | none => .ok (usualAnswer c)

def answerCall (w : ScriptedCluster) (c : Call) : Reply c.Answer × ScriptedCluster :=
  let (s, w) := (w.keep c).consult (callText c)
  (⟨s.delay.timed, settle c s.outcome⟩, w.pass s.delay)

def answerPoll (w : ScriptedCluster) (r : Resource) (limit : Duration) : Poll × ScriptedCluster :=
  let (s, w) := w.consult (callText (.present r))
  let outcome : Except Failure Bool := settle (.present r) s.outcome
  (.answered s.delay.timed outcome, w.pass (s.delay.shorter limit))

def partText : Part → String
  | .database => "database"
  | .objectStore => "object_store"
  | .operator => "operator"

def renderPart (w : ScriptedCluster) (part : Part) : Except Failure String × ScriptedCluster :=
  let (s, w) := w.consult ("manifest " ++ partText part)
  let outcome := match s.outcome with
    | some (.ok d) => .ok (textOf d)
    | some (.error e) => .error e
    | none => .ok ("kind: " ++ partText part ++ "\n")
  (outcome, w.pass s.delay)

def answerRender (w : ScriptedCluster) : Part → Except Failure String × ScriptedCluster
  | .operator => match w.station.generate w.tlsFiles with
    | (.ok _, station) => renderPart { w with station := station } .operator
    | (.error c, station) => (.error (.io c), { w with station := station })
  | part => renderPart w part

def onStation {α : Type} (w : ScriptedCluster) (r : α × Workstation) : α × ScriptedCluster :=
  (r.1, { w with station := r.2 })

def answerRecord (w : ScriptedCluster) (key value : String) :
    Except Failure Unit × ScriptedCluster :=
  match w.results with
  | none => (.ok (), { w with ledger := w.ledger.record key value })
  | some path =>
    w.onStation ((ResultsPlace.record (.file path) key value).run Workstation.answer w.station)

def answer : Handler Site.interface ScriptedCluster
  | .cluster c, w => w.answerCall c
  | .poll r limit, w => w.answerPoll r limit
  | .render part, w => w.answerRender part
  | .record key value, w => w.answerRecord key value
  | .machine r, w => w.onStation (Workstation.answer r w.station)

end ScriptedCluster

end Rollout.Rehearsal
