import Rollout.Diagnosis.Evidence
import Rollout.Proofs.Diagnosis.Lookups
import Rollout.Proofs.Transcript
import Rollout.Tools.Kubectl

namespace Rollout

namespace Command.Output

def linesToRead (s : String) : List String := (Text.linesOf s).filter fun l => !Text.isVoid l

/-- The message that an unsuccessful command leaves: its exit code, and the end of what it wrote, of at most five
lines that are not blank. Errors are looked for first where they should be. -/
def Explains (o : Output) (message : String) : Prop :=
  ∃ source ls, (source = if Text.isVoid o.stderr then o.stdout else o.stderr) ∧
    ls <:+ linesToRead source ∧ ls.length = min 5 (linesToRead source).length ∧
    message = "exit code " ++ toString o.exitCode ++ if ls = [] then "" else ": " ++ "\n".intercalate ls

end Command.Output

namespace Kubectl

open Cluster Command Program

inductive Bounds (k : Kubectl) : Call → Duration → Prop
  | await (r : Resource) (c : Condition) (limit : Duration) : Bounds k (.await r c limit) (limit.add (.ofSecs 30))
  | probe (p : Probe) : Bounds k (.probe p) p.limit
  | other {c : Call} (hawait : ∀ r condition limit, c ≠ .await r condition limit) (hprobe : ∀ p, c ≠ .probe p) :
    Bounds k c k.limit

def IsLookup : Call → Prop
  | .namespaceExists _ | .present _ => True
  | _ => False

def SaysNotFound (stderr : String) : Prop :=
  "NotFound".toList <:+: stderr.toList ∨ "not found".toList <:+: stderr.toList

def Accepts (o : Output) : (c : Call) → c.Answer → Prop
  | .apply .., _ | .createNamespace _, _ | .createSecret _, _ | .delete _, _ | .await .., _ => True
  | .namespaceExists _, active => active = true ↔ Text.trim o.stdout.toList = "Active".toList
  | .present _, there => there = true
  | .describe _, s | .get .., s | .podLogs .., s | .events .., s | .podTable _, s => s = o.stdout
  | .pods .., names => ∃ d, Data.Json.read? o.stdout = some d ∧ names = podNames d
  | .podPhase .., phase => phase = Phase.read o.stdout
  | .podAddress .., address => address.getD "" = bare o.stdout ∧ address ≠ some ""
  | .probe _, s => o.stdout.toList <+: s.toList ∧ (Text.isVoid o.stderr = false → o.stderr.toList <:+: s.toList) ∧
      (Text.isVoid o.stderr = true → s = o.stdout)

/-- What a probe answers after any other exit. -/
structure Reports (o : Output) (s : String) : Prop where
  stdout : o.stdout.toList <+: s.toList
  stderr : Text.isVoid o.stderr = false → o.stderr.toList <:+: s.toList
  code : ("(exit code " ++ toString o.exitCode ++ ")").toList <:+ s.toList
  collected : Diagnosis.Evidence.ofText s = .collected s

/-- How a call comes out when its process has ended. -/
inductive Understands (o : Output) : (c : Call) → Except Failure c.Answer → Prop
  | accepted {c : Call} {x : c.Answer} (hexit : o.status.raw = 0) (h : Accepts o c x) : Understands o c (.ok x)
  | unreadable {selector ns : String} (hexit : o.status.raw = 0) (h : Data.Json.read? o.stdout = none) :
    Understands o (.pods selector ns) (.error (.operation (operation (.pods selector ns)) .zero "<invalid JSON>"))
  | noNamespace {name : String} (hexit : o.status.raw ≠ 0) (h : SaysNotFound o.stderr) :
    Understands o (.namespaceExists name) (.ok false)
  | absent {r : Resource} (hexit : o.status.raw ≠ 0) (h : SaysNotFound o.stderr) :
    Understands o (.present r) (.ok false)
  | reported {p : Probe} {s : String} (hexit : o.status.raw ≠ 0) (h : Reports o s) : Understands o (.probe p) (.ok s)
  | refused {c : Call} {message : String} (hexit : o.status.raw ≠ 0) (hprobe : ∀ p, c ≠ .probe p)
    (hfound : IsLookup c → ¬SaysNotFound o.stderr) (h : o.Explains message) :
    Understands o c (.error (.operation (operation c) o.took message))

/-- How a call comes out, from what became of its process. -/
inductive Settles (k : Kubectl) (c : Call) : Ran → Except Failure c.Answer → Prop
  | overran {took bound : Duration} (h : Bounds k c bound) :
    Settles k c ⟨took, .overran⟩ (.error (.timeout (operation c) bound took))
  | unstarted (took : Duration) (cause : IoCause) :
    Settles k c ⟨took, .unstarted cause⟩
      (.error (.operation (operation c) took ("Failed to spawn command: " ++ cause.message)))
  | lost (took : Duration) (cause : IoCause) :
    Settles k c ⟨took, .lost cause⟩
      (.error (.operation (operation c) took ("Failed to wait for command: " ++ cause.message)))
  | ended {took : Duration} {status : Status} {stdout stderr : List UInt8} {x : Except Failure c.Answer}
    (h : Understands ⟨status, Text.Utf8.decode stdout, Text.Utf8.decode stderr, took⟩ c x) :
    Settles k c ⟨took, .ended status stdout stderr⟩ x

end Kubectl

namespace Command.Output

end Command.Output

namespace Host

open Program

end Host

namespace Kubectl

open Cluster Command Program

variable {o : Output} {k : Kubectl} {c : Call}

theorem Understands.failure {e : Failure} (h : Understands o c (.error e)) :
    e.isOperation = true ∧ e.operationName? = some (operation c) ∧ e.isTimeout = false := by
  cases h with
  | unreadable => exact ⟨rfl, rfl, rfl⟩
  | refused => exact ⟨rfl, rfl, rfl⟩

theorem Settles.failure {ran : Ran} {e : Failure} (h : Settles k c ran (.error e)) :
    e.isOperation = true ∧ e.operationName? = some (operation c) := by
  cases h with
  | overran => exact ⟨rfl, rfl⟩
  | unstarted => exact ⟨rfl, rfl⟩
  | lost => exact ⟨rfl, rfl⟩
  | ended h => exact ⟨h.failure.1, h.failure.2.1⟩

end Kubectl

end Rollout
