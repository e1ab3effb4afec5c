import Rollout.Host
import Rollout.Rehearsal.Script
import Rollout.Rehearsal.Shell
import Rollout.Rehearsal.Workstation

namespace Rollout.Rehearsal

structure Performance where
  creates : List String
  stdout : List UInt8
  stderr : List UInt8
  hangs : Bool
  status : Command.Status

structure Started where
  tool : String
  args : List String
  input : String
  folder : String
  deriving DecidableEq

/-- A machine on which a few programs are there and act from a script. The last command started comes
first, and `scriptPlace` is where the scripted shell script is, if there is one. -/
structure Commands where
  station : Workstation
  script : Script Performance
  started : List Started
  scriptPlace : Option (List String)

namespace Commands

def standIns : List String := ["kubectl", "kustomize", "tool"]

def silent : Performance := ⟨[], [], [], false, .ofCode 0⟩

def nulFault : IoCause := .invalidInput "nul byte found in provided data"

def hasNul (s : String) : Bool := s.toList.contains '\x00'

def folderOf (w : Commands) (c : Command) : Except IoCause (List String) :=
  match c.folder with
  | none => .ok w.station.disk.here
  | some path => match w.station.disk.find path with
    | .ok (.folder place) => .ok place
    | .ok (.file ..) => .error .notDirectory
    | .error e => .error e

/-- What starts under a name: a stand-in, the shell, a program of the system that does nothing but end, or
nothing. Files are not programs, and nor are folders. -/
inductive Found
  | standIn
  | shell
  | system (code : Int)
  | missing (cause : IoCause)

def lookup (w : Commands) (folder : List String) (name : String) : Found :=
  if name.toList.contains '/' then
    match { w.station.disk with here := folder }.find name with
    | .ok _ => .missing .permissionDenied
    | .error e => .missing e
  else if Disk.isDots name then .missing .permissionDenied
  else if Disk.nameLimit < name.utf8ByteSize then .missing .nameTooLong
  else if standIns.contains name then .standIn
  else if name = "sh" then .shell
  else if name = "true" then .system 0
  else if name = "false" then .system 1
  else .missing .notFound

/-- A folder as seen from another one: a point for the same one. -/
def seenFrom (base place : List String) : String :=
  if base = place then "."
  else if base.isPrefixOf place then "/".intercalate (place.drop base.length)
  else "/" ++ "/".intercalate place

def ran (w : Commands) (took : Duration) (ending : Command.Ending) : Command.Ran × Commands :=
  (⟨took, ending⟩, { w with station := w.station.pass took })

def act (w : Commands) (c : Command) (folder : List String) : Command.Ran × Commands :=
  let words := c.program ++ " " ++ " ".intercalate c.args
  let (found, script) := w.script.choose words
  let p := found.getD silent
  let started : Started :=
    ⟨c.program, c.args, c.input.getD "", seenFrom w.station.disk.here folder⟩
  let station := (w.station.generate p.creates).2
  let w := { w with script := script, started := started :: w.started, station := station }
  if p.hangs then w.ran c.limit .overran else w.ran .zero (.ended p.status p.stdout p.stderr)

/-- The shell runs the scripted shell script. Any other file has nothing for it to do, and nor has a folder. -/
def shell (w : Commands) (c : Command) (folder : List String) : Command.Ran × Commands :=
  let fail (text : List UInt8) := w.ran .zero (.ended (.ofCode 2) [] text)
  match Shell.badOption? c.args, c.args with
  | some text, _ => fail (Shell.illegalOption text)
  | none, [] => w.ran .zero (.ended (.ofCode 0) [] [])
  | none, path :: _ => match { w.station.disk with here := folder }.find path with
    | .ok found =>
      if some found.place = w.scriptPlace then w.act c folder
      else w.ran .zero (.ended (.ofCode 0) [] [])
    | .error e => fail (Shell.cannotOpen path e)

def run (w : Commands) (c : Command) : Command.Ran × Commands :=
  if hasNul c.program || c.args.any hasNul || (c.folder.map hasNul).getD false then
    w.ran .zero (.unstarted nulFault)
  else match w.folderOf c with
    | .error e => w.ran .zero (.unstarted e)
    | .ok folder => match w.lookup folder c.program with
      | .standIn => w.act c folder
      | .shell => w.shell c folder
      | .system code => w.ran .zero (.ended (.ofCode code) [] [])
      | .missing e => w.ran .zero (.unstarted e)

def answer : Handler Host.interface Commands
  | .run c, w => w.run c
  | .machine r, w =>
    let (a, station) := Workstation.answer r w.station
    (a, { w with station := station })

end Commands

end Rollout.Rehearsal
