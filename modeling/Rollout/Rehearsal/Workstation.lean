import Rollout.Machine
import Rollout.Rehearsal.Disk

namespace Rollout.Rehearsal

/-- A machine whose time passes only when something waits. Its clock is in nanoseconds, and the latest log
entry comes first. -/
structure Workstation where
  clock : Nat
  disk : Disk
  journal : List LogEntry
  drawn : Nat

namespace Workstation

def start (disk : Disk) : Workstation := ⟨0, disk, [], 0⟩

def pass (w : Workstation) (d : Duration) : Workstation :=
  { w with clock := w.clock + d.timed.nanos }

def change (w : Workstation) : Except IoCause Disk → Except IoCause Unit × Workstation
  | .ok d => (.ok (), { w with disk := d })
  | .error c => (.error c, w)

def answer : Handler Machine.interface Workstation
  | .log e, w => ((), { w with journal := e :: w.journal })
  | .now, w => ((w.clock : Int), w)
  | .hold _, w => ((), w)
  | .pause d, w => ((), w.pass d)
  | .drawId, w => (⟨BitVec.ofNat 128 w.drawn⟩, { w with drawn := w.drawn + 1 })
  | .read path, w => (w.disk.read path, w)
  | .write path text, w => w.change (w.disk.write path text)
  | .append path text, w => w.change (w.disk.append path text)
  | .occupied path, w => (w.disk.occupied path, w)
  | .remove path, w => w.change (w.disk.remove path)

def breaksOff (latest : Nat) (w : Workstation) : Machine.Request → Bool
  | .hold (.deadline d) => latest < w.clock + d.nanos
  | r => r.isOverlong

def log (w : Workstation) : List LogEntry := w.journal.reverse

def work (w : Workstation) (a : Disk.Work Unit) : Except IoCause Unit × Workstation :=
  let (r, d) := a.run.run w.disk
  (r, { w with disk := d })

/-- Generates the files, with the folders on the way. Stops at the first that cannot be written. -/
def generate (w : Workstation) (paths : List String) : Except IoCause Unit × Workstation :=
  w.work (paths.forM fun path => Disk.plant path "generated")

end Workstation

end Rollout.Rehearsal
