import Rollout.Proofs.Rehearsal.Disk
import Rollout.Proofs.Rehearsal.Frame
import Rollout.Proofs.Rehearsal.Performs
import Rollout.Transient

namespace Rollout.Rehearsal

open Program Site

variable {σ : Type} {h : Handler Site.interface σ} {disk : σ → Disk} {y : σ}

/-- The machine treats files as a disk does. A path to a file can be removed, and anything else is either removed or
stays. A file may fail to be written, in whole or in part, and whatever else is asked for may change files, but nothing
changes where relative paths begin. -/
structure KeepsFiles (h : Handler Site.interface σ) (disk : σ → Disk) : Prop where
  here : ∀ r x, (disk (h r x).2).here = (disk x).here
  log : ∀ e x, disk (h (.machine (.log e)) x).2 = disk x
  now : ∀ x, disk (h (.machine .now) x).2 = disk x
  hold : ∀ s x, disk (h (.machine (.hold s)) x).2 = disk x
  pause : ∀ d x, disk (h (.machine (.pause d)) x).2 = disk x
  drawId : ∀ x, disk (h (.machine .drawId) x).2 = disk x
  occupied : ∀ path x, (h (.machine (.occupied path)) x).1 = (disk x).occupied path
  looked : ∀ path x, disk (h (.machine (.occupied path)) x).2 = disk x
  removed : ∀ path x, (disk x).IsFile path →
    (disk x).remove path = .ok (disk (h (.machine (.remove path)) x).2)
  unremoved : ∀ path x, ¬(disk x).IsFile path → disk (h (.machine (.remove path)) x).2 = disk x ∨
    (disk x).remove path = .ok (disk (h (.machine (.remove path)) x).2)
  written : ∀ path text x, (h (.machine (.write path text)) x).1 = .ok () →
    (disk x).write path text = .ok (disk (h (.machine (.write path text)) x).2)
  unwritten : ∀ path text x c, (h (.machine (.write path text)) x).1 = .error c →
    disk (h (.machine (.write path text)) x).2 = disk x ∨
      ∃ part, (disk x).write path part = .ok (disk (h (.machine (.write path text)) x).2)

theorem Workstation.here_generate (w : Workstation) (paths : List String) :
    (w.generate paths).2.disk.here = w.disk.here := by
  rw [generate, work_eq]
  refine (?_ : Disk.Stays _) w.disk
  induction paths with
  | nil => exact .pure _
  | cons path paths ih => exact .bind (Disk.stays_plant path _) fun _ => ih

theorem Workstation.here_change {w : Workstation} {x : Except IoCause Disk}
    (h : ∀ d, x = .ok d → d.here = w.disk.here) : (w.change x).2.disk.here = w.disk.here := by
  cases x with
  | ok d => exact h d rfl
  | error c => rfl

theorem Workstation.here_answer (w : Workstation) (r : Machine.Request) : (answer r w).2.disk.here = w.disk.here := by
  cases r with
  | write path text => exact here_change fun _ => Disk.here_write
  | append path text => exact here_change fun _ => Disk.here_append
  | remove path => exact here_change fun _ hd => (Disk.below_of_remove hd).here.symm
  | pause d =>
      change (w.pass d).disk.here = _
      rw [pass]
  | _ => rfl

namespace MemoryCluster

theorem disk_answer {r : Request} (hmachine : ∀ m, r ≠ .machine m) (hrender : r ≠ .render .operator)
    (w : MemoryCluster) : (answer r w).2.station.disk = w.station.disk :=
  have ⟨_, hsame⟩ := sameBut_answer hmachine hrender w
  hsame.disk

theorem keepsFiles : KeepsFiles answer fun w => w.station.disk where
  here r w := by
    by_cases hmachine : ∃ m, r = .machine m
    · obtain ⟨m, rfl⟩ := hmachine
      exact w.station.here_answer m
    · by_cases hrender : r = .render .operator
      · subst hrender
        dsimp only
        rw [answer_operator]
        exact w.station.here_generate w.tlsFiles
      · exact congrArg Disk.here (disk_answer (not_exists.1 hmachine) hrender w)
  log e w := rfl
  now w := rfl
  hold s w := rfl
  pause d w := by rw [answer_pause, (sameBut_pass w d).disk]
  drawId w := rfl
  occupied path w := rfl
  looked path w := rfl
  removed path w hfile := by
    obtain ⟨d, hd⟩ := hfile.exists_remove
    change w.station.disk.remove path = .ok (w.station.change (w.station.disk.remove path)).2.disk
    rw [hd]
    rfl
  unremoved path w _ := by
    change (w.station.change (w.station.disk.remove path)).2.disk = w.station.disk ∨
      w.station.disk.remove path = .ok (w.station.change (w.station.disk.remove path)).2.disk
    cases hd : w.station.disk.remove path with
    | ok d => exact .inr rfl
    | error c => exact .inl rfl
  written path text w h := by
    change (w.station.change (w.station.disk.write path text)).1 = .ok () at h
    change w.station.disk.write path text = .ok (w.station.change (w.station.disk.write path text)).2.disk
    cases hd : w.station.disk.write path text with
    | ok d => rfl
    | error c =>
        rw [hd] at h
        cases h
  unwritten path text w c h := by
    change (w.station.change (w.station.disk.write path text)).1 = .error c at h
    refine .inl ?_
    change (w.station.change (w.station.disk.write path text)).2.disk = w.station.disk
    cases hd : w.station.disk.write path text with
    | error c => rfl
    | ok d =>
        rw [hd] at h
        cases h

end MemoryCluster

end Rollout.Rehearsal
