import Rollout.Proofs.Host.Secrecy
import Rollout.Proofs.Rehearsal.Frame
import Rollout.Rehearsal.Commands

namespace Rollout.Rehearsal

open Cluster Program

namespace Workstation

def withJournal (w : Workstation) (journal : List LogEntry) : Workstation := { w with journal := journal }

/-- Nothing but the log itself depends on what was logged before. -/
theorem answer_withJournal (w : Workstation) (journal : List LogEntry) {r : Machine.Request}
    (h : ∀ e, r ≠ .log e) :
    answer r (w.withJournal journal) = ((answer r w).1, (answer r w).2.withJournal journal) := by
  have hchange (d : Except IoCause Disk) :
      (w.withJournal journal).change d = ((w.change d).1, (w.change d).2.withJournal journal) := by
    cases d with
    | ok d => rfl
    | error c => rfl
  cases r with
  | log e => exact absurd rfl (h e)
  | write path text => exact hchange _
  | append path text => exact hchange _
  | remove path => exact hchange _
  | _ => rfl

theorem generate_withJournal (w : Workstation) (journal : List LogEntry) (paths : List String) :
    (w.withJournal journal).generate paths = ((w.generate paths).1, (w.generate paths).2.withJournal journal) := by
  rw [generate, generate, work_eq, work_eq]
  rfl

/-- Two machines that differ in nothing but the log, and there as two runs may. -/
structure Alike (w v : Workstation) : Prop where
  journal : List.Forall₂ LogEntry.Alike w.journal v.journal
  rest : v = w.withJournal v.journal

variable {w v : Workstation}

theorem Alike.refl (w : Workstation) : w.Alike w := ⟨List.forall₂_same.2 fun e _ => .same e, rfl⟩

theorem alike_withJournal {journal : List LogEntry} (h : List.Forall₂ LogEntry.Alike w.journal journal) :
    w.Alike (w.withJournal journal) := ⟨h, rfl⟩

theorem Alike.disk_eq (h : w.Alike v) : v.disk = w.disk := by rw [h.rest, withJournal]

theorem Alike.pass (h : w.Alike v) (d : Duration) : (w.pass d).Alike (v.pass d) := by
  rw [h.rest]
  exact alike_withJournal ((w.journal_pass d).symm ▸ h.journal)

theorem Alike.generate (h : w.Alike v) (paths : List String) :
    (w.generate paths).1 = (v.generate paths).1 ∧ (w.generate paths).2.Alike (v.generate paths).2 := by
  rw [h.rest, generate_withJournal]
  exact ⟨rfl, alike_withJournal ((w.journal_generate paths).symm ▸ h.journal)⟩

theorem Alike.log (h : w.Alike v) {e e' : LogEntry} (he : e.Alike e') :
    (answer (.log e) w).2.Alike (answer (.log e') v).2 := by
  rw [h.rest]
  exact ⟨.cons he h.journal, rfl⟩

theorem Alike.answer (h : w.Alike v) (r : Machine.Request) :
    (answer r w).1 = (answer r v).1 ∧ (answer r w).2.Alike (answer r v).2 := by
  by_cases hlog : ∃ e, r = .log e
  · obtain ⟨e, rfl⟩ := hlog
    exact ⟨rfl, h.log (.same e)⟩
  · have hlog' (e : LogEntry) : r ≠ .log e := fun he => hlog ⟨e, he⟩
    rw [h.rest, answer_withJournal w _ hlog']
    exact ⟨rfl, alike_withJournal ((w.journal_answer hlog').symm ▸ h.journal)⟩

theorem Alike.respects (h : w.Alike v) {r r' : Machine.Request} {x : Machine.Answer r} {x' : Machine.Answer r'}
    (hx : Machine.Event.Alike ⟨r, x⟩ ⟨r', x'⟩) :
    Machine.Event.Alike ⟨r, (Workstation.answer r w).1⟩ ⟨r', (Workstation.answer r' v).1⟩ ∧
      (Workstation.answer r w).2.Alike (Workstation.answer r' v).2 := by
  cases hx with
  | logged he => exact ⟨.logged he, h.log he⟩
  | same =>
      obtain ⟨hanswer, hstate⟩ := h.answer r
      exact ⟨hanswer ▸ .same _, hstate⟩
  | now => exact ⟨.now _ _, (h.answer .now).2⟩
  | drawn => exact ⟨.drawn _ _, (h.answer .drawId).2⟩

end Workstation

namespace MemoryCluster

def disguised (w : MemoryCluster) (secrets : Sorted Secret) (journal : List LogEntry) : MemoryCluster :=
  { w with secrets := secrets, station := w.station.withJournal journal }

theorem answer_disguised (w : MemoryCluster) (secrets : Sorted Secret) (journal : List LogEntry)
    {r : Site.Request} (hspares : r.sparesSecrets = true) (hmachine : ∀ m, r ≠ .machine m) :
    answer r (w.disguised secrets journal) = ((answer r w).1, (answer r w).2.disguised secrets journal) := by
  cases r with
  | cluster c =>
      cases c with
      | createSecret s => cases hspares
      | delete r =>
          have heffect (w : MemoryCluster) : answer (.cluster (.delete r)) w =
              (⟨.zero, .ok ()⟩, w.record (callText (.delete r))) :=
            congrArg (Prod.mk _) (if_neg (bne_iff_ne.1 hspares))
          rw [heffect, heffect]
          rfl
      | apply manifest ns =>
          simp only [answer, answerCall, effect, apply_ite (disguised · secrets journal)]
          rfl
      | createNamespace n =>
          simp only [answer, answerCall, effect, apply_ite (disguised · secrets journal)]
          rfl
      | _ => rfl
  | poll r limit => rfl
  | render part =>
      cases part with
      | operator =>
          have hgenerate : (w.disguised secrets journal).station.generate (w.disguised secrets journal).tlsFiles = _ :=
            w.station.generate_withJournal journal w.tlsFiles
          rw [answer_operator, answer_operator, operatorOutcome, hgenerate]
          rfl
      | _ => rfl
  | record key value => rfl
  | machine m => exact absurd rfl (hmachine m)

/-- Two clusters that differ in nothing but the values of secrets, and in the log as two runs may. -/
structure Alike (w v : MemoryCluster) : Prop where
  secrets : Sorted.Rel Secret.Alike w.secrets v.secrets
  station : w.station.Alike v.station
  rest : v = { w with secrets := v.secrets, station := v.station }

variable {w v : MemoryCluster}

theorem Alike.refl (w : MemoryCluster) : w.Alike w :=
  ⟨List.forall₂_same.2 fun e _ => ⟨rfl, .refl e.2⟩, .refl _, rfl⟩

theorem alike_disguised {secrets : Sorted Secret} {journal : List LogEntry}
    (hsecrets : Sorted.Rel Secret.Alike w.secrets secrets)
    (hjournal : List.Forall₂ LogEntry.Alike w.station.journal journal) : w.Alike (w.disguised secrets journal) :=
  ⟨hsecrets, Workstation.alike_withJournal hjournal, rfl⟩

theorem Alike.eq_disguised (h : w.Alike v) : v = w.disguised v.secrets v.station.journal :=
  h.rest.trans (congrArg (fun s => ({ w with secrets := v.secrets, station := s } : MemoryCluster)) h.station.rest)

theorem Alike.createSecret (h : w.Alike v) {s s' : Secret} (hs : s.Alike s') :
    Site.Event.Alike ⟨.cluster (.createSecret s), (answer (.cluster (.createSecret s)) w).1⟩
        ⟨.cluster (.createSecret s'), (answer (.cluster (.createSecret s')) v).1⟩ ∧
      (answer (.cluster (.createSecret s)) w).2.Alike (answer (.cluster (.createSecret s')) v).2 := by
  have htaken : (v.secrets.get? s'.name).isSome = (w.secrets.get? s.name).isSome := by
    rw [h.secrets.isSome_get?, hs.name]
  have hcall : callText (.createSecret s) = callText (.createSecret s') :=
    congrArg ("create_secret " ++ ·) hs.name
  rw [h.eq_disguised] at htaken ⊢
  cases hw : (w.secrets.get? s.name).isSome with
  | true =>
      have hfailure : alreadyExists s = alreadyExists s' := by rw [alreadyExists, alreadyExists, hs.name]
      rw [answer_createSecret_of_isSome w hw, answer_createSecret_of_isSome _ (htaken.trans hw), hfailure, hcall]
      exact ⟨.created hs _, alike_disguised h.secrets h.station.journal⟩
  | false =>
      rw [answer_createSecret_of_isSome_eq_false w hw,
        answer_createSecret_of_isSome_eq_false _ (htaken.trans hw), hcall]
      exact ⟨.created hs _, alike_disguised (hs.name ▸ h.secrets.insert s.name hs) h.station.journal⟩

theorem Alike.machine (h : w.Alike v) {r r' : Machine.Request} {x : Machine.Answer r} {x' : Machine.Answer r'}
    (hx : Machine.Event.Alike ⟨r, x⟩ ⟨r', x'⟩) :
    Site.Event.Alike ⟨.machine r, (answer (.machine r) w).1⟩ ⟨.machine r', (answer (.machine r') v).1⟩ ∧
      (answer (.machine r) w).2.Alike (answer (.machine r') v).2 := by
  obtain ⟨hanswer, hstation⟩ := h.station.respects hx
  refine ⟨.machine hanswer, h.secrets, hstation, ?_⟩
  exact congrArg (fun u : MemoryCluster => { u with station := (Workstation.answer r' v.station).2 }) h.rest

theorem Alike.answer (h : w.Alike v) (r : Site.Request) :
    Site.Event.Alike ⟨r, (answer r w).1⟩ ⟨r, (answer r v).1⟩ ∧ (answer r w).2.Alike (answer r v).2 := by
  by_cases hmachine : ∃ m, r = .machine m
  · obtain ⟨m, rfl⟩ := hmachine
    exact h.machine (.same ⟨m, (Workstation.answer m w.station).1⟩)
  cases hspares : r.sparesSecrets with
  | false =>
      rcases Site.Request.of_sparesSecrets_eq_false hspares with ⟨s, rfl⟩ | ⟨x, hx, rfl⟩
      · exact h.createSecret (.refl s)
      · rw [h.eq_disguised, answer_delete_secret _ hx, answer_delete_secret _ hx]
        exact ⟨.same _, alike_disguised (h.secrets.filter (· != x.name)) h.station.journal⟩
  | true =>
      have hsecrets := secrets_answer w hspares
      have hjournal := journal_answer w fun e he => hmachine ⟨_, he⟩
      rw [h.eq_disguised, answer_disguised w _ _ hspares fun m hm => hmachine ⟨m, hm⟩]
      exact ⟨.same _, alike_disguised (hsecrets ▸ h.secrets) (hjournal ▸ h.station.journal)⟩

def sideBySide : Worlds Site.interface MemoryCluster MemoryCluster := ⟨answer, answer, Alike⟩

theorem respects : sideBySide.Respects Site.Event.Alike := by
  intro r r' x x' hx w v h
  cases hx with
  | same => exact Alike.answer h r
  | created hs => exact Alike.createSecret h hs
  | machine hx => exact Alike.machine h hx

end MemoryCluster

/-- Two commands that were started alike, what they read apart where they create something from it. -/
inductive Started.Alike : Started → Started → Prop
  | same (s : Started) : Alike s s
  | created (s : Started) (input : String) (h : s.args = ["create", "-f", "-"]) : Alike s { s with input := input }

namespace Commands

/-- Two machines that differ in nothing but what commands have read that create something from it, and in the
log as two runs may. -/
structure Alike (w v : Commands) : Prop where
  started : List.Forall₂ Started.Alike w.started v.started
  station : w.station.Alike v.station
  rest : v = { w with started := v.started, station := v.station }

def withStation (w : Commands) (station : Workstation) : Commands := { w with station := station }

variable {w v : Commands}

theorem Alike.refl (w : Commands) : w.Alike w := ⟨List.forall₂_same.2 fun e _ => .same e, .refl _, rfl⟩

theorem Alike.withStation (h : w.Alike v) {station station' : Workstation} (hstation : station.Alike station') :
    (w.withStation station).Alike (v.withStation station') :=
  ⟨h.started, hstation, congrArg (Commands.withStation · station') h.rest⟩

theorem ran_eq (w : Commands) (took : Duration) (ending : Command.Ending) :
    w.ran took ending = (⟨took, ending⟩, w.withStation (w.station.pass took)) := rfl

theorem Alike.ran (h : w.Alike v) (took : Duration) (ending : Command.Ending) :
    (w.ran took ending).1 = (v.ran took ending).1 ∧ (w.ran took ending).2.Alike (v.ran took ending).2 := by
  rw [ran_eq, ran_eq]
  exact ⟨rfl, h.withStation (h.station.pass took)⟩

/-- A command of which another run reads something else, if it creates something from it. -/
inductive Rereads : Command → Command → Prop
  | same (c : Command) : Rereads c c
  | created (c : Command) (input : Option String) (h : c.args = ["create", "-f", "-"]) :
      Rereads c { c with input := input }

theorem Alike.act (h : w.Alike v) {c c' : Command} (hc : Rereads c c') (folder : List String) :
    (w.act c folder).1 = (v.act c' folder).1 ∧ (w.act c folder).2.Alike (v.act c' folder).2 := by
  have hscript : v.script = w.script := by rw [h.rest]
  have hdisk := h.station.disk_eq
  have hlimit : c'.limit = c.limit := by
    cases hc with
    | _ => rfl
  have hwords : c'.program ++ " " ++ " ".intercalate c'.args = c.program ++ " " ++ " ".intercalate c.args := by
    cases hc with
    | _ => rfl
  have hstarted (here : List String) : Started.Alike ⟨c.program, c.args, c.input.getD "", seenFrom here folder⟩
      ⟨c'.program, c'.args, c'.input.getD "", seenFrom here folder⟩ := by
    cases hc with
    | same => exact .same _
    | created input hargs => exact .created _ _ hargs
  have hnext (p : Performance) (script : Script Performance) (here : List String) :
      Alike
        { w with
          script := script
          started := ⟨c.program, c.args, c.input.getD "", seenFrom here folder⟩ :: w.started
          station := (w.station.generate p.creates).2 }
        { v with
          script := script
          started := ⟨c'.program, c'.args, c'.input.getD "", seenFrom here folder⟩ :: v.started
          station := (v.station.generate p.creates).2 } :=
    ⟨.cons (hstarted here) h.started, (h.station.generate _).2,
      congrArg (fun u : Commands => { u with
        script := script
        started := ⟨c'.program, c'.args, c'.input.getD "", seenFrom here folder⟩ :: v.started
        station := (v.station.generate p.creates).2 }) h.rest⟩
  unfold Commands.act
  rw [hscript, hdisk, hlimit, hwords]
  dsimp only
  split
  · exact (hnext ..).ran ..
  · exact (hnext ..).ran ..

theorem Alike.shell (h : w.Alike v) {c c' : Command} (hc : Rereads c c') (folder : List String) :
    (w.shell c folder).1 = (v.shell c' folder).1 ∧ (w.shell c folder).2.Alike (v.shell c' folder).2 := by
  have hdisk := h.station.disk_eq
  have hplace : v.scriptPlace = w.scriptPlace := by rw [h.rest]
  have hargs : c'.args = c.args := by
    cases hc with
    | _ => rfl
  unfold Commands.shell
  rw [hdisk, hplace, hargs]
  dsimp only
  split
  · exact h.ran ..
  · exact h.ran ..
  · split
    · split
      · exact h.act hc folder
      · exact h.ran ..
    · exact h.ran ..

theorem Alike.run (h : w.Alike v) {c c' : Command} (hc : Rereads c c') :
    (w.run c).1 = (v.run c').1 ∧ (w.run c).2.Alike (v.run c').2 := by
  have hfolder : v.folderOf c' = w.folderOf c := by
    rw [h.rest, h.station.rest]
    cases hc with
    | _ => rfl
  have hlookup (folder : List String) : v.lookup folder c'.program = w.lookup folder c.program := by
    rw [h.rest, h.station.rest]
    cases hc with
    | _ => rfl
  have hnul : (hasNul c'.program || c'.args.any hasNul || (c'.folder.map hasNul).getD false) =
      (hasNul c.program || c.args.any hasNul || (c.folder.map hasNul).getD false) := by
    cases hc with
    | _ => rfl
  unfold Commands.run
  rw [hfolder, hnul]
  split
  · exact h.ran ..
  · split
    · exact h.ran ..
    · rw [hlookup]
      split
      · exact h.act hc _
      · exact h.shell hc _
      · exact h.ran ..
      · exact h.ran ..

def sideBySide : Worlds Host.interface Commands Commands := ⟨answer, answer, Alike⟩

/-- Scripted commands do not act on what they read. -/
theorem respects : sideBySide.Respects Host.Event.Alike := by
  intro r r' x x' hx w v h
  have hrun {c c' : Command} (hc : Rereads c c') := Alike.run h hc
  have hmachine {m m' : Machine.Request} {x : Machine.Answer m} {x' : Machine.Answer m'}
      (hx : Machine.Event.Alike ⟨m, x⟩ ⟨m', x'⟩) :
      Host.Event.Alike ⟨.machine m, (answer (.machine m) w).1⟩ ⟨.machine m', (answer (.machine m') v).1⟩ ∧
        (answer (.machine m) w).2.Alike (answer (.machine m') v).2 := by
    obtain ⟨hanswer, hstation⟩ := h.station.respects hx
    exact ⟨.machine hanswer, h.withStation hstation⟩
  cases hx with
  | same =>
      match r with
      | .run c => exact ⟨(hrun (.same c)).1 ▸ .same _, (hrun (.same c)).2⟩
      | .machine m => exact hmachine (.same ⟨m, x⟩)
  | created c input input' hargs =>
      have hc : Rereads { c with input := input } { c with input := input' } :=
        .created { c with input := input } input' hargs
      exact ⟨(hrun hc).1 ▸ .created c input input' hargs _, (hrun hc).2⟩
  | machine hx => exact hmachine hx

end Commands

end Rollout.Rehearsal
