import Rollout.Deployment.Run
import Rollout.Proofs.Rehearsal.Steps

namespace Rollout.Rehearsal.MemoryCluster

open Cluster Program Site Deployment

variable {p : Plan} {w w' w'' : MemoryCluster} {labels : List String} {steps : List Step}

instance (p : Plan) (w : MemoryCluster) (r : Resource) : Decidable (w.Appears p r) :=
  inferInstanceAs (Decidable (_ = true))

instance (p : Plan) (w : MemoryCluster) (s : Step) : Decidable (w.Met p s) :=
  match s with
  | .ns | .access => inferInstanceAs (Decidable True)
  | .database | .serving => inferInstanceAs (Decidable (_ ∧ _ ∧ _))
  | .objectStore => inferInstanceAs (Decidable (_ ∧ (_ ∧ _) ∧ _))
  | .operator => inferInstanceAs (Decidable (_ ∧ _ ∧ _))

/-- The files that a run writes can be written: first certificate and key, then the manifest of the
instance. -/
structure FilesWritable (p : Plan) (w : MemoryCluster) : Prop where
  generates : (w.station.generate p.places.tlsFiles).1.isOk = true
  writes : ((w.station.generate p.places.tlsFiles).2.disk.write p.places.manifest p.design.yaml).isOk = true

theorem FilesWritable.of_station (h : FilesWritable p w) (hw : w'.station = w.station) : FilesWritable p w' := by
  constructor
  case generates =>
    rw [hw]
    exact h.generates
  case writes =>
    rw [hw]
    exact h.writes

/-- Before these steps, a run has changed nothing that their outcome depends on, but for the files that come
with the operator. -/
structure Pending (p : Plan) (w : MemoryCluster) (steps : List Step) (w' : MemoryCluster) : Prop where
  behaviour : w'.behaviour = w.behaviour
  tlsFiles : w'.tlsFiles = p.places.tlsFiles
  pollsOf : ∀ s ∈ steps, ∀ t, s.target? p = some t → w'.pollsOf t.resource = w.pollsOf t.resource
  unwritten : .operator ∈ steps → w'.station.disk = w.station.disk
  generated : .operator ∉ steps → .serving ∈ steps →
    w'.station.disk = (w.station.generate p.places.tlsFiles).2.disk

theorem appears_congr (hb : w'.behaviour = w.behaviour) {r : Resource} (hr : w'.pollsOf r = w.pollsOf r) :
    w'.Appears p r ↔ w.Appears p r := by
  rw [Appears, Appears, isThere_congr hb, hr]

theorem met_congr (hb : w'.behaviour = w.behaviour) {s : Step}
    (hpolls : ∀ t, s.target? p = some t → w'.pollsOf t.resource = w.pollsOf t.resource) :
    w'.Met p s ↔ w.Met p s := by
  cases s with
  | ns | access => exact Iff.rfl
  | database =>
      have hdatabase := appears_congr (p := p) hb (hpolls (Step.databaseTarget p) rfl)
      rw [Met, Met, hb]
      exact and_congr_right' (and_congr_left' hdatabase)
  | objectStore =>
      have hstore := appears_congr (p := p) hb (hpolls (Step.objectStoreTarget p) rfl)
      rw [Met, Met, hb]
      exact and_congr_right' (and_congr_left' (and_congr_left' hstore))
  | operator => rw [Met, Met, hb]
  | serving =>
      have hserving := appears_congr (p := p) hb (hpolls (Step.servingTarget p) rfl)
      rw [Met, Met, hb]
      exact and_congr_right' (and_congr_left' hserving)

theorem target_label_ne {s s' : Step} {t t' : Target} (ht : s.target? p = some t) (ht' : s'.target? p = some t')
    (hne : s ≠ s') : t.resource.label ≠ t'.resource.label := by
  have hname (a b : String) (hab : a ≠ b) : (workload p a).label ≠ (workload p b).label := by
    intro heq
    exact hab ((String.append_right_inj _).1 heq)
  cases s <;> cases ht <;> cases s' <;> cases ht' <;> first
    | exact absurd rfl hne
    | exact hname _ _ (by decide)

theorem generate_congr {a b : Workstation} (h : a.disk = b.disk) (paths : List String) :
    (a.generate paths).1 = (b.generate paths).1 ∧ (a.generate paths).2.disk = (b.generate paths).2.disk := by
  rw [Workstation.generate, Workstation.work, Workstation.generate, Workstation.work, h]
  exact ⟨rfl, rfl⟩

theorem Pending.skip {s : Step} {rest : List Step} (h : Pending p w (s :: rest) w') (hs : s ≠ .operator) :
    Pending p w rest w' where
  behaviour := h.behaviour
  tlsFiles := h.tlsFiles
  pollsOf s' hs' := h.pollsOf s' (List.mem_cons_of_mem _ hs')
  unwritten hmem := h.unwritten (List.mem_cons_of_mem _ hmem)
  generated hno hmem := h.generated (List.not_mem_cons_of_ne_of_not_mem hs.symm hno) (List.mem_cons_of_mem _ hmem)

theorem Pending.of_sameBut (h : Pending p w steps w') (hsame : SameBut labels w' w'')
    (hlabels : ∀ s ∈ steps, ∀ t, s.target? p = some t → t.resource.label ∉ labels) : Pending p w steps w'' where
  behaviour := hsame.behaviour.trans h.behaviour
  tlsFiles := hsame.tlsFiles.trans h.tlsFiles
  pollsOf s hs t ht := (hsame.pollsOf _ (hlabels s hs t ht)).trans (h.pollsOf s hs t ht)
  unwritten hmem := hsame.disk.trans (h.unwritten hmem)
  generated hno hmem := hsame.disk.trans (h.generated hno hmem)

theorem not_mem_of_suffix {s : Step} {rest : List Step} (h : s :: rest <:+ Step.all) : s ∉ rest :=
  (List.nodup_cons.1 (h.sublist.nodup (by decide))).1

theorem operator_not_mem_of_suffix {rest : List Step} (h : .serving :: rest <:+ Step.all) : .operator ∉ rest := by
  intro hmem
  have hsub : [Step.serving, .operator].Sublist Step.all :=
    ((List.singleton_sublist.2 hmem).cons_cons Step.serving).trans h.sublist
  exact absurd hsub (by decide)

theorem performs_step (hp : WholeMillis p) (hdelay : w.behaviour.existsDelay = .zero)
    (hfiles : FilesWritable p w) {s : Step} {rest : List Step} (hsuffix : s :: rest <:+ Step.all)
    (h : Pending p w (s :: rest) w') : Performs (perform p s) w' (w.Met p s) (Pending p w rest) := by
  have hmet : w'.Met p s ↔ w.Met p s := met_congr h.behaviour (h.pollsOf s List.mem_cons_self)
  have hdelay' : w'.behaviour.existsDelay = .zero := by
    rw [h.behaviour]
    exact hdelay
  have hlabels {t : Target} (ht : s.target? p = some t) :
      ∀ s' ∈ rest, ∀ t', s'.target? p = some t' → t'.resource.label ∉ [t.resource.label] := by
    intro s' hs' t' ht' hmem
    have hne : s' ≠ s := fun heq => not_mem_of_suffix hsuffix (heq ▸ hs')
    exact target_label_ne ht' ht hne (List.mem_singleton.1 hmem)
  cases s with
  | ns =>
      exact (performs_ensureNamespace p w').mono Iff.rfl fun _ hsame =>
        (h.skip (by decide)).of_sameBut hsame fun _ _ _ _ => List.not_mem_nil
  | database =>
      exact (performs_deployDatabase hp hdelay').mono hmet fun _ hsame =>
        (h.skip (by decide)).of_sameBut hsame (hlabels rfl)
  | objectStore =>
      exact (performs_deployObjectStore hp hdelay').mono hmet fun _ hsame =>
        (h.skip (by decide)).of_sameBut hsame (hlabels rfl)
  | operator =>
      obtain ⟨hdone, hdisk⟩ := generate_congr (h.unwritten List.mem_cons_self) p.places.tlsFiles
      refine (performs_deployOperator p w').mono ?_ fun w₁ hsame => ?_
      · rw [h.tlsFiles, hdone, hmet]
        exact and_iff_right hfiles.generates
      · refine ⟨hsame.behaviour.trans h.behaviour, hsame.tlsFiles.trans h.tlsFiles, ?_, ?_, ?_⟩
        · intro s hs t ht
          exact (hsame.pollsOf _ List.not_mem_nil).trans (h.pollsOf s (List.mem_cons_of_mem _ hs) t ht)
        · exact fun hmem => absurd hmem (not_mem_of_suffix hsuffix)
        · rw [hsame.disk, ← hdisk, ← h.tlsFiles]
          exact fun _ _ => rfl
  | serving =>
      have hoperator := operator_not_mem_of_suffix hsuffix
      have hdisk := h.generated (List.not_mem_cons_of_ne_of_not_mem (by decide) hoperator) List.mem_cons_self
      refine (performs_deployInstance hp hdelay').mono ?_ ?_
      · rw [hdisk, hmet]
        exact and_iff_right hfiles.writes
      · rintro w₁ ⟨d, hsame⟩
        refine ⟨hsame.behaviour.trans h.behaviour, hsame.tlsFiles.trans h.tlsFiles, ?_, ?_, ?_⟩
        · intro s hs t ht
          exact (hsame.pollsOf _ (hlabels rfl s hs t ht)).trans (h.pollsOf s (List.mem_cons_of_mem _ hs) t ht)
        · exact fun hmem => absurd hmem hoperator
        · exact fun _ hmem => absurd hmem (not_mem_of_suffix hsuffix)
  | access =>
      have hnil : rest = [] := by simpa [Step.all, List.suffix_cons_iff] using hsuffix
      refine (performs_publishAccess p w').mono Iff.rfl fun _ hsame => ?_
      exact (h.skip (by decide)).of_sameBut hsame (by simp [hnil])

/-- The first step to be taken whose condition is not met. -/
def firstUnmet (p : Plan) (w : MemoryCluster) (steps : List Step) : Option Step :=
  steps.find? fun s => s.isEnabled p && !decide (w.Met p s)

theorem firstUnmet_cons (p : Plan) (w : MemoryCluster) (s : Step) (rest : List Step) :
    firstUnmet p w (s :: rest) =
      if s.isEnabled p = true ∧ ¬w.Met p s then some s else firstUnmet p w rest := by
  have hiff : (s.isEnabled p && !decide (w.Met p s)) = true ↔ s.isEnabled p = true ∧ ¬w.Met p s := by simp
  by_cases hs : s.isEnabled p = true ∧ ¬w.Met p s
  · rw [if_pos hs]
    exact List.find?_cons_of_pos (hiff.2 hs)
  · rw [if_neg hs]
    exact List.find?_cons_of_neg (mt hiff.1 hs)

def failedNames (stages : List Stage) : List String :=
  (stages.filter fun s => s.status = .failed).map (·.name)

theorem failedNames_cons_of_failed {s : Stage} (hs : s.status = .failed) (stages : List Stage) :
    failedNames (s :: stages) = s.name :: failedNames stages := by
  rw [failedNames, List.filter_cons_of_pos (by simpa using hs), List.map_cons, failedNames]

theorem failedNames_cons_of_not_failed {s : Stage} (hs : s.status ≠ .failed) (stages : List Stage) :
    failedNames (s :: stages) = failedNames stages := by
  rw [failedNames, List.filter_cons_of_neg (by simpa using hs), failedNames]

theorem failedNames_skip (m : Step → Option String) (steps : List Step) :
    failedNames (steps.map fun s => (pendingStage s).skip (m s)) = [] := by
  induction steps with
  | nil => rfl
  | cons s rest ih =>
      rw [List.map_cons, failedNames_cons_of_not_failed (by simp [Stage.skip])]
      exact ih

theorem Pending.log (h : Pending p w steps w') (e : LogEntry) : Pending p w steps (w'.logged e) :=
  h.of_sameBut (sameBut_logged w' e) fun _ _ _ _ => List.not_mem_nil

theorem Pending.readClock (h : Pending p w steps w') : Pending p w steps (answer (.machine .now) w').2 := by
  have hsame : SameBut [] w' (answer (.machine .now) w').2 := ⟨rfl, rfl, rfl, fun _ _ => rfl⟩
  exact h.of_sameBut hsame fun _ _ _ _ => List.not_mem_nil

/-- A step that fails is the last that is taken, and one that succeeds leaves the rest to decide. -/
theorem run_takeSteps_of_isEnabled (hp : WholeMillis p) (hdelay : w.behaviour.existsDelay = .zero)
    (hfiles : FilesWritable p w) {s : Step} {rest : List Step} (hsuffix : s :: rest <:+ Step.all)
    (h : Pending p w (s :: rest) w') (hs : s.isEnabled p = true) :
    let out := ((takeSteps p (s :: rest)).run answer w').1
    (¬w.Met p s ∧ out.2.isOk = false ∧ failedNames out.1 = [s.name]) ∨
      (w.Met p s ∧ ∃ w₁, Pending p w rest w₁ ∧ out.2.isOk = ((takeSteps p rest).run answer w₁).1.2.isOk ∧
        failedNames out.1 = failedNames ((takeSteps p rest).run answer w₁).1.1) := by
  rw [takeSteps, if_pos hs, Machine.info, run_log_bind, Machine.now, run_machine_bind, run_program_bind]
  have hbegun := (h.log ⟨.info, "▶ " ++ s.title, [("stage", s.name)]⟩).readClock
  generalize MemoryCluster.logged _ _ = w₁ at hbegun ⊢
  rcases (performs_step hp hdelay hfiles hsuffix hbegun).run_cases with
    ⟨hunmet, e, w₂, hrun⟩ | ⟨hmet, x, w₂, hrun, hpending⟩
  · rw [hrun]
    simp only [Machine.error, run_log_bind]
    rw [run_machine_bind, run_pure]
    refine .inl ⟨hunmet, rfl, ?_⟩
    rw [failedNames_cons_of_failed rfl, failedNames_skip]
    rfl
  · rw [hrun]
    simp only [run_program_bind, run_pure]
    refine .inr ⟨hmet, _, hpending.readClock, rfl, ?_⟩
    rw [failedNames_cons_of_not_failed (by simp [Stage.finish])]
    rfl

theorem run_takeSteps_of_not_isEnabled {s : Step} {rest : List Step} (h : Pending p w (s :: rest) w')
    (hs : ¬s.isEnabled p = true) :
    let out := ((takeSteps p (s :: rest)).run answer w').1
    ∃ w₁, Pending p w rest w₁ ∧ out.2.isOk = ((takeSteps p rest).run answer w₁).1.2.isOk ∧
      failedNames out.1 = failedNames ((takeSteps p rest).run answer w₁).1.1 := by
  have hoperator : s ≠ .operator := by
    rintro rfl
    exact hs rfl
  rw [takeSteps, if_neg hs, Machine.info, run_log_bind, run_program_bind, run_pure]
  refine ⟨_, (h.skip hoperator).log ⟨.info, "Skipping stage", [("stage", s.name), ("reason", s.skipReason)]⟩, rfl, ?_⟩
  rw [failedNames_cons_of_not_failed (by simp [Stage.skip])]

theorem run_takeSteps (hp : WholeMillis p) (hdelay : w.behaviour.existsDelay = .zero)
    (hfiles : FilesWritable p w) (hsuffix : steps <:+ Step.all) (h : Pending p w steps w') :
    let out := ((takeSteps p steps).run answer w').1
    out.2.isOk = (firstUnmet p w steps).isNone ∧
      failedNames out.1 = (firstUnmet p w steps).toList.map Step.name := by
  -- All steps before have succeeded, so that one that fails is the first whose condition is not met.
  induction steps generalizing w' with
  | nil => exact ⟨rfl, rfl⟩
  | cons s rest ih =>
      have hrest : rest <:+ Step.all := (List.suffix_cons s rest).trans hsuffix
      rw [firstUnmet_cons]
      by_cases hs : s.isEnabled p = true
      · rcases run_takeSteps_of_isEnabled hp hdelay hfiles hsuffix h hs with
          ⟨hunmet, hfails, hname⟩ | ⟨hmet, w₁, hpending, hok, hnames⟩
        · rw [if_pos ⟨hs, hunmet⟩]
          exact ⟨hfails, hname⟩
        · obtain ⟨hok', hnames'⟩ := ih hrest hpending
          rw [if_neg fun hunmet => hunmet.2 hmet]
          exact ⟨hok.trans hok', hnames.trans hnames'⟩
      · obtain ⟨w₁, hpending, hok, hnames⟩ := run_takeSteps_of_not_isEnabled h hs
        obtain ⟨hok', hnames'⟩ := ih hrest hpending
        rw [if_neg fun hunmet => hs hunmet.1]
        exact ⟨hok.trans hok', hnames.trans hnames'⟩

/-- On a cluster that has the files of the plan to write. -/
def equipped (p : Plan) (w : MemoryCluster) : MemoryCluster := { w with tlsFiles := p.places.tlsFiles }

theorem run_runRecorded (hp : WholeMillis p) (hdelay : w.behaviour.existsDelay = .zero)
    (hfiles : FilesWritable p w) :
    let out := ((runRecorded p).run answer (w.equipped p)).1
    out.2.isOk = (firstUnmet p w Step.all).isNone ∧
      failedNames out.1.stages = (firstUnmet p w Step.all).toList.map Step.name := by
  rw [runRecorded, Machine.drawId, run_machine_bind, Machine.info, run_log_bind, run_program_bind,
    run_program_bind, run_program_bind]
  generalize hlog : MemoryCluster.logged _ _ = w₁
  have hpending : Pending p w Step.all w₁ := hlog ▸
    ⟨rfl, rfl, fun _ _ _ _ => rfl, fun _ => rfl, fun hno => absurd (by decide) hno⟩
  exact run_takeSteps hp hdelay hfiles List.suffix_rfl hpending

theorem failedNames_runRecorded (hp : WholeMillis p) (hdelay : w.behaviour.existsDelay = .zero)
    (hfiles : FilesWritable p w) :
    failedNames ((runRecorded p).run answer (w.equipped p)).1.1.stages =
      (firstUnmet p w Step.all).toList.map Step.name :=
  (run_runRecorded hp hdelay hfiles).2

theorem isOk_run (p : Plan) (w : MemoryCluster) :
    ((Deployment.run p).run.run answer w).1.isOk = ((runRecorded p).run answer w).1.2.isOk := by
  rw [Deployment.run, ExceptT.run_mk, run_program_bind, run_pure]
  rcases ((runRecorded p).run answer w).1.2 with e | x
  · rfl
  · rfl

theorem isOk_run_equipped (hp : WholeMillis p) (hdelay : w.behaviour.existsDelay = .zero)
    (hfiles : FilesWritable p w) :
    ((Deployment.run p).run.run answer (w.equipped p)).1.isOk = (firstUnmet p w Step.all).isNone :=
  (isOk_run p (w.equipped p)).trans (run_runRecorded hp hdelay hfiles).1

end Rollout.Rehearsal.MemoryCluster
