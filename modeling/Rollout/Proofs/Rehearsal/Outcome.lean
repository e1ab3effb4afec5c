import Rollout.Proofs.Rehearsal.Clock

namespace Rollout.Rehearsal.MemoryCluster

open Cluster Program Site Deployment

variable {p : Plan} {w w' : MemoryCluster}

theorem isThere_iff {r : Resource} {query : Nat} : w.isThere r query = true ↔
    ∀ after, w.behaviour.appearAfter.get? r.label = some after → ∃ n, after = some n ∧ n ≤ query := by
  rw [isThere]
  rcases w.behaviour.appearAfter.get? r.label with _ | _ | n
  · simp
  · simp
  · simp

def awaited (p : Plan) : List Resource :=
  (if p.backend = .postgres ∨ p.registry = .postgres then [workload p Stack.databaseWorkload] else []) ++
    (if p.artifacts = .s3 then
      [workload p Stack.objectStoreWorkload, ⟨.job, Stack.objectStoreJob, p.ns⟩] else []) ++
    [workload p Stack.operatorWorkload, workload p Stack.instanceName]

def polled (p : Plan) : List Resource :=
  (if p.backend = .postgres ∨ p.registry = .postgres then [workload p Stack.databaseWorkload] else []) ++
    (if p.artifacts = .s3 then [workload p Stack.objectStoreWorkload] else []) ++
    [workload p Stack.instanceName]

/-- Nothing stands in the way of a run that makes this many queries for each resource. -/
structure Favourable (p : Plan) (w : MemoryCluster) (queries : Nat) : Prop where
  applies : w.behaviour.failingApplies = false
  operator : w.behaviour.failingOperator = false
  waits : ∀ r ∈ awaited p, r.label ∉ w.behaviour.failingWaits
  appears : ∀ r ∈ polled p, ∀ after, w.behaviour.appearAfter.get? r.label = some after →
    ∃ n, after = some n ∧ n ≤ w.pollsOf r + queries

theorem favourable_iff : w.Favourable p (budget p.limits.wait p.limits.pollInterval) ↔
    ∀ s : Step, s.isEnabled p = true → w.Met p s := by
  constructor
  · rintro ⟨happlies, hoperator, hwaits, happears⟩ s hs
    have happears (r : Resource) (hr : r ∈ polled p) : w.Appears p r := isThere_iff.2 (happears r hr)
    cases s with
    | ns | access => trivial
    | database =>
        rw [Step.database_isEnabled_iff] at hs
        exact ⟨happlies, happears _ (by simp [polled, hs]), hwaits _ (by simp [awaited, hs])⟩
    | objectStore =>
        rw [Step.objectStore_isEnabled_iff] at hs
        exact ⟨happlies, ⟨happears _ (by simp [polled, hs]), hwaits _ (by simp [awaited, hs])⟩,
          hwaits _ (by simp [awaited, hs])⟩
    | operator => exact ⟨hoperator, happlies, hwaits _ (by simp [awaited])⟩
    | serving => exact ⟨happlies, happears _ (by simp [polled]), hwaits _ (by simp [awaited])⟩
  · intro hmet
    refine ⟨(hmet .serving rfl).1, (hmet .operator rfl).1, ?_, ?_⟩
    · intro r hr
      simp only [awaited, List.mem_append, List.mem_ite_nil_right, List.mem_cons, List.not_mem_nil,
        or_false] at hr
      rcases hr with (⟨hs, rfl⟩ | ⟨hs, rfl | rfl⟩) | rfl | rfl
      · exact (hmet .database (Step.database_isEnabled_iff.2 hs)).2.2
      · exact (hmet .objectStore (Step.objectStore_isEnabled_iff.2 hs)).2.1.2
      · exact (hmet .objectStore (Step.objectStore_isEnabled_iff.2 hs)).2.2
      · exact (hmet .operator rfl).2.2
      · exact (hmet .serving rfl).2.2
    · intro r hr
      simp only [polled, List.mem_append, List.mem_ite_nil_right, List.mem_cons, List.not_mem_nil,
        or_false] at hr
      rcases hr with (⟨hs, rfl⟩ | ⟨hs, rfl⟩) | rfl
      · exact isThere_iff.1 (hmet .database (Step.database_isEnabled_iff.2 hs)).2.1
      · exact isThere_iff.1 (hmet .objectStore (Step.objectStore_isEnabled_iff.2 hs)).2.1.1
      · exact isThere_iff.1 (hmet .serving rfl).2.1

theorem firstUnmet_isNone_iff :
    (firstUnmet p w Step.all).isNone = true ↔ ∀ s : Step, s.isEnabled p = true → w.Met p s := by
  have hmem (s : Step) : s ∈ Step.all := by cases s <;> decide
  rw [Option.isNone_iff_eq_none, firstUnmet, List.find?_eq_none]
  constructor
  · intro h s hs
    have hs' := h s (hmem s)
    simpa [hs] using hs'
  · intro h s _
    simpa using h s

theorem isOk_iff_favourable (hp : WholeMillis p) (hdelay : w.behaviour.existsDelay = .zero)
    (hfiles : FilesWritable p w) :
    ((Deployment.run p).run.run answer (w.equipped p)).1.isOk = true ↔
      w.Favourable p (budget p.limits.wait p.limits.pollInterval) := by
  rw [favourable_iff, ← firstUnmet_isNone_iff, isOk_run_equipped hp hdelay hfiles]

/-- Settings that no condition speaks of are those of `b`, and the service is there or not. -/
def varied (p : Plan) (w : MemoryCluster) (b : Behaviour) (service : Option Nat) : MemoryCluster :=
  { w with
    behaviour :=
      { b with
        appearAfter := w.behaviour.appearAfter.insert
          (Resource.label ⟨.service, Stack.instanceName, p.ns⟩) service
        existsDelay := w.behaviour.existsDelay
        failingWaits := w.behaviour.failingWaits
        failingApplies := w.behaviour.failingApplies
        failingOperator := w.behaviour.failingOperator } }

theorem firstUnmet_varied (p : Plan) (w : MemoryCluster) (b : Behaviour) (service : Option Nat) :
    firstUnmet p (w.varied p b service) Step.all = firstUnmet p w Step.all := by
  have happears (name : String) : (w.varied p b service).Appears p (workload p name) ↔
      w.Appears p (workload p name) := by
    -- Only deployments are waited for to exist, and they have other labels than services.
    have hne : Resource.label ⟨.service, Stack.instanceName, p.ns⟩ ≠ (workload p name).label := by
      intro heq
      have hhead := congrArg (fun s => s.toList.head?) heq
      simp [Resource.label, workload, Kind.text] at hhead
    rw [Appears, Appears, isThere_iff, isThere_iff, varied, Sorted.get?_insert, if_neg hne]
    exact Iff.rfl
  have hmet (s : Step) : (w.varied p b service).Met p s ↔ w.Met p s := by
    cases s with
    | ns | access | operator => exact Iff.rfl
    | database => exact and_congr_right' (and_congr_left' (happears _))
    | objectStore => exact and_congr_right' (and_congr_left' (and_congr_left' (happears _)))
    | serving => exact and_congr_right' (and_congr_left' (happears _))
  rw [firstUnmet, firstUnmet]
  congr 1
  funext s
  simp only [hmet]

theorem filesWritable_varied (hfiles : FilesWritable p w) (b : Behaviour) (service : Option Nat) :
    FilesWritable p (w.varied p b service) := hfiles.of_station rfl

theorem isOk_varied (hp : WholeMillis p) (hdelay : w.behaviour.existsDelay = .zero)
    (hfiles : FilesWritable p w) (b : Behaviour) (service : Option Nat) :
    ((Deployment.run p).run.run answer ((w.varied p b service).equipped p)).1.isOk =
      ((Deployment.run p).run.run answer (w.equipped p)).1.isOk := by
  have hok := isOk_run_equipped hp hdelay hfiles
  have hok' := isOk_run_equipped hp (w := w.varied p b service) hdelay
    (filesWritable_varied hfiles b service)
  have hfirst := congrArg Option.isNone (firstUnmet_varied p w b service)
  exact hok'.trans (hfirst.trans hok.symm)

theorem failedNames_varied (hp : WholeMillis p) (hdelay : w.behaviour.existsDelay = .zero)
    (hfiles : FilesWritable p w) (b : Behaviour) (service : Option Nat) :
    failedNames ((runRecorded p).run answer ((w.varied p b service).equipped p)).1.1.stages =
      failedNames ((runRecorded p).run answer (w.equipped p)).1.1.stages := by
  have hnames := failedNames_runRecorded hp hdelay hfiles
  have hnames' := failedNames_runRecorded hp (w := w.varied p b service) hdelay
    (filesWritable_varied hfiles b service)
  have hfirst := congrArg (fun s => s.toList.map Step.name) (firstUnmet_varied p w b service)
  exact hnames'.trans (hfirst.trans hnames.symm)

/-- What a run comes to on a clock that goes no further than to `latest`, if it is not broken off. -/
def runBy (latest : Nat) (p : Plan) (w : MemoryCluster) : Option (Except Failure Summary) :=
  ((Deployment.run p).run.runUpTo (breaksOff latest) answer (w.equipped p)).1

def recordBy (latest : Nat) (p : Plan) (w : MemoryCluster) : Option Summary :=
  ((runRecorded p).runUpTo (breaksOff latest) answer (w.equipped p)).1.map Prod.fst

/-- How runs of a plan come out on a cluster: when they are not broken off, on which condition they succeed, at which
step they fail otherwise, and what makes no difference. -/
structure AsForecast (latest : Nat) (p : Plan) (w : MemoryCluster) : Prop where
  finishes : w.HasRoomFor latest p (polled p).length →
    (runBy latest p w).isSome = true ∧ (recordBy latest p w).isSome = true
  isOk_iff : ∀ x, runBy latest p w = some x →
    (x.isOk = true ↔ w.Favourable p (budget p.limits.wait p.limits.pollInterval))
  failed : ∀ s, recordBy latest p w = some s → failedNames s.stages = (firstUnmet p w Step.all).toList.map Step.name
  varied : ∀ b service x x', runBy latest p w = some x → runBy latest p (w.varied p b service) = some x' →
    x'.isOk = x.isOk
  variedFailed : ∀ b service s s', recordBy latest p w = some s → recordBy latest p (w.varied p b service) = some s' →
    failedNames s'.stages = failedNames s.stages

theorem run_of_runBy {latest : Nat} {x : Except Failure Summary} (h : runBy latest p w = some x) :
    ((Deployment.run p).run.run answer (w.equipped p)).1 = x :=
  congrArg Prod.fst (run_of_runUpTo (Prod.ext h rfl)).2

theorem run_of_recordBy {latest : Nat} {s : Summary} (h : recordBy latest p w = some s) :
    ((runRecorded p).run answer (w.equipped p)).1.1 = s := by
  obtain ⟨out, hout, rfl⟩ := Option.map_eq_some_iff.1 h
  exact congrArg (fun out : (Summary × Except Failure Unit) × MemoryCluster => out.1.1)
    (run_of_runUpTo (Prod.ext hout rfl)).2

theorem sum_waits (p : Plan) : ((Step.all.filter (·.isEnabled p)).map waits).sum = (polled p).length := by
  rw [Step.all, List.filter_cons_of_pos rfl, List.filter_cons, List.filter_cons, List.filter_cons_of_pos rfl,
    List.filter_cons_of_pos rfl, List.filter_cons_of_pos rfl]
  simp only [Step.database_isEnabled_iff, Step.objectStore_isEnabled_iff, polled]
  by_cases hdatabase : p.backend = .postgres ∨ p.registry = .postgres
  · by_cases hstore : p.artifacts = .s3
    · simp only [if_pos hdatabase, if_pos hstore]
      rfl
    · simp only [if_pos hdatabase, if_neg hstore]
      rfl
  · by_cases hstore : p.artifacts = .s3
    · simp only [if_neg hdatabase, if_pos hstore]
      rfl
    · simp only [if_neg hdatabase, if_neg hstore]
      rfl

theorem isSome_of_hasRoomFor (hp : WholeMillis p) (hdelay : w.behaviour.existsDelay = .zero) (latest : Nat)
    (hroom : w.HasRoomFor latest p (polled p).length) :
    (runBy latest p w).isSome = true ∧ (recordBy latest p w).isSome = true := by
  rw [← sum_waits] at hroom
  have hrecorded : Unbroken (breaksOff latest) answer (runRecorded p) (w.equipped p) :=
    (spends_runRecorded hp).unbroken (w.equipped p) hdelay hroom
  have hrun : Unbroken (breaksOff latest) answer (Deployment.run p).run (w.equipped p) :=
    unbroken_bind_iff.2 ⟨hrecorded, trivial⟩
  rw [runBy, recordBy, runUpTo_of_unbroken hrun, runUpTo_of_unbroken hrecorded]
  exact ⟨rfl, rfl⟩

theorem asForecast (hp : WholeMillis p) (hdelay : w.behaviour.existsDelay = .zero) (hfiles : FilesWritable p w)
    (latest : Nat) : AsForecast latest p w where
  finishes := isSome_of_hasRoomFor hp hdelay latest
  isOk_iff _ hx := run_of_runBy hx ▸ isOk_iff_favourable hp hdelay hfiles
  failed _ hs := run_of_recordBy hs ▸ failedNames_runRecorded hp hdelay hfiles
  varied b service _ _ hx hx' := run_of_runBy hx ▸ run_of_runBy hx' ▸ isOk_varied hp hdelay hfiles b service
  variedFailed b service _ _ hs hs' :=
    run_of_recordBy hs ▸ run_of_recordBy hs' ▸ failedNames_varied hp hdelay hfiles b service

/-- On a cluster whose queries take no time, where files can be written, and for a run that is not broken off. The
queries that it makes for a resource are those that fit into its time limit, where a timer runs thirty years at
most. -/
theorem run_asForecast (st : Settings) (latest : Nat) (w : MemoryCluster) (hdelay : w.behaviour.existsDelay = .zero)
    (hfiles : FilesWritable (.ofSettings st) w) : AsForecast latest (.ofSettings st) w :=
  asForecast (wholeMillis_ofSettings st) hdelay hfiles latest

def appearing (query : Nat) : MemoryCluster :=
  .start
    { appearAfter := [("deployment/mlflow", some query)], existsErrors := true, existsDelay := .zero
      failingWaits := [], failingApplies := false, failingProbes := false, failingOperator := false
      pods := [], phases := [] }
    (.emptyAt []) []

theorem isOk_write (d : Disk) (path text : String) : (d.write path text).isOk = (d.target path).isOk := by
  rw [Disk.write]
  cases d.target path with
  | error c => rfl
  | ok steps => rfl

theorem filesWritable_appearing (query : Nat) {st : Settings}
    (hmanifest : (Plan.ofSettings st).places.manifest = "cr.yaml")
    (htls : (Plan.ofSettings st).places.tlsFiles = (Plan.ofSettings {}).places.tlsFiles) :
    FilesWritable (.ofSettings st) (appearing query) := by
  have hstation : (appearing query).station = Workstation.start (Disk.emptyAt []) := rfl
  have hdone : ((Workstation.start (Disk.emptyAt [])).generate (Plan.ofSettings {}).places.tlsFiles).1.isOk =
      true := by
    decide +kernel
  have htarget : (((Workstation.start (Disk.emptyAt [])).generate
      (Plan.ofSettings {}).places.tlsFiles).2.disk.target "cr.yaml").isOk = true := by
    decide +kernel
  constructor
  case generates =>
    rw [hstation, htls]
    exact hdone
  case writes =>
    rw [hstation, htls, hmanifest, isOk_write]
    exact htarget

theorem appearing_asForecast :
    let p := Plan.ofSettings { artifacts := .s3, manifestPath := "cr.yaml" }
    (appearing 3).behaviour.existsDelay = .zero ∧ FilesWritable p (appearing 3) ∧
      (runBy Machine.latest p (appearing 3)).any Except.isOk = true ∧ AsForecast Machine.latest p (appearing 3) := by
  have hfiles : FilesWritable (.ofSettings { artifacts := .s3, manifestPath := "cr.yaml" }) (appearing 3) :=
    filesWritable_appearing 3 rfl rfl
  exact ⟨rfl, hfiles, by decide +kernel, run_asForecast _ _ _ rfl hfiles⟩

/-- With the interval of this plan there is time for three queries, but a timer does not run that long. -/
def patient : Plan := .ofSettings { waitSecs := 2000000000, pollSecs := 1000000000, manifestPath := "cr.yaml" }

theorem appearing_favourable_iff (query queries : Nat) :
    (appearing query).Favourable patient queries ↔ query ≤ queries := by
  have hpolled : polled patient = [workload patient Stack.instanceName] := rfl
  have hget : (appearing query).behaviour.appearAfter.get? (workload patient Stack.instanceName).label =
      some (some query) := rfl
  have hpolls : (appearing query).pollsOf (workload patient Stack.instanceName) = 0 := rfl
  constructor
  · intro h
    obtain ⟨n, hn, hle⟩ := h.appears _ (hpolled ▸ List.mem_singleton_self _) _ hget
    cases hn
    rwa [hpolls, Nat.zero_add] at hle
  · intro hle
    constructor
    case applies => rfl
    case operator => rfl
    case waits => exact fun _ _ => List.not_mem_nil
    case appears =>
      intro r hr after hafter
      rw [hpolled, List.mem_singleton] at hr
      subst hr
      rw [hget, Option.some.injEq] at hafter
      rw [hpolls, Nat.zero_add]
      exact ⟨query, hafter.symm, hle⟩

/-- The limit of timers leaves room for a query more than the interval alone. -/
theorem patient_makes_another_query :
    (appearing 4).behaviour.existsDelay = .zero ∧ FilesWritable patient (appearing 4) ∧
      ¬(((Deployment.run patient).run.run answer ((appearing 4).equipped patient)).1.isOk = true ↔
        (appearing 4).Favourable patient
          (patient.limits.wait.nanos ⌈/⌉ patient.limits.pollInterval.nanos + 1)) := by
  have hfiles : FilesWritable patient (appearing 4) := filesWritable_appearing 4 rfl rfl
  have hbudget : budget patient.limits.wait patient.limits.pollInterval = 4 := by
    rw [budget, Nat.ceilDiv_eq_add_pred_div]
    decide +kernel
  have hinterval : patient.limits.wait.nanos ⌈/⌉ patient.limits.pollInterval.nanos + 1 = 3 := by
    rw [Nat.ceilDiv_eq_add_pred_div]
    decide +kernel
  have hmillis : WholeMillis patient := wholeMillis_ofSettings _
  have hok := isOk_iff_favourable hmillis rfl hfiles
  refine ⟨rfl, hfiles, fun hiff => ?_⟩
  rw [hinterval, hok, hbudget, appearing_favourable_iff, appearing_favourable_iff] at hiff
  exact absurd (hiff.1 (Nat.le_refl 4)) (by decide)

end Rollout.Rehearsal.MemoryCluster
