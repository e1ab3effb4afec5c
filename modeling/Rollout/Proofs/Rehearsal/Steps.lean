import Rollout.Deployment.Actions
import Rollout.Proofs.Rehearsal.Waiting

namespace Rollout.Rehearsal.MemoryCluster

open Cluster Program Site Deployment

variable {p : Plan} {w w' : MemoryCluster} {labels : List String} {t : Target}

def withDisk (w : MemoryCluster) (d : Disk) : MemoryCluster := { w with station := { w.station with disk := d } }

theorem performs_info (h : SameBut labels w w') (text : String)
    (fields : List (String × String)) : Performs (info text fields) w' True (SameBut labels w) :=
  (Performs.info text fields w').mono Iff.rfl fun _ h' => h.trans h'.of_nil

theorem performs_call {ok : Prop} {c : Call} (h : SameBut labels w w') (hc : ∀ r, c ≠ .present r)
    (hok : (w'.outcome c).isOk = true ↔ ok) : Performs (call c) w' ok (SameBut labels w) :=
  (Performs.call_same hc hok).mono Iff.rfl fun _ h' => h.trans h'.of_nil

theorem performs_apply (h : SameBut labels w w') (p : Plan) (t : Target) (manifest : String)
    (ns : Option String) :
    Performs (apply p t manifest ns) w' (w.behaviour.failingApplies = false) (SameBut labels w) := by
  refine (performs_call h (by simp) ?_).onFailure
  rw [outcome_apply, h.behaviour]

theorem performs_condition (h : SameBut labels w w') (p : Plan) (r r' : Resource) (c : Condition)
    (limit : Duration) :
    Performs (onFailure (Wait.untilCondition r c limit) (diagnose p r')) w'
      (r.label ∉ w.behaviour.failingWaits) (SameBut labels w) := by
  refine ((performs_untilCondition w' r c limit).mono ?_ fun _ h' => ?_).onFailure
  · rw [h.behaviour]
  · exact h.trans h'.of_nil

def workload (p : Plan) (name : String) : Resource := ⟨.deployment, name, p.ns⟩

/-- The waits of a plan are in whole milliseconds, and polling rests between queries. -/
structure WholeMillis (p : Plan) : Prop where
  wait : 1000000 ∣ p.limits.wait.nanos
  pollInterval : 1000000 ∣ p.limits.pollInterval.nanos
  pos : 0 < p.limits.pollInterval.nanos

theorem wholeMillis_ofSettings (st : Settings) : WholeMillis (.ofSettings st) where
  wait := Nat.dvd_mul_left_of_dvd (by decide) _
  pollInterval := Nat.dvd_mul_left_of_dvd (by decide) _
  pos := Nat.lt_of_lt_of_le (by decide) (Plan.one_sec_le_pollInterval st)

/-- The resource is there by the last query of a wait that begins now. -/
def Appears (p : Plan) (w : MemoryCluster) (r : Resource) : Prop :=
  w.isThere r (w.pollsOf r + budget p.limits.wait p.limits.pollInterval) = true

theorem performs_waitReady (h : SameBut [] w w') (hp : WholeMillis p) (ht : t.existsWithin = some p.limits.wait)
    (hpoll : t.pollEvery = p.limits.pollInterval) (hdelay : w.behaviour.existsDelay = .zero) :
    Performs (waitReady p t) w' (w.Appears p t.resource ∧ t.resource.label ∉ w.behaviour.failingWaits)
      (SameBut [t.resource.label] w) := by
  have hexists : Performs (onFailure (Wait.untilExists t) (diagnose p t.creator)) w' (w.Appears p t.resource)
      (SameBut [t.resource.label] w) := by
    have hwait := performs_untilExists ht hp.wait (hpoll ▸ hp.pollInterval) (hpoll ▸ hp.pos)
      (h.behaviour.symm ▸ hdelay)
    refine (hwait.mono ?_ fun _ h' => h.of_nil.trans h').onFailure
    rw [Appears, isThere_congr h.behaviour, h.pollsOf _ List.not_mem_nil, hpoll]
  exact hexists.bind fun _ _ h' => performs_condition h' ..

theorem performs_waitReady_of_none (h : SameBut labels w w') (p : Plan) (ht : t.existsWithin = none) :
    Performs (waitReady p t) w' (t.resource.label ∉ w.behaviour.failingWaits) (SameBut labels w) := by
  have hexists : Performs (onFailure (Wait.untilExists t) (diagnose p t.creator)) w' True
      (SameBut labels w) := by
    unfold Wait.untilExists
    rw [ht]
    exact (Performs.of_run_ok rfl h).onFailure
  exact hexists.next fun _ _ h' => performs_condition h' ..

theorem performs_recreateSecret (h : SameBut labels w w') (s : Secret) :
    Performs (recreateSecret s) w' True (SameBut labels w) := by
  have hdelete : Performs (call (.delete ⟨.secret, s.name, s.ns⟩)) w' True
      fun w₁ => SameBut labels w w₁ ∧ w₁.secrets.get? s.name = none := by
    refine (Performs.call _ w').mono (iff_of_true rfl trivial) ?_
    rintro _ rfl
    exact ⟨h.trans (sameBut_answerCall w' (by simp)).of_nil, get?_effect_delete ..⟩
  refine hdelete.next fun _ w₁ h₁ => ?_
  have hcreate : Performs (call (.createSecret s)) w₁ True (SameBut labels w) :=
    performs_call h₁.1 (by simp) (iff_of_true (outcome_createSecret h₁.2) trivial)
  exact hcreate.next fun _ _ h₂ => performs_info h₂ ..

theorem performs_render (w : MemoryCluster) {part : Part} (hpart : part ≠ .operator) :
    Performs (Site.render part) w True (SameBut [] w) := by
  cases part with
  | database => exact .of_run_ok rfl ⟨rfl, rfl, rfl, fun _ _ => rfl⟩
  | objectStore => exact .of_run_ok rfl ⟨rfl, rfl, rfl, fun _ _ => rfl⟩
  | operator => exact absurd rfl hpart

theorem performs_render_operator (w : MemoryCluster) :
    Performs (Site.render .operator) w
      ((w.station.generate w.tlsFiles).1.isOk = true ∧ w.behaviour.failingOperator = false)
      (SameBut [] (w.withDisk (w.station.generate w.tlsFiles).2.disk)) := by
  have hrun : (Site.render .operator).run.run answer w = w.answerRender .operator := rfl
  rw [answerRender] at hrun
  rcases hgenerate : w.station.generate w.tlsFiles with ⟨c | x, station⟩
  · simp only [hgenerate] at hrun
    exact (Performs.of_run_error hrun).mono (iff_of_false id fun h => Bool.noConfusion h.1) fun _ => id
  · simp only [hgenerate] at hrun
    cases hfailing : w.behaviour.failingOperator with
    | true =>
        rw [if_pos hfailing] at hrun
        exact (Performs.of_run_error hrun).mono (iff_of_false id fun h => Bool.noConfusion h.2) fun _ => id
    | false =>
        rw [if_neg (by simp [hfailing])] at hrun
        exact (Performs.of_run_ok hrun ⟨rfl, rfl, rfl, fun _ _ => rfl⟩).mono
          (iff_of_true trivial ⟨rfl, rfl⟩) fun _ => id

theorem performs_write (w : MemoryCluster) (path text : String) :
    Performs (Site.write path text) w ((w.station.disk.write path text).isOk = true)
      fun w' => ∃ d, SameBut [] (w.withDisk d) w' := by
  have hrun : (Site.write path text).run.run answer w =
      (Machine.orFail (w.station.change (w.station.disk.write path text)).1,
        { w with station := (w.station.change (w.station.disk.write path text)).2 }) := rfl
  cases hwrite : w.station.disk.write path text with
  | error c =>
      rw [hwrite] at hrun
      exact (Performs.of_run_error hrun).mono (iff_of_false id Bool.noConfusion) fun _ => id
  | ok d =>
      rw [hwrite] at hrun
      exact (Performs.of_run_ok hrun ⟨d, rfl, rfl, rfl, fun _ _ => rfl⟩).mono (iff_of_true trivial rfl) fun _ => id

/-- What a step depends on, the writing of files apart. -/
def Met (p : Plan) (w : MemoryCluster) : Step → Prop
  | .ns | .access => True
  | .database =>
    w.behaviour.failingApplies = false ∧ w.Appears p (workload p Stack.databaseWorkload) ∧
      (workload p Stack.databaseWorkload).label ∉ w.behaviour.failingWaits
  | .objectStore =>
    w.behaviour.failingApplies = false ∧ (w.Appears p (workload p Stack.objectStoreWorkload) ∧
      (workload p Stack.objectStoreWorkload).label ∉ w.behaviour.failingWaits) ∧
      Resource.label ⟨.job, Stack.objectStoreJob, p.ns⟩ ∉ w.behaviour.failingWaits
  | .operator =>
    w.behaviour.failingOperator = false ∧ w.behaviour.failingApplies = false ∧
      (workload p Stack.operatorWorkload).label ∉ w.behaviour.failingWaits
  | .serving =>
    w.behaviour.failingApplies = false ∧ w.Appears p (workload p Stack.instanceName) ∧
      (workload p Stack.instanceName).label ∉ w.behaviour.failingWaits

theorem performs_ensureNamespace (p : Plan) (w : MemoryCluster) :
    Performs (ensureNamespace p) w True (SameBut [] w) := by
  have hcheck : Performs (call (.namespaceExists p.ns)) w True (SameBut [] w) :=
    performs_call (.refl [] w) (by simp) (iff_of_true rfl trivial)
  refine hcheck.next fun found w₁ h₁ => ?_
  cases found with
  | true => exact performs_info h₁ ..
  | false =>
      have hcreate : Performs (call (.createNamespace p.ns)) w₁ True (SameBut [] w) :=
        performs_call h₁ (by simp) (iff_of_true rfl trivial)
      exact hcreate.next fun _ _ h₂ => performs_info h₂ ..

theorem performs_deployDatabase (hp : WholeMillis p) (hdelay : w.behaviour.existsDelay = .zero) :
    Performs (deployDatabase p) w (w.Met p .database)
      (SameBut [(workload p Stack.databaseWorkload).label] w) := by
  refine (performs_render w (by decide)).next fun manifest w₁ h₁ => ?_
  refine (performs_apply h₁ p _ manifest _).bind fun _ w₂ h₂ => ?_
  refine ((performs_waitReady h₂ hp rfl rfl hdelay).bind fun _ w₃ h₃ =>
    performs_recreateSecret h₃ _).mono ?_ fun _ => id
  rw [and_true]
  rfl

theorem performs_deployObjectStore (hp : WholeMillis p) (hdelay : w.behaviour.existsDelay = .zero) :
    Performs (deployObjectStore p) w (w.Met p .objectStore)
      (SameBut [(workload p Stack.objectStoreWorkload).label] w) := by
  refine (performs_recreateSecret (.refl [] w) _).next fun _ w₁ h₁ => ?_
  have hdelete : Performs (call (.delete ⟨.job, Stack.objectStoreJob, p.ns⟩)) w₁ True (SameBut [] w) :=
    performs_call h₁ (by simp) (iff_of_true rfl trivial)
  refine hdelete.next fun _ w₂ h₂ => ?_
  have hrender : Performs (render .objectStore) w₂ True (SameBut [] w) :=
    (performs_render w₂ (by decide)).mono Iff.rfl fun _ => h₂.trans
  refine hrender.next fun manifest w₃ h₃ => ?_
  refine (performs_apply h₃ p _ manifest _).bind fun _ w₄ h₄ => ?_
  exact (performs_waitReady h₄ hp rfl rfl hdelay).bind fun _ w₅ h₅ => performs_condition h₅ ..

theorem performs_deployOperator (p : Plan) (w : MemoryCluster) :
    Performs (deployOperator p) w ((w.station.generate w.tlsFiles).1.isOk = true ∧ w.Met p .operator)
      (SameBut [] (w.withDisk (w.station.generate w.tlsFiles).2.disk)) := by
  refine ((performs_render_operator w).bind fun manifest w₁ h₁ =>
    (performs_apply h₁ p _ manifest _).bind fun _ w₂ h₂ => performs_waitReady_of_none h₂ p rfl).mono ?_
      fun _ => id
  exact and_assoc

theorem sameBut_logWarnings (w : MemoryCluster) (ws : List Warning) :
    SameBut [] w ((logWarnings ws).run answer w).2 := by
  induction ws generalizing w with
  | nil => exact .refl [] w
  | cons warning ws ih =>
      rw [logWarnings, Machine.warn, run_log_bind]
      exact (sameBut_logged w _).trans (ih _)

theorem performs_deployInstance (hp : WholeMillis p) (hdelay : w.behaviour.existsDelay = .zero) :
    Performs (deployInstance p) w
      ((w.station.disk.write p.places.manifest p.design.yaml).isOk = true ∧ w.Met p .serving)
      fun w' => ∃ d, SameBut [(workload p Stack.instanceName).label] (w.withDisk d) w' := by
  have hwarn : Performs (ExceptT.lift (logWarnings p.warnings)) w True (SameBut [] w) :=
    (Performs.lift _ w).mono Iff.rfl fun _ h => h ▸ sameBut_logWarnings w _
  refine hwarn.next fun _ w₁ h₁ => ?_
  have hwrite : Performs (write p.places.manifest p.design.yaml) w₁
      ((w.station.disk.write p.places.manifest p.design.yaml).isOk = true)
      fun w' => ∃ d, SameBut [] (w.withDisk d) w' := by
    refine (performs_write w₁ _ _).mono (by rw [h₁.disk]) ?_
    rintro w' ⟨d, h⟩
    exact ⟨d, h.behaviour.trans h₁.behaviour, h.tlsFiles.trans h₁.tlsFiles, h.disk,
      fun r hr => (h.pollsOf r hr).trans (h₁.pollsOf r hr)⟩
  refine hwrite.bind fun _ w₂ h₂ => ?_
  obtain ⟨d, h₂⟩ := h₂
  refine (performs_info h₂ ..).next fun _ w₃ h₃ => ?_
  refine (performs_apply h₃ p _ _ _).bind fun _ w₄ h₄ => ?_
  exact (performs_waitReady h₄ hp rfl rfl hdelay).mono Iff.rfl fun _ h => ⟨d, h⟩

theorem sameBut_present (w : MemoryCluster) (r : Resource) :
    SameBut [r.label] w (w.answerCall (.present r)).2 := by
  have heffect : (w.answerCall (.present r)).2 =
      ((w.record (callText (.present r))).countPoll r).pass w.behaviour.existsDelay := rfl
  rw [heffect]
  exact sameBut_query ..

theorem sameBut_lookForService (p : Plan) (w : MemoryCluster) :
    SameBut [Resource.label ⟨.service, Stack.instanceName, p.ns⟩] w ((lookForService p).run answer w).2 := by
  have hpresent : SameBut [Resource.label ⟨.service, Stack.instanceName, p.ns⟩] w
      ((attempt (.present ⟨.service, Stack.instanceName, p.ns⟩)).run answer w).2 := sameBut_present w _
  rw [lookForService, run_program_bind]
  generalize (attempt (.present ⟨.service, Stack.instanceName, p.ns⟩)).run answer w = out at hpresent ⊢
  obtain ⟨e | _ | _, w'⟩ := out
  · exact hpresent.trans (sameBut_logged ..).of_nil
  · exact hpresent.trans (sameBut_logged ..).of_nil
  · exact hpresent.trans (sameBut_logged ..).of_nil

theorem performs_publishAccess (p : Plan) (w : MemoryCluster) :
    Performs (publishAccess p) w True (SameBut [Resource.label ⟨.service, Stack.instanceName, p.ns⟩] w) := by
  have hlook : Performs (ExceptT.lift (lookForService p)) w True
      (SameBut [Resource.label ⟨.service, Stack.instanceName, p.ns⟩] w) :=
    (Performs.lift _ w).mono Iff.rfl fun _ h => h ▸ sameBut_lookForService p w
  refine hlook.next fun _ w₁ h₁ => (performs_info h₁ ..).next fun _ w₂ h₂ => ?_
  refine (performs_info h₂ ..).next fun _ w₃ h₃ => (performs_info h₃ ..).next fun _ w₄ h₄ => ?_
  have hrecord {labels : List String} {w w' : MemoryCluster} (h : SameBut labels w w') (key value : String) :
      Performs (Site.record key value) w' True (SameBut labels w) :=
    .of_run_ok rfl (h.trans ⟨rfl, rfl, rfl, fun _ _ => rfl⟩)
  exact (hrecord h₄ _ _).next fun _ w₅ h₅ => hrecord h₅ _ _

end Rollout.Rehearsal.MemoryCluster
