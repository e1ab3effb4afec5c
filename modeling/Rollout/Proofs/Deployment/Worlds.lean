import Rollout.Deployment.Run
import Rollout.Proofs.Site.Worlds

namespace Rollout

/-- What two runs come to that differ only in what clocks and random numbers have to do with. -/
def Deployment.SameOutcome (x y : Summary × Except Failure Unit) : Prop :=
  x.1.timeless = y.1.timeless ∧ x.2 = y.2

namespace Worlds.Discreet

open Cluster Deployment Program Site

variable {σ τ : Type} {W : Worlds Site.interface σ τ} {Q : Secret → Secret → Prop} {p : Plan} {c : Credentials}

section Waits

theorem pollFrom (hW : W.Discreet Q) (t : Target) (timeout elapsed : Nat) :
    W.Agree (Wait.pollFrom t timeout elapsed) (Wait.pollFrom t timeout elapsed) := by
  induction elapsed using Wait.pollFrom.induct t timeout with
  | case1 elapsed ih =>
      rw [Agree, Wait.pollFrom, ExceptT.run_mk]
      refine .ask (hW.steady (.poll ..) rfl) fun x => ?_
      cases hx : x.found? (Wait.queryLimit t timeout elapsed) with
      | some took => exact (hW.log _ _ _).bind_eq fun _ => .pure rfl
      | none =>
          dsimp only
          split
          case isTrue hend => exact (hW.log _ _ _).bind_eq fun _ => .pure rfl
          case isFalse hend =>
            refine (hW.log _ _ _).bind_eq fun _ => ?_
            exact (hW.steady (.machine (.pause _)) rfl).bind_eq fun _ => ih x hend

theorem untilExists (hW : W.Discreet Q) (t : Target) : W.Agree (Wait.untilExists t) (Wait.untilExists t) := by
  unfold Wait.untilExists
  split
  · exact (hW.steady (.machine (.hold _)) rfl).bind_eq fun _ => hW.pollFrom _ _ _
  · exact .pure _

theorem untilCondition (hW : W.Discreet Q) (r : Resource) (c : Condition) (limit : Duration) :
    W.Agree (Wait.untilCondition r c limit) (Wait.untilCondition r c limit) := by
  rw [Agree, Wait.untilCondition, ExceptT.run_mk]
  refine (hW.log _ _ _).bind_eq fun _ => (hW.steady (.cluster (.await r c limit)) rfl).bind_eq fun reply => ?_
  cases reply.outcome with
  | ok x => exact (hW.log _ _ _).bind_eq fun _ => .pure rfl
  | error e => exact (hW.log _ _ _).bind_eq fun _ => .pure rfl

end Waits

section Steps

theorem diagnose (hW : W.Discreet Q) (p : Plan) (c : Credentials) (w : Resource) :
    W.Matches Eq (diagnose p w) (diagnose (p.withCredentials c) w) :=
  (hW.diagnosed p.limits.probe w).bind fun _ _ _ => .pure rfl

theorem apply (hW : W.Discreet Q) (p : Plan) (c : Credentials) (t : Target) (manifest : String)
    (ns : Option String) : W.Agree (apply p t manifest ns) (apply (p.withCredentials c) t manifest ns) :=
  (hW.call rfl).onFailure (hW.diagnose p c _)

theorem waitReady (hW : W.Discreet Q) (p : Plan) (c : Credentials) (t : Target) :
    W.Agree (waitReady p t) (waitReady (p.withCredentials c) t) := by
  refine ((hW.untilExists t).onFailure (hW.diagnose p c _)).bind fun _ => ?_
  exact (hW.untilCondition _ _ _).onFailure (hW.diagnose p c _)

theorem recreateSecret (hW : W.Discreet Q) {s s' : Secret} (hQ : Q s s') (h : s.Alike s') :
    W.Agree (recreateSecret s) (recreateSecret s') := by
  rw [Deployment.recreateSecret, Deployment.recreateSecret, h.name, h.ns]
  exact (hW.call rfl).bind fun _ => (hW.createSecret hQ).bind fun _ => hW.info _ _

theorem ensureNamespace (hW : W.Discreet Q) (p : Plan) (c : Credentials) :
    W.Agree (ensureNamespace p) (ensureNamespace (p.withCredentials c)) := by
  refine (hW.call rfl).bind fun found => ?_
  cases found with
  | true => exact hW.info _ _
  | false => exact (hW.call rfl).bind fun _ => hW.info _ _

theorem deployDatabase (hW : W.Discreet Q) (hQ : Q p.databaseSecret (p.withCredentials c).databaseSecret) :
    W.Agree (deployDatabase p) (deployDatabase (p.withCredentials c)) := by
  refine (hW.render .database).bind fun manifest => (hW.apply p c _ manifest _).bind fun _ => ?_
  exact (hW.waitReady p c _).bind fun _ => hW.recreateSecret hQ (p.databaseSecret_alike c)

theorem deployObjectStore (hW : W.Discreet Q)
    (hQ : Q p.objectStoreSecret (p.withCredentials c).objectStoreSecret) :
    W.Agree (deployObjectStore p) (deployObjectStore (p.withCredentials c)) := by
  refine (hW.recreateSecret hQ (p.objectStoreSecret_alike c)).bind fun _ => (hW.call rfl).bind fun _ => ?_
  refine (hW.render .objectStore).bind fun manifest => (hW.apply p c _ manifest _).bind fun _ => ?_
  exact (hW.waitReady p c _).bind fun _ => (hW.untilCondition _ _ _).onFailure (hW.diagnose p c _)

theorem deployOperator (hW : W.Discreet Q) (p : Plan) (c : Credentials) :
    W.Agree (deployOperator p) (deployOperator (p.withCredentials c)) :=
  (hW.render .operator).bind fun manifest => (hW.apply p c _ manifest _).bind fun _ => hW.waitReady p c _

theorem logWarnings (hW : W.Discreet Q) (ws : List Warning) :
    W.Matches Eq (logWarnings ws) (logWarnings ws) := by
  induction ws with
  | nil => exact .pure rfl
  | cons w ws ih => exact (hW.log _ _ _).bind_eq fun _ => ih

theorem deployInstance (hW : W.Discreet Q) (p : Plan) (c : Credentials) :
    W.Agree (deployInstance p) (deployInstance (p.withCredentials c)) := by
  refine (Agree.lift (hW.logWarnings p.warnings)).bind fun _ => ?_
  refine (hW.write p.places.manifest p.design.yaml).bind fun _ => (hW.info _ _).bind fun _ => ?_
  exact (hW.apply p c _ _ _).bind fun _ => hW.waitReady p c _

theorem lookForService (hW : W.Discreet Q) (p : Plan) (c : Credentials) :
    W.Matches Eq (lookForService p) (lookForService (p.withCredentials c)) := by
  refine (hW.attempt rfl).bind_eq fun found => ?_
  match found with
  | .ok true => exact hW.log _ _ _
  | .ok false => exact hW.log _ _ _
  | .error e => exact hW.log _ _ _

theorem publishAccess (hW : W.Discreet Q) (p : Plan) (c : Credentials) :
    W.Agree (publishAccess p) (publishAccess (p.withCredentials c)) := by
  refine (Agree.lift (hW.lookForService p c)).bind fun _ => (hW.info _ _).bind fun _ => ?_
  refine (hW.info _ _).bind fun _ => (hW.info _ _).bind fun _ => ?_
  exact (hW.record _ _).bind fun _ => hW.record _ _

end Steps

section Run

variable (hW : W.Discreet Q) (hdatabase : Q p.databaseSecret (p.withCredentials c).databaseSecret)
  (hstore : Q p.objectStoreSecret (p.withCredentials c).objectStoreSecret)

include hW hdatabase hstore

theorem perform (s : Step) : W.Agree (perform p s) (perform (p.withCredentials c) s) := by
  cases s with
  | ns => exact hW.ensureNamespace p c
  | database => exact hW.deployDatabase hdatabase
  | objectStore => exact hW.deployObjectStore hstore
  | operator => exact hW.deployOperator p c
  | serving => exact hW.deployInstance p c
  | access => exact hW.publishAccess p c

theorem takeSteps (steps : List Step) :
    W.Matches (fun x y => x.1.map Stage.timeless = y.1.map Stage.timeless ∧ x.2 = y.2) (takeSteps p steps)
      (takeSteps (p.withCredentials c) steps) := by
  induction steps with
  | nil => exact .pure ⟨rfl, rfl⟩
  | cons s rest ih =>
      have henabled : s.isEnabled (p.withCredentials c) = s.isEnabled p := by cases s <;> rfl
      rw [Deployment.takeSteps, Deployment.takeSteps, henabled]
      split
      · refine (hW.log _ _ _).bind_eq fun _ => hW.now.bind fun begun begun' _ => ?_
        refine Matches.bind_eq (perform hW hdatabase hstore s) fun x => ?_
        cases x with
        | ok x =>
            refine hW.now.bind fun done done' _ => ih.bind fun x y hxy => .pure ⟨?_, hxy.2⟩
            rw [List.map_cons, List.map_cons, hxy.1]
            rfl
        | error e => exact (hW.log _ _ _).bind_eq fun _ => hW.now.bind fun done done' _ => .pure ⟨rfl, rfl⟩
      · refine (hW.log _ _ _).bind_eq fun _ => ih.bind fun x y hxy => .pure ⟨?_, hxy.2⟩
        rw [List.map_cons, List.map_cons, hxy.1]

omit hdatabase hstore

theorem release (f : Transient) : W.Matches Eq f.release f.release := by
  have hremove (path : String) : W.Matches Eq (Transient.removeFile path) (Transient.removeFile path) := by
    refine (hW.steady (.machine (.occupied path)) rfl).bind_eq fun found => ?_
    cases found with
    | false => exact .pure rfl
    | true =>
        refine (hW.steady (.machine (.remove path)) rfl).bind_eq fun x => ?_
        cases x with
        | ok x => exact (hW.log _ _ _).bind_eq fun _ => .pure rfl
        | error e => exact (hW.log _ _ _).bind_eq fun _ => .pure rfl
  have hall (paths : List String) : W.Matches Eq (Transient.removeFiles paths) (Transient.removeFiles paths) := by
    induction paths with
    | nil => exact .pure rfl
    | cons path paths ih => exact (hremove path).bind_eq fun _ => ih.bind_eq fun _ => .pure rfl
  rw [Transient.release]
  split
  · exact .pure rfl
  · exact (hall f.paths).bind_eq fun _ => .pure rfl

theorem logSummary {s s' : Summary} (h : s.timeless = s'.timeless) :
    W.Matches Eq (logSummary s) (logSummary s') := by
  have hstages (stages stages' : List Stage) (h : stages.map Stage.timeless = stages'.map Stage.timeless) :
      W.Matches Eq (logStages stages) (logStages stages') := by
    induction stages generalizing stages' with
    | nil =>
        obtain rfl := List.map_eq_nil_iff.1 h.symm
        exact .pure rfl
    | cons x xs ih =>
        obtain ⟨x', xs', rfl, hx, hxs⟩ := List.map_eq_cons_iff.1 h.symm
        have hstatus : x.status = x'.status := (congrArg Stage.status hx).symm
        rw [logStages, logStages, hstatus]
        exact (hW.logged _ _ (.summary _ hx.symm)).bind_eq fun _ => ih xs' hxs.symm
  have hns : s.ns = s'.ns := (congrArg Summary.ns h :)
  have hstatus : s.status = s'.status := (congrArg Summary.status h :)
  rw [Deployment.logSummary, Deployment.logSummary, hns, hstatus]
  refine (hW.log _ _ _).bind_eq fun _ => (hstages _ _ (congrArg Summary.stages h)).bind_eq fun _ => ?_
  exact hW.logged _ _ (.identified .info _ s.runId s'.runId _)

include hdatabase hstore

theorem runRecorded : W.Matches SameOutcome (runRecorded p) (runRecorded (p.withCredentials c)) := by
  have hstart (id id' : RunId) (text : String) : W.Matches Eq (Machine.info text (particulars p id))
      (Machine.info text (particulars (p.withCredentials c) id')) :=
    hW.logged _ _ (.identified .info text id id' _)
  refine hW.drawn.bind fun id id' _ => (hstart id id' _).bind_eq fun _ => ?_
  refine (takeSteps hW hdatabase hstore Step.all).bind fun x y hxy => ?_
  obtain ⟨stages, outcome⟩ := x
  obtain ⟨stages', outcome'⟩ := y
  obtain ⟨hstages, rfl : outcome = outcome'⟩ := hxy
  refine (hW.release _).bind_eq fun _ => ?_
  have hsummary (status : RunStatus) (url : Option String) :
      Summary.timeless ⟨id, p.ns, status, url, stages⟩ = Summary.timeless ⟨id', p.ns, status, url, stages'⟩ := by
    rw [Summary.timeless, Summary.timeless, hstages]
  exact (hW.logSummary (hsummary _ _)).bind_eq fun _ => .pure ⟨hsummary _ _, rfl⟩

end Run

end Worlds.Discreet

end Rollout
