import Rollout.Proofs.Deployment.Course

namespace Rollout

open Cluster Program Site

/-- What is logged does not announce a step. -/
def Deployment.Unannounced (e : LogEntry) : Prop := ∀ s, e ≠ announcement s

theorem Deployment.unannounced_of_keys {e : LogEntry} (h : e.fields.map Prod.fst ≠ ["stage"]) : Unannounced e := by
  rintro s rfl
  exact h rfl

theorem Deployment.unannounced_of_level {e : LogEntry} (h : e.level ≠ .info) : Unannounced e := by
  rintro s rfl
  exact h rfl

/-- What a wait for the existence of a target asks. -/
def Wait.Asked (t : Target) : Request → Prop
  | .poll r limit => r = t.resource ∧
      ∃ timeout elapsed, t.existsWithin = some timeout ∧ limit = queryLimit t timeout.nanos elapsed
  | .machine (.log e) => Deployment.Unannounced e
  | .machine (.hold _) | .machine (.pause _) => True
  | _ => False

theorem Wait.asks_pollFrom {t : Target} {timeout : Duration} (h : t.existsWithin = some timeout) (elapsed : Nat) :
    (pollFrom t timeout.nanos elapsed).run.Asks fun r : Request => Asked t r ∧ ∀ s, r ≠ .machine (.hold s) := by
  have hlog {level : Level} {text : String} {fields : List (String × String)}
      (hkeys : fields.map Prod.fst ≠ ["stage"]) :
      (Machine.log level text fields : Program interface Unit).Asks
        fun r : Request => Asked t r ∧ ∀ s, r ≠ .machine (.hold s) :=
    .perform ⟨Deployment.unannounced_of_keys hkeys, fun _ he => by cases he⟩
  induction elapsed using pollFrom.induct t timeout.nanos with
  | case1 elapsed ih =>
      rw [pollFrom, ExceptT.run_mk]
      refine ⟨⟨⟨rfl, timeout, elapsed, h, rfl⟩, fun _ he => by cases he⟩, fun x => ?_⟩
      dsimp only
      cases hx : x.found? (queryLimit t timeout.nanos elapsed) with
      | some took => exact (hlog (by simp)).bind fun _ => .pure _
      | none =>
          dsimp only
          split
          case isTrue hend => exact (hlog (by simp)).bind fun _ => .pure _
          case isFalse hend =>
            refine (hlog (by simp)).bind fun _ => ?_
            exact Asks.bind (.perform ⟨trivial, fun _ he => by cases he⟩) fun _ => ih x hend

theorem Wait.asks_untilExists (t : Target) : (untilExists t).run.Asks (Asked t) := by
  cases h : t.existsWithin with
  | some timeout =>
      rw [untilExists_of_some h]
      exact ⟨trivial, fun _ => (asks_pollFrom h 0).mono fun _ hr => hr.1⟩
  | none =>
      rw [untilExists_of_none h]
      exact .pure _

namespace Site

variable {α β : Type} {P : Request → Prop} {W : Target → Prop}

/-- A program of certain requests, and of waits for the existence of certain targets. Such a wait is taken as a
whole. -/
inductive Comprises (P : Request → Prop) (W : Target → Prop) : Program interface α → Prop
  | done (a : α) : Comprises P W (.done a)
  | ask (r : Request) (next : Answer r → Program interface α) (hr : P r) (h : ∀ x, Comprises P W (next x)) :
      Comprises P W (.ask r next)
  | wait (t : Target) (next : Except Failure Unit → Program interface α) (ht : W t)
      (h : ∀ x, Comprises P W (next x)) : Comprises P W ((Wait.untilExists t).run >>= next)

namespace Comprises

theorem of_asks {p : Program interface α} (hp : p.Asks P) : Comprises P W p := by
  induction p with
  | done a => exact .done a
  | ask r next ih => exact .ask r next hp.1 fun x => ih x (hp.2 x)

theorem bind {p : Program interface α} {f : α → Program interface β} (hp : Comprises P W p)
    (hf : ∀ a, Comprises P W (f a)) : Comprises P W (p >>= f) := by
  induction hp with
  | done a => exact hf a
  | ask r next hr h ih => exact .ask r _ hr fun x => ih x
  | wait t next ht h ih =>
      rw [LawfulMonad.bind_assoc]
      exact .wait t _ ht fun x => ih x

theorem untilExists {t : Target} (ht : W t) : Comprises P W (Wait.untilExists t).run := by
  have hwait : Comprises P W ((Wait.untilExists t).run >>= Pure.pure) := .wait t _ ht fun x => .done x
  rwa [bind_pure] at hwait

theorem bind_except {a : Action α} {f : α → Action β} (ha : Comprises P W a.run)
    (hf : ∀ x, Comprises P W (f x).run) : Comprises P W (a >>= f).run := by
  rw [ExceptT.run_bind]
  refine ha.bind fun x => ?_
  cases x with
  | ok x => exact hf x
  | error e => exact .done _

theorem onFailure {a : Action α} {after : Program interface Unit} (ha : Comprises P W a.run)
    (hafter : after.Asks P) : Comprises P W (onFailure a after).run := by
  rw [Site.onFailure, ExceptT.run_mk]
  refine ha.bind fun x => ?_
  cases x with
  | ok x => exact .done _
  | error e => exact (of_asks hafter).bind fun _ => .done _

theorem mono {P' : Request → Prop} {W' : Target → Prop} {p : Program interface α} (hp : Comprises P W p)
    (hP : ∀ r, P r → P' r) (hW : ∀ t, W t → W' t) : Comprises P' W' p := by
  induction hp with
  | done a => exact .done a
  | ask r next hr h ih => exact .ask r next (hP r hr) ih
  | wait t next ht h ih => exact .wait t next (hW t ht) ih

theorem asks {p : Program interface α} (hp : Comprises P W p) :
    p.Asks fun r => P r ∨ ∃ t, W t ∧ Wait.Asked t r := by
  induction hp with
  | done a => trivial
  | ask r next hr h ih => exact ⟨.inl hr, ih⟩
  | wait t next ht h ih => exact ((Wait.asks_untilExists t).mono fun r hr => .inr ⟨t, ht, hr⟩).bind ih

end Comprises

end Site

namespace Deployment

variable (p : Plan) (s : Step)

/-- What a step asks apart from waits for existence. It announces no step, only access looks for a resource and records
results, and only the instance has a file written, which is its manifest. -/
def Admits (p : Plan) (s : Step) : Request → Prop
  | .cluster (.present _) => s = .access
  | .cluster _ | .render _ => True
  | .poll .. => False
  | .record .. => s = .access
  | .machine (.log e) => Unannounced e
  | .machine (.write path text) => s = .serving ∧ path = p.places.manifest ∧ text = p.design.yaml
  | .machine _ => False

theorem admits_of_isSurvey {r : Request} (h : r.isSurvey = true) : Admits p s r := by
  match r with
  | .cluster c =>
      cases c with
      | present => cases h
      | _ => trivial
  | .machine (.log e) =>
      have hlevel : e.level = .warn := eq_of_beq h
      exact unannounced_of_level (by simp [hlevel])

theorem asks_diagnose (w : Resource) : (diagnose p w).Asks (Admits p s) :=
  (((Diagnosis.surveys_collectAndLog ..).bind fun _ => .pure _ : Surveys (diagnose p w))).mono fun _ =>
    admits_of_isSurvey p s

section Parts

variable {W : Target → Prop}

theorem comprises_info {text : String} {fields : List (String × String)} (h : fields.map Prod.fst ≠ ["stage"]) :
    Comprises (Admits p s) W (info text fields).run := .of_asks (.lift (.perform (unannounced_of_keys h)))

theorem comprises_call (c : Call) (hc : Admits p s (.cluster c) := by trivial) :
    Comprises (Admits p s) W (call c).run :=
  .of_asks (⟨hc, fun _ => trivial⟩ : (attempt c).Asks _)

theorem comprises_render (part : Part) : Comprises (Admits p s) W (render part).run := .of_asks (.perform trivial)

theorem comprises_apply (t : Target) (manifest : String) (ns : Option String) :
    Comprises (Admits p s) W (apply p t manifest ns).run := (comprises_call ..).onFailure (asks_diagnose ..)

theorem comprises_untilCondition (r : Resource) (c : Condition) (limit : Duration) (w : Resource) :
    Comprises (Admits p s) W (onFailure (Wait.untilCondition r c limit) (diagnose p w)).run := by
  refine Comprises.onFailure (.of_asks ?_) (asks_diagnose ..)
  rw [Wait.untilCondition, ExceptT.run_mk]
  refine Asks.bind (.perform (unannounced_of_keys (by simp))) fun _ => Asks.bind (.perform trivial) fun reply => ?_
  cases reply.outcome with
  | ok x => exact Asks.bind (.perform (unannounced_of_keys (by simp))) fun _ => .pure _
  | error e => exact Asks.bind (.perform (unannounced_of_keys (by simp))) fun _ => .pure _

theorem comprises_waitReady {t : Target} (ht : W t) : Comprises (Admits p s) W (waitReady p t).run :=
  ((Comprises.untilExists ht).onFailure (asks_diagnose ..)).bind_except fun _ => comprises_untilCondition ..

theorem comprises_recreateSecret (secret : Secret) : Comprises (Admits p s) W (recreateSecret secret).run :=
  (comprises_call ..).bind_except fun _ => (comprises_call ..).bind_except fun _ => comprises_info p s (by simp)

theorem asks_logWarnings (ws : List Warning) : (logWarnings ws).Asks (Admits p s) := by
  induction ws with
  | nil => exact .pure _
  | cons w ws ih => exact Asks.bind (.perform (unannounced_of_level (by simp))) fun _ => ih

end Parts

/-- A step is a program of what it asks and of waits for its target. -/
theorem comprises_perform : Comprises (Admits p s) (fun t => s.target? p = some t) (perform p s).run := by
  cases s with
  | ns =>
      refine (comprises_call ..).bind_except fun found => ?_
      cases found with
      | true => exact comprises_info _ _ (by simp)
      | false => exact (comprises_call ..).bind_except fun _ => comprises_info _ _ (by simp)
  | database =>
      refine (comprises_render ..).bind_except fun manifest => (comprises_apply ..).bind_except fun _ => ?_
      refine Comprises.bind_except (comprises_waitReady _ _ ?_) fun _ => comprises_recreateSecret ..
      rfl
  | objectStore =>
      refine (comprises_recreateSecret ..).bind_except fun _ => (comprises_call ..).bind_except fun _ => ?_
      refine (comprises_render ..).bind_except fun manifest => (comprises_apply ..).bind_except fun _ => ?_
      refine Comprises.bind_except (comprises_waitReady _ _ ?_) fun _ => comprises_untilCondition ..
      rfl
  | operator =>
      refine (comprises_render ..).bind_except fun manifest => (comprises_apply ..).bind_except fun _ => ?_
      exact comprises_waitReady _ _ rfl
  | serving =>
      refine (Comprises.of_asks (.lift (asks_logWarnings ..))).bind_except fun _ => ?_
      refine Comprises.bind_except (.of_asks (Asks.bind (.perform ⟨rfl, rfl, rfl⟩) fun _ => .pure _)) fun _ => ?_
      refine (comprises_info _ _ (by simp)).bind_except fun _ => (comprises_apply ..).bind_except fun _ => ?_
      exact comprises_waitReady _ _ rfl
  | access =>
      have hlook : (lookForService p).Asks (Admits p .access) := by
        refine Asks.bind ⟨rfl, fun _ => trivial⟩ fun found => ?_
        match found with
        | .ok true => exact .perform (unannounced_of_keys (by simp))
        | .ok false => exact .perform (unannounced_of_keys (by simp))
        | .error e => exact .perform (unannounced_of_keys (by simp))
      have hrecord (key value : String) : Comprises (Admits p .access) (fun t => Step.access.target? p = some t)
          (record key value).run := .of_asks (.perform rfl)
      refine (Comprises.of_asks (.lift hlook)).bind_except fun _ => (comprises_info _ _ (by simp)).bind_except fun _ => ?_
      refine (comprises_info _ _ (by simp)).bind_except fun _ => (comprises_info _ _ (by simp)).bind_except fun _ => ?_
      exact (hrecord ..).bind_except fun _ => hrecord ..

def Clears (paths : List String) : Request → Prop
  | .machine (.log e) => Unannounced e
  | .machine (.occupied path) | .machine (.remove path) => path ∈ paths
  | _ => False

theorem asks_removeFiles {paths all : List String} (h : paths ⊆ all) :
    (Transient.removeFiles paths : Program interface Nat).Asks (Clears all) := by
  induction paths with
  | nil => exact .pure _
  | cons path paths ih =>
      obtain ⟨hpath, hpaths⟩ := List.cons_subset.1 h
      refine Asks.bind (Asks.bind (.perform hpath) fun found => ?_) fun _ => (ih hpaths).bind fun _ => .pure _
      cases found with
      | false => exact .pure _
      | true =>
          refine Asks.bind (.perform hpath) fun x => ?_
          cases x with
          | ok => exact Asks.bind (.perform (unannounced_of_keys (by simp))) fun _ => .pure _
          | error => exact Asks.bind (.perform (unannounced_of_keys (by simp))) fun _ => .pure _

theorem asks_release (f : Transient) : (f.release : Program interface _).Asks (Clears f.paths) := by
  rw [Transient.release]
  split
  · exact .pure _
  · exact (asks_removeFiles (List.Subset.refl _)).bind fun _ => .pure _

def Targeted (p : Plan) (t : Target) : Prop := ∃ s : Step, s.isEnabled p = true ∧ s.target? p = some t

end Deployment

end Rollout
