import Rollout.Diagnosis.Collect
import Rollout.Proofs.Likeness
import Rollout.Proofs.Worlds

namespace Rollout

open Cluster Program Site

/-- A request that is the same in any two runs of a deployment, and whose answer has to be. -/
def Site.Request.isSteady : Request → Bool
  | .cluster (.createSecret _) => false
  | .cluster c => !c.isDiagnostic
  | .machine (.log _) | .machine .now | .machine .drawId => false
  | _ => true

namespace Worlds

variable {α β σ τ : Type} {W : Worlds Site.interface σ τ} {Q : Secret → Secret → Prop}

/-- Neither world lets on on which side it is, as long as the secrets that it is given are in the relation.
Clocks and random numbers may differ, and so may everything that a diagnosis brings to light. -/
structure Discreet (W : Worlds Site.interface σ τ) (Q : Secret → Secret → Prop) : Prop where
  steady : ∀ r : Request, r.isSteady = true →
    W.Matches Eq (perform (I := Site.interface) r) (perform (I := Site.interface) r)
  created : ∀ s s', Q s s' → W.Matches Eq (attempt (.createSecret s)) (attempt (.createSecret s'))
  logged : ∀ e e' : LogEntry, e.Alike e' →
    W.Matches Eq (perform (I := Site.interface) (.machine (.log e)))
      (perform (I := Site.interface) (.machine (.log e')))
  now : W.Matches (fun _ _ => True) Machine.now Machine.now
  drawn : W.Matches (fun _ _ => True) Machine.drawId Machine.drawId
  diagnosed : ∀ limit w,
    W.Matches (fun _ _ => True) (Diagnosis.collectAndLog limit w) (Diagnosis.collectAndLog limit w)

def Agree (W : Worlds Site.interface σ τ) (a b : Action α) : Prop := W.Matches Eq a.run b.run

namespace Agree

theorem pure (x : α) : W.Agree (pure x) (pure x) := Matches.pure rfl

theorem bind {a b : Action α} {f g : α → Action β} (h : W.Agree a b) (hfg : ∀ x, W.Agree (f x) (g x)) :
    W.Agree (a >>= f) (b >>= g) := by
  rw [Agree, ExceptT.run_bind, ExceptT.run_bind]
  refine Matches.bind_eq h fun x => ?_
  cases x with
  | error e => exact .pure rfl
  | ok x => exact hfg x

theorem lift {p q : Program Site.interface α} (h : W.Matches Eq p q) :
    W.Agree (ExceptT.lift p) (ExceptT.lift q) := by
  rw [Agree, ExceptT.run_lift, ExceptT.run_lift, map_eq_pure_bind, map_eq_pure_bind]
  exact h.bind_eq fun x => .pure rfl

theorem onFailure {a b : Action α} {after after' : Program Site.interface Unit} (h : W.Agree a b)
    (hafter : W.Matches Eq after after') : W.Agree (onFailure a after) (onFailure b after') := by
  rw [Agree, Site.onFailure, Site.onFailure, ExceptT.run_mk, ExceptT.run_mk]
  refine Matches.bind_eq h fun x => ?_
  cases x with
  | error e => exact hafter.bind_eq fun _ => .pure rfl
  | ok x => exact .pure rfl

end Agree

namespace Discreet

theorem log (hW : W.Discreet Q) (level : Level) (text : String) (fields : List (String × String)) :
    W.Matches Eq (Machine.log level text fields) (Machine.log level text fields) :=
  hW.logged _ _ (.same _)

theorem info (hW : W.Discreet Q) (text : String) (fields : List (String × String)) :
    W.Agree (info text fields) (info text fields) := .lift (hW.log _ text fields)

theorem attempt (hW : W.Discreet Q) {c : Call} (hc : Request.isSteady (.cluster c) = true) :
    W.Matches Eq (attempt c) (attempt c) := by
  have hbind : Site.attempt c = perform (I := Site.interface) (.cluster c) >>= fun reply => Pure.pure reply.outcome :=
    rfl
  rw [hbind]
  exact (hW.steady _ hc).bind_eq fun reply => .pure rfl

theorem call (hW : W.Discreet Q) {c : Call} (hc : Request.isSteady (.cluster c) = true) :
    W.Agree (call c) (call c) := hW.attempt hc

theorem createSecret (hW : W.Discreet Q) {s s' : Secret} (h : Q s s') :
    W.Agree (Site.call (.createSecret s)) (Site.call (.createSecret s')) := hW.created s s' h

theorem render (hW : W.Discreet Q) (part : Part) : W.Agree (render part) (render part) :=
  hW.steady _ rfl

theorem record (hW : W.Discreet Q) (key value : String) : W.Agree (record key value) (record key value) :=
  hW.steady _ rfl

theorem write (hW : W.Discreet Q) (path text : String) : W.Agree (write path text) (write path text) := by
  rw [Agree, Site.write, ExceptT.run_mk]
  exact (hW.steady (.machine (.write path text)) rfl).bind_eq fun x => .pure rfl

end Discreet

end Worlds

end Rollout
