import Rollout.Proofs.Rehearsal.Likeness

namespace Rollout

open Deployment Program Rehearsal

namespace Host

def started (t : List Event) : List Command := t.filterMap fun e => match e with
  | ⟨.run c, _⟩ => some c
  | ⟨.machine _, _⟩ => none

theorem args_started_eq {t u : List Event} (h : List.Forall₂ Event.Alike t u) :
    (started t).map Command.args = (started u).map Command.args := by
  induction h with
  | nil => rfl
  | @cons e e' t u he _ ih =>
      cases he with
      | same =>
          match e with
          | ⟨.run c, ran⟩ => exact congrArg (c.args :: ·) ih
          | ⟨.machine r, x⟩ => exact ih
      | created c => exact congrArg (c.args :: ·) ih
      | machine => exact ih

end Host

/-- Nothing of a run shows which of two plans it was for, but the values of the secrets that it creates. -/
structure Indistinguishable (p q : Plan) : Prop where
  outline : p.outline = q.outline
  design : p.design = q.design
  warnings : p.warnings = q.warnings
  databaseSecret : p.databaseSecret.Alike q.databaseSecret ∧ p.databaseSecret.outline = q.databaseSecret.outline
  objectStoreSecret :
    p.objectStoreSecret.Alike q.objectStoreSecret ∧ p.objectStoreSecret.outline = q.objectStoreSecret.outline
  site : ∀ {σ τ : Type} (W : Worlds Site.interface σ τ), W.Respects Site.Event.Alike →
    ∀ s t, W.alike s t →
      SameOutcome ((runRecorded p).run W.left s).1 ((runRecorded q).run W.right t).1 ∧
        List.Forall₂ Site.Event.Alike ((runRecorded p).transcript W.left s) ((runRecorded q).transcript W.right t) ∧
          W.alike ((runRecorded p).run W.left s).2 ((runRecorded q).run W.right t).2
  cluster : ∀ w : MemoryCluster,
    SameOutcome ((runRecorded p).run MemoryCluster.answer w).1 ((runRecorded q).run MemoryCluster.answer w).1 ∧
      MemoryCluster.Alike ((runRecorded p).run MemoryCluster.answer w).2
        ((runRecorded q).run MemoryCluster.answer w).2
  host : ∀ {σ τ : Type} (W : Worlds Host.interface σ τ), W.Respects Host.Event.Alike →
    ∀ s t, W.alike s t →
      SameResult (p.deploy.run.run W.left s).1 (q.deploy.run.run W.right t).1 ∧
        List.Forall₂ Host.Event.Alike (p.deploy.run.transcript W.left s) (q.deploy.run.transcript W.right t) ∧
          (Host.started (p.deploy.run.transcript W.left s)).map Command.args =
            (Host.started (q.deploy.run.transcript W.right t)).map Command.args ∧
            W.alike (p.deploy.run.run W.left s).2 (q.deploy.run.run W.right t).2
  commands : ∀ w : Commands,
    SameResult (p.deploy.run.run Commands.answer w).1 (q.deploy.run.run Commands.answer w).1 ∧
      Commands.Alike (p.deploy.run.run Commands.answer w).2 (q.deploy.run.run Commands.answer w).2

/-- Credentials stay secret: two plans that differ in nothing else are not to be told apart. -/
theorem indistinguishable_withCredentials (p : Plan) (c : Credentials) :
    Indistinguishable p (p.withCredentials c) where
  outline := rfl
  design := rfl
  warnings := rfl
  databaseSecret := ⟨p.databaseSecret_alike c, (p.databaseSecret_alike c).outline_eq⟩
  objectStoreSecret := ⟨p.objectStoreSecret_alike c, (p.objectStoreSecret_alike c).outline_eq⟩
  site _ hW _ _ hst := (hW.runRecorded p c).of_recorded hst
  cluster w := by
    have hrun := (MemoryCluster.respects.runRecorded p c).of_recorded (.refl w)
    exact ⟨hrun.1, hrun.2.2⟩
  host _ hW _ _ hst := by
    obtain ⟨hresult, hasked, hstate⟩ := (hW.deploy p c).of_recorded hst
    exact ⟨hresult, hasked, Host.args_started_eq hasked, hstate⟩
  commands w := by
    have hrun := (Commands.respects.deploy p c).of_recorded (.refl w)
    exact ⟨hrun.1, hrun.2.2⟩

end Rollout
