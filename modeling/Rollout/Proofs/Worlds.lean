import Mathlib.Data.List.Forall2
import Rollout.Proofs.Transcript

namespace Rollout

open Program

variable {I J : Interface} {α β γ δ σ τ : Type}

/-- Two worlds side by side, each of which answers requests, and the pairs of states that count as alike. -/
structure Worlds (I : Interface) (σ τ : Type) where
  left : Handler I σ
  right : Handler I τ
  alike : σ → τ → Prop

namespace Worlds

variable {W : Worlds I σ τ} {S S' : α → β → Prop}

/-- From states that are alike, the programs come to values in the relation and leave states that are
alike. -/
def Matches (W : Worlds I σ τ) (S : α → β → Prop) (p : Program I α) (q : Program I β) : Prop :=
  ∀ s t, W.alike s t →
    S (p.run W.left s).1 (q.run W.right t).1 ∧ W.alike (p.run W.left s).2 (q.run W.right t).2

namespace Matches

theorem mono {p : Program I α} {q : Program I β} (h : W.Matches S p q) (hS : ∀ a b, S a b → S' a b) :
    W.Matches S' p q := by
  intro s t hst
  obtain ⟨hvalue, hstate⟩ := h s t hst
  exact ⟨hS _ _ hvalue, hstate⟩

theorem pure {a : α} {b : β} (h : S a b) : W.Matches S (pure a) (pure b) := fun _ _ hst => ⟨h, hst⟩

theorem bind {p : Program I α} {q : Program I β} {f : α → Program I γ} {g : β → Program I δ}
    {T : γ → δ → Prop} (h : W.Matches S p q) (hfg : ∀ a b, S a b → W.Matches T (f a) (g b)) :
    W.Matches T (p >>= f) (q >>= g) := by
  intro s t hst
  obtain ⟨hvalue, hstate⟩ := h s t hst
  have hrest := hfg _ _ hvalue _ _ hstate
  rwa [← run_bind, ← run_bind] at hrest

theorem bind_eq {p q : Program I α} {f : α → Program I γ} {g : α → Program I δ} {T : γ → δ → Prop}
    (h : W.Matches Eq p q) (hfg : ∀ a, W.Matches T (f a) (g a)) : W.Matches T (p >>= f) (q >>= g) := by
  refine h.bind fun a b hab => ?_
  rw [hab]
  exact hfg b

theorem ask {r : I.Request} {next : I.Answer r → Program I α} {next' : I.Answer r → Program I β}
    (h : W.Matches Eq (perform r) (perform r)) (hnext : ∀ x, W.Matches S (next x) (next' x)) :
    W.Matches S (.ask r next) (.ask r next') := h.bind_eq hnext

theorem of_asks {P : I.Request → Prop} {p : Program I α} (hp : p.Asks P)
    (hP : ∀ r, P r → W.Matches Eq (perform r) (perform r)) : W.Matches Eq p p := by
  induction p with
  | done a => exact .pure rfl
  | ask r next ih => exact .ask (hP r hp.1) fun x => ih x (hp.2 x)

end Matches

theorem alike_run_left {P : I.Request → Prop} {p : Program I α} (hp : p.Asks P)
    (hP : ∀ r s t, P r → W.alike s t → W.alike (W.left r s).2 t) {s : σ} {t : τ} (h : W.alike s t) :
    W.alike (p.run W.left s).2 t := by
  induction p generalizing s with
  | done a => exact h
  | ask r next ih => exact ih _ (hp.2 _) (hP r s t hp.1 h)

theorem alike_run_right {P : I.Request → Prop} {p : Program I α} (hp : p.Asks P)
    (hP : ∀ r s t, P r → W.alike s t → W.alike s (W.right r t).2) {s : σ} {t : τ} (h : W.alike s t) :
    W.alike s (p.run W.right t).2 := by
  induction p generalizing t with
  | done a => exact h
  | ask r next ih => exact ih _ (hp.2 _) (hP r s t hp.1 h)

/-- What is asked alike is answered alike. -/
def Respects (W : Worlds I σ τ) (E : Event I → Event I → Prop) : Prop :=
  ∀ ⦃r r' x x'⦄, E ⟨r, x⟩ ⟨r', x'⟩ → W.Matches (fun y y' => E ⟨r, y⟩ ⟨r', y'⟩) (perform r) (perform r')

section Recording

def recording (h : Handler I σ) : Handler I (σ × List (Event I)) := fun r s =>
  ((h r s.1).1, (h r s.1).2, s.2 ++ [⟨r, (h r s.1).1⟩])

theorem run_recording (h : Handler I σ) (p : Program I α) (s : σ) (u : List (Event I)) :
    p.run (recording h) (s, u) = ((p.run h s).1, (p.run h s).2, u ++ p.transcript h s) := by
  induction p generalizing s u with
  | done a => rw [transcript, List.append_nil, run, run]
  | ask r next ih =>
      rw [run, transcript]
      refine (ih _ _ _).trans ?_
      rw [List.append_assoc]
      rfl

/-- The same worlds, in which the accounts have to be alike too. -/
def recorded (W : Worlds I σ τ) (E : Event I → Event I → Prop) :
    Worlds I (σ × List (Event I)) (τ × List (Event I)) where
  left := recording W.left
  right := recording W.right
  alike s t := W.alike s.1 t.1 ∧ List.Forall₂ E s.2 t.2

variable {E : Event I → Event I → Prop}

theorem Respects.recorded (h : W.Respects E) : (W.recorded E).Respects E := by
  rintro r r' x x' hE ⟨s, u⟩ ⟨t, v⟩ ⟨hst, huv⟩
  obtain ⟨hvalue, hstate⟩ := h hE s t hst
  exact ⟨hvalue, hstate, List.rel_append huv (.cons hvalue .nil)⟩

theorem Matches.of_recorded {p : Program I α} {q : Program I β} (h : (W.recorded E).Matches S p q) {s : σ}
    {t : τ} (hst : W.alike s t) :
    S (p.run W.left s).1 (q.run W.right t).1 ∧
      List.Forall₂ E (p.transcript W.left s) (q.transcript W.right t) ∧
        W.alike (p.run W.left s).2 (q.run W.right t).2 := by
  obtain ⟨hvalue, hstate, haccount⟩ := h (s, []) (t, []) ⟨hst, .nil⟩
  change S (p.run (recording W.left) (s, [])).1 (q.run (recording W.right) (t, [])).1 at hvalue
  change W.alike (p.run (recording W.left) (s, [])).2.1 (q.run (recording W.right) (t, [])).2.1 at hstate
  change List.Forall₂ E (p.run (recording W.left) (s, [])).2.2 (q.run (recording W.right) (t, [])).2.2 at haccount
  rw [run_recording, run_recording] at hvalue hstate haccount
  exact ⟨hvalue, haccount, hstate⟩

end Recording

section Interpreting

def through (W : Worlds J σ τ) (f g : (r : I.Request) → Program J (I.Answer r)) : Worlds I σ τ where
  left r s := (f r).run W.left s
  right r t := (g r).run W.right t
  alike := W.alike

theorem run_interpret (h : Handler J σ) (f : (r : I.Request) → Program J (I.Answer r)) (p : Program I α)
    (s : σ) : (p.interpret f).run h s = p.run (fun r s => (f r).run h s) s := by
  induction p generalizing s with
  | done a => rfl
  | ask r next ih =>
      rw [interpret, run_bind]
      exact ih _ _

theorem Matches.interpret {W : Worlds J σ τ} {f g : (r : I.Request) → Program J (I.Answer r)}
    {p : Program I α} {q : Program I β} (h : (W.through f g).Matches S p q) :
    W.Matches S (p.interpret f) (q.interpret g) := by
  intro s t hst
  rw [run_interpret, run_interpret]
  exact h s t hst

end Interpreting

end Worlds

end Rollout
