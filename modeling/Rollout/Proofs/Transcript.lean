import Rollout.Program

namespace Rollout.Program

variable {I : Interface} {α β σ : Type}

abbrev Event (I : Interface) : Type := (r : I.Request) × I.Answer r

def transcript (h : Handler I σ) : Program I α → σ → List (Event I)
  | .done _, _ => []
  | .ask r next, s => ⟨r, (h r s).1⟩ :: transcript h (next (h r s).1) (h r s).2

/-- The run of a program under some answers or other: what is asked and how it is answered, and what
the program comes to. -/
inductive Runs : Program I α → List (Event I) → α → Prop
  | done (a : α) : Runs (.done a) [] a
  | ask (r : I.Request) (next : I.Answer r → Program I α) (x : I.Answer r) {t : List (Event I)} {a : α}
      (h : Runs (next x) t a) : Runs (.ask r next) (⟨r, x⟩ :: t) a

theorem runs_transcript (h : Handler I σ) (p : Program I α) (s : σ) :
    Runs p (p.transcript h s) (p.run h s).1 := by
  induction p generalizing s with
  | done a => exact .done a
  | ask r next ih => exact .ask r next _ (ih _ _)

theorem transcript_bind (h : Handler I σ) (p : Program I α) (f : α → Program I β) (s : σ) :
    (p >>= f).transcript h s = p.transcript h s ++ (f (p.run h s).1).transcript h (p.run h s).2 := by
  change (p.bind f).transcript h s = _
  induction p generalizing s with
  | done a => rfl
  | ask r next ih =>
      rw [bind_ask, transcript, transcript, ih]
      rfl

theorem run_seq (h : Handler I σ) (p : Program I α) (f : α → Program I β) (s : σ) :
    (p >>= f).run h s = (f (p.run h s).1).run h (p.run h s).2 := run_bind h p f s

theorem exists_of_mem_transcript {h : Handler I σ} {p : Program I α} {s : σ} {e : Event I}
    (he : e ∈ p.transcript h s) : ∃ s', e.2 = (h e.1 s').1 := by
  induction p generalizing s with
  | done a => cases he
  | ask r next ih =>
      rcases List.mem_cons.1 he with rfl | he
      · exact ⟨s, rfl⟩
      · exact ih _ he

theorem runs_pure_iff {a b : α} {t : List (Event I)} :
    Runs (pure a) t b ↔ t = [] ∧ b = a := by
  constructor
  · intro h
    cases h
    exact ⟨rfl, rfl⟩
  · rintro ⟨rfl, rfl⟩
    exact .done _

theorem runs_ask_iff {r : I.Request} {next : I.Answer r → Program I α} {t : List (Event I)} {a : α} :
    Runs (.ask r next) t a ↔ ∃ x u, t = ⟨r, x⟩ :: u ∧ Runs (next x) u a := by
  constructor
  · intro h
    cases h with
    | ask _ _ x h => exact ⟨x, _, rfl, h⟩
  · rintro ⟨x, u, rfl, h⟩
    exact .ask r next x h

theorem runs_perform_iff {r : I.Request} {t : List (Event I)} {x : I.Answer r} :
    Runs (.perform r) t x ↔ t = [⟨r, x⟩] := by
  rw [perform, runs_ask_iff]
  constructor
  · rintro ⟨y, u, rfl, h⟩
    cases h
    rfl
  · rintro rfl
    exact ⟨x, [], rfl, .done x⟩

theorem runs_bind_iff {p : Program I α} {f : α → Program I β} {t : List (Event I)} {b : β} :
    Runs (p >>= f) t b ↔ ∃ u v a, t = u ++ v ∧ Runs p u a ∧ Runs (f a) v b := by
  change Runs (p.bind f) t b ↔ _
  induction p generalizing t with
  | done a =>
      constructor
      · intro h
        exact ⟨[], t, a, rfl, .done a, h⟩
      · rintro ⟨u, v, c, rfl, h, hf⟩
        cases h
        exact hf
  | ask r next ih =>
      rw [bind_ask, runs_ask_iff]
      constructor
      · rintro ⟨x, u, rfl, h⟩
        obtain ⟨v, w, a, rfl, hv, hw⟩ := (ih x).1 h
        exact ⟨⟨r, x⟩ :: v, w, a, rfl, .ask r next x hv, hw⟩
      · rintro ⟨u, v, a, rfl, h, hf⟩
        cases h with
        | ask _ _ x h => exact ⟨x, _, rfl, (ih x).2 ⟨_, v, a, rfl, h, hf⟩⟩

/-- Every request of the program is of a kind, whatever the answers. -/
def Asks (P : I.Request → Prop) : Program I α → Prop
  | .done _ => True
  | .ask r next => P r ∧ ∀ x, (next x).Asks P

variable {P : I.Request → Prop}

theorem Asks.pure (a : α) : Asks P (pure a : Program I α) := trivial

theorem Asks.perform {r : I.Request} (h : P r) : Asks P (perform r) := ⟨h, fun _ => trivial⟩

theorem Asks.mono {P' : I.Request → Prop} {p : Program I α} (hp : p.Asks P) (h : ∀ r, P r → P' r) :
    p.Asks P' := by
  induction p with
  | done a => trivial
  | ask r next ih => exact ⟨h r hp.1, fun x => ih x (hp.2 x)⟩

theorem Asks.bind {p : Program I α} {f : α → Program I β} (hp : p.Asks P) (hf : ∀ a, (f a).Asks P) :
    (p >>= f).Asks P := by
  change (p.bind f).Asks P
  induction p with
  | done a => exact hf a
  | ask r next ih => exact ⟨hp.1, fun x => ih x (hp.2 x)⟩

theorem Asks.bind_except {ε : Type} {p : ExceptT ε (Program I) α} {f : α → ExceptT ε (Program I) β}
    (hp : p.run.Asks P) (hf : ∀ a, (f a).run.Asks P) : (p >>= f).run.Asks P := by
  rw [ExceptT.run_bind]
  refine hp.bind fun x => ?_
  cases x with
  | error e => trivial
  | ok a => exact hf a

theorem Asks.lift {ε : Type} {p : Program I α} (hp : p.Asks P) :
    (ExceptT.lift p : ExceptT ε (Program I) α).run.Asks P := by
  rw [ExceptT.run_lift, map_eq_pure_bind]
  exact hp.bind fun _ => .pure _

theorem Asks.of_mem {p : Program I α} (hp : p.Asks P) {t : List (Event I)} {a : α} (h : Runs p t a)
    {e : Event I} (he : e ∈ t) : P e.1 := by
  induction h with
  | done a => simp at he
  | ask r next x h ih =>
      rcases List.mem_cons.1 he with rfl | he
      · exact hp.1
      · exact ih (hp.2 x) he

def stateAfter (h : Handler I σ) (s : σ) (t : List (Event I)) : σ := t.foldl (fun s e => (h e.1 s).2) s

theorem stateAfter_append (h : Handler I σ) (s : σ) (t u : List (Event I)) :
    stateAfter h s (t ++ u) = stateAfter h (stateAfter h s t) u := List.foldl_append

theorem stateAfter_transcript (h : Handler I σ) (p : Program I α) (s : σ) :
    stateAfter h s (p.transcript h s) = (p.run h s).2 := by
  induction p generalizing s with
  | done a => rfl
  | ask r next ih => exact ih _ _

theorem answer_of_transcript_eq {h : Handler I σ} {p : Program I α} {s : σ} {t u : List (Event I)} {e : Event I}
    (he : p.transcript h s = t ++ e :: u) : e.2 = (h e.1 (stateAfter h s t)).1 := by
  induction p generalizing s t with
  | done a => simp [transcript] at he
  | ask r next ih =>
      rw [transcript] at he
      cases t with
      | nil =>
          obtain ⟨rfl, -⟩ := List.cons.inj he
          rfl
      | cons e' t =>
          obtain ⟨rfl, hrest⟩ := List.cons.inj he
          have hanswer := ih _ hrest
          exact hanswer

theorem invariant_stateAfter {h : Handler I σ} {Q : σ → Prop} {t : List (Event I)} {s : σ} (hP : ∀ e ∈ t, P e.1)
    (hstep : ∀ r s, P r → Q s → Q (h r s).2) (hs : Q s) : Q (stateAfter h s t) := by
  induction t generalizing s with
  | nil => exact hs
  | cons e t ih =>
      obtain ⟨he, hP⟩ := List.forall_mem_cons.1 hP
      exact ih hP (hstep e.1 s he hs)

/-- No request stops the run before it is over. -/
def Unbroken (stops : I.Request → σ → Bool) (h : Handler I σ) : Program I α → σ → Prop
  | .done _, _ => True
  | .ask r next, s => stops r s = false ∧ Unbroken stops h (next (h r s).1) (h r s).2

variable {stops : I.Request → σ → Bool} {h : Handler I σ}

theorem Unbroken.of_asks {p : Program I α} (hp : p.Asks P) (hP : ∀ r s, P r → stops r s = false) (s : σ) :
    Unbroken stops h p s := by
  induction p generalizing s with
  | done a => trivial
  | ask r next ih => exact ⟨hP r s hp.1, ih _ (hp.2 _) _⟩

theorem unbroken_bind_iff {p : Program I α} {f : α → Program I β} {s : σ} :
    Unbroken stops h (p >>= f) s ↔ Unbroken stops h p s ∧ Unbroken stops h (f (p.run h s).1) (p.run h s).2 := by
  change Unbroken stops h (p.bind f) s ↔ _
  induction p generalizing s with
  | done a => exact (and_iff_right trivial).symm
  | ask r next ih =>
      rw [bind_ask, Unbroken, Unbroken, ih, and_assoc]
      rfl

theorem runUpTo_of_unbroken {p : Program I α} {s : σ} (hp : Unbroken stops h p s) :
    p.runUpTo stops h s = (some (p.run h s).1, (p.run h s).2) := by
  induction p generalizing s with
  | done a => rfl
  | ask r next ih =>
      rw [runUpTo, if_neg (Bool.eq_false_iff.1 hp.1)]
      exact ih _ hp.2

theorem run_of_runUpTo {p : Program I α} {s s' : σ} {a : α} (hp : p.runUpTo stops h s = (some a, s')) :
    Unbroken stops h p s ∧ p.run h s = (a, s') := by
  induction p generalizing s with
  | done a =>
      cases hp
      exact ⟨trivial, rfl⟩
  | ask r next ih =>
      rw [runUpTo] at hp
      split at hp
      case isTrue hstops => cases hp
      case isFalse hstops =>
        obtain ⟨hunbroken, hrun⟩ := ih _ hp
        exact ⟨⟨Bool.eq_false_iff.2 hstops, hunbroken⟩, hrun⟩

end Rollout.Program
