namespace Rollout

structure Interface where
  Request : Type
  Answer : Request → Type

/-- A program that asks one thing after another and goes on with each answer. It has no effect of its
own: what the requests do is up to whoever answers them. -/
inductive Program (I : Interface) (α : Type) : Type
  | done (a : α)
  | ask (r : I.Request) (next : I.Answer r → Program I α)

def Handler (I : Interface) (σ : Type) : Type := (r : I.Request) → σ → I.Answer r × σ

namespace Program

variable {I J : Interface} {α β γ σ : Type}

def bind : Program I α → (α → Program I β) → Program I β
  | .done a, f => f a
  | .ask r next, f => .ask r fun x => (next x).bind f

instance : Monad (Program I) where
  pure := .done
  bind := bind

def perform (r : I.Request) : Program I (I.Answer r) := .ask r .done

def run (h : Handler I σ) : Program I α → σ → α × σ
  | .done a, s => (a, s)
  | .ask r next, s =>
    let (x, s') := h r s
    run h (next x) s'

/-- A run that may be broken off: what the program comes to, unless it comes to a request that stops it before,
and the state that is left. -/
def runUpTo (stops : I.Request → σ → Bool) (h : Handler I σ) : Program I α → σ → Option α × σ
  | .done a, s => (some a, s)
  | .ask r next, s =>
    if stops r s then (none, s)
    else
      let (x, s') := h r s
      runUpTo stops h (next x) s'

/-- Carries out every request as a program over another interface. -/
def interpret (t : (r : I.Request) → Program J (I.Answer r)) : Program I α → Program J α
  | .done a => .done a
  | .ask r next => (t r).bind fun x => interpret t (next x)

@[simp]
theorem bind_done (a : α) (f : α → Program I β) : (Program.done a).bind f = f a := rfl

@[simp]
theorem bind_ask (r : I.Request) (next : I.Answer r → Program I α) (f : α → Program I β) :
    (Program.ask r next).bind f = .ask r fun x => (next x).bind f := rfl

theorem bind_done_right (p : Program I α) : p.bind .done = p := by
  induction p with
  | done a => rfl
  | ask r next ih => simp [ih]

theorem bind_assoc (p : Program I α) (f : α → Program I β) (g : β → Program I γ) :
    (p.bind f).bind g = p.bind fun a => (f a).bind g := by
  induction p with
  | done a => rfl
  | ask r next ih => simp [ih]

instance : LawfulMonad (Program I) := .mk' (Program I) bind_done_right (fun _ _ => rfl) bind_assoc

theorem run_bind (h : Handler I σ) (p : Program I α) (f : α → Program I β) (s : σ) :
    (p.bind f).run h s = (f (p.run h s).1).run h (p.run h s).2 := by
  induction p generalizing s with
  | done a => rfl
  | ask r next ih => simp [run, ih]

end Program

end Rollout
