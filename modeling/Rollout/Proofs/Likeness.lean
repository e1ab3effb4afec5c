import Mathlib.Data.List.Forall2
import Rollout.Credentials
import Rollout.Plan.Outline
import Rollout.Stage

namespace Rollout

namespace Sorted

variable {α β : Type} {R : α → β → Prop}

def Rel (R : α → β → Prop) : Sorted α → Sorted β → Prop := List.Forall₂ fun e e' => e.1 = e'.1 ∧ R e.2 e'.2

namespace Rel

variable {t : Sorted α} {t' : Sorted β}

theorem insert (h : Rel R t t') (k : String) {v : α} {v' : β} (hv : R v v') :
    Rel R (t.insert k v) (t'.insert k v') := by
  induction h with
  | nil => exact .cons ⟨rfl, hv⟩ .nil
  | @cons e e' r r' he hr ih =>
      obtain ⟨k₁, v₁⟩ := e
      obtain ⟨k₂, v₂⟩ := e'
      obtain ⟨rfl : k₁ = k₂, hvalue⟩ := he
      rw [Sorted.insert, Sorted.insert]
      split
      · exact .cons ⟨rfl, hv⟩ hr
      · split
        · exact .cons ⟨rfl, hv⟩ (.cons ⟨rfl, hvalue⟩ hr)
        · exact .cons ⟨rfl, hvalue⟩ ih

theorem ofList {es : List (String × α)} {es' : List (String × β)}
    (h : List.Forall₂ (fun e e' => e.1 = e'.1 ∧ R e.2 e'.2) es es') : Rel R (ofList es) (ofList es') := by
  have hfold (t : Sorted α) (t' : Sorted β) (ht : Rel R t t') :
      Rel R (es.foldl (fun t e => t.insert e.1 e.2) t) (es'.foldl (fun t e => t.insert e.1 e.2) t') := by
    induction h generalizing t t' with
    | nil => exact ht
    | @cons e e' es es' he hes ih =>
        have hinsert : Rel R (t.insert e.1 e.2) (t'.insert e'.1 e'.2) := he.1 ▸ ht.insert e.1 he.2
        exact ih _ _ hinsert
  exact hfold [] [] .nil

theorem keys_eq (h : Rel R t t') : t.keys = t'.keys := by
  induction h with
  | nil => rfl
  | cons he _ ih => exact congrArg₂ List.cons he.1 ih

theorem isSome_get? (h : Rel R t t') (k : String) : (t.get? k).isSome = (t'.get? k).isSome := by
  induction h with
  | nil => rfl
  | @cons e e' r r' he hr ih =>
      rw [get?_cons, get?_cons, he.1]
      split
      · rfl
      · exact ih

theorem filter (h : Rel R t t') (P : String → Bool) :
    Rel R (t.filter fun e => P e.1) (t'.filter fun e => P e.1) := by
  induction h with
  | nil => exact .nil
  | @cons e e' r r' he hr ih =>
      rw [List.filter_cons, List.filter_cons, he.1]
      split
      · exact .cons he ih
      · exact ih

end Rel

end Sorted

namespace Cluster.Secret

/-- Two secrets in which nothing but the values may differ. -/
structure Alike (s s' : Secret) : Prop where
  name : s.name = s'.name
  ns : s.ns = s'.ns
  keys : s.data.keys = s'.data.keys

theorem Alike.refl (s : Secret) : s.Alike s := ⟨rfl, rfl, rfl⟩

theorem Alike.outline_eq {s s' : Secret} (h : s.Alike s') : s.outline = s'.outline := by
  rw [outline, outline, h.name, h.ns, h.keys]

theorem ofLiterals_alike (name ns : String) {es es' : List (String × String)}
    (h : List.Forall₂ (fun e e' => e.1 = e'.1 ∧ True) es es') :
    (ofLiterals name ns es).Alike (ofLiterals name ns es') :=
  ⟨rfl, rfl, (Sorted.Rel.ofList (R := fun _ _ => True) h).keys_eq⟩

end Cluster.Secret

/-- What a plan has to keep to itself. -/
structure Credentials where
  password : String
  accessKey : String
  secretKey : String

namespace Plan

def credentials (p : Plan) : Credentials :=
  ⟨p.database.password, p.objectStore.accessKey, p.objectStore.secretKey⟩

def withCredentials (p : Plan) (c : Credentials) : Plan :=
  { p with
    database := { p.database with password := c.password }
    objectStore := { p.objectStore with accessKey := c.accessKey, secretKey := c.secretKey } }

theorem databaseSecret_alike (p : Plan) (c : Credentials) :
    p.databaseSecret.Alike (p.withCredentials c).databaseSecret :=
  Cluster.Secret.ofLiterals_alike _ _ (.cons ⟨rfl, trivial⟩ (.cons ⟨rfl, trivial⟩ .nil))

theorem objectStoreSecret_alike (p : Plan) (c : Credentials) :
    p.objectStoreSecret.Alike (p.withCredentials c).objectStoreSecret :=
  Cluster.Secret.ofLiterals_alike _ _ (.cons ⟨rfl, trivial⟩ (.cons ⟨rfl, trivial⟩ .nil))

end Plan

namespace Stage

def timeless (s : Stage) : Stage :=
  { s with
    startedAt := s.startedAt.map fun _ => 0
    finishedAt := s.finishedAt.map fun _ => 0
    durationMs := s.durationMs.map fun _ => 0 }

end Stage

def Summary.timeless (s : Summary) : Summary := { s with runId := ⟨0⟩, stages := s.stages.map Stage.timeless }

/-- Two log entries that are the same but for the duration of a stage or the name of the run. -/
inductive LogEntry.Alike : LogEntry → LogEntry → Prop
  | same (e : LogEntry) : Alike e e
  | summary (level : Level) {s s' : Stage} (h : s.timeless = s'.timeless) :
      Alike ⟨level, s.summaryLine, []⟩ ⟨level, s'.summaryLine, []⟩
  | identified (level : Level) (text : String) (id id' : RunId) (fields : List (String × String)) :
      Alike ⟨level, text, ("run_id", id.text) :: fields⟩ ⟨level, text, ("run_id", id'.text) :: fields⟩

end Rollout
