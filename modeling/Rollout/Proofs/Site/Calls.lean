import Rollout.Proofs.Transcript
import Rollout.Site

namespace Rollout.Site

open Program

variable {α β : Type}

abbrev Event : Type := Program.Event interface

namespace Request

/-- The calls that carry a deployment out. Queries that only serve a diagnosis are none of them, and of
what is asked of the machine only the writing of a file is one. -/
def isCall : Request → Bool
  | .cluster c => !c.isDiagnostic
  | .poll .. | .render _ | .record .. => true
  | .machine (.write ..) => true
  | .machine _ => false

def isInquiry : Request → Bool
  | .cluster c => c.isDiagnostic
  | .machine (.log _) => true
  | _ => false

/-- What a diagnosis asks, which tells of what it finds in warnings. -/
def isSurvey : Request → Bool
  | .cluster c => c.isDiagnostic
  | .machine (.log e) => e.level == .warn
  | _ => false

/-- What is done beside the calls and explains nothing either. -/
def isAside : Request → Bool
  | .machine (.write ..) => false
  | .machine _ => true
  | _ => false

theorem isCall_of_isAside {r : Request} (h : r.isAside = true) : r.isCall = false := by
  match r with
  | .machine m =>
      cases m with
      | write path text => cases h
      | _ => rfl

theorem isInquiry_of_isSurvey {r : Request} (h : r.isSurvey = true) : r.isInquiry = true := by
  match r with
  | .cluster c => exact h
  | .machine (.log e) => rfl

theorem isCall_of_isInquiry {r : Request} (h : r.isInquiry = true) : r.isCall = false := by
  match r with
  | .cluster c => exact congrArg not h
  | .machine (.log e) => rfl

end Request

def calls (t : List Event) : List Event := t.filter fun e => e.1.isCall

theorem calls_append (t u : List Event) : calls (t ++ u) = calls t ++ calls u := List.filter_append ..

theorem calls_cons_of_isCall {e : Event} (h : Request.isCall e.1 = true) (t : List Event) :
    calls (e :: t) = e :: calls t := List.filter_cons_of_pos h

theorem calls_cons_of_not_isCall {e : Event} (h : Request.isCall e.1 = false) (t : List Event) :
    calls (e :: t) = calls t := List.filter_cons_of_neg (by simp [h])

theorem calls_eq_nil {t : List Event} (h : ∀ e ∈ t, Request.isCall e.1 = false) : calls t = [] :=
  List.filter_eq_nil_iff.2 fun e he => by simp [h e he]

theorem calls_sublist (t : List Event) : (calls t).Sublist t := List.filter_sublist

abbrev Silent (p : Program interface α) : Prop := p.Asks fun r : Request => r.isCall = false

theorem calls_of_silent {p : Program interface α} (hp : Silent p) {t : List Event} {a : α} (h : Runs p t a) :
    calls t = [] := calls_eq_nil fun _ he => hp.of_mem h he

def Aside (t : List Event) : Prop := ∀ e ∈ t, Request.isAside e.1 = true

theorem Aside.append {t u : List Event} (ht : Aside t) (hu : Aside u) : Aside (t ++ u) :=
  List.forall_mem_append.2 ⟨ht, hu⟩

theorem Aside.calls_eq_nil {t : List Event} (h : Aside t) : calls t = [] :=
  Site.calls_eq_nil fun e he => Request.isCall_of_isAside (h e he)

abbrev StaysAside (p : Program interface α) : Prop := p.Asks fun r : Request => r.isAside = true

theorem StaysAside.silent {p : Program interface α} (hp : StaysAside p) : Silent p :=
  hp.mono fun _ => Request.isCall_of_isAside

theorem StaysAside.aside {p : Program interface α} (hp : StaysAside p) {t : List Event} {a : α}
    (h : Runs p t a) : Aside t := fun _ he => hp.of_mem h he

theorem staysAside_log (level : Level) (text : String) (fields : List (String × String)) :
    StaysAside (Machine.log level text fields : Program interface Unit) := Asks.perform rfl

theorem silent_log (level : Level) (text : String) (fields : List (String × String)) :
    Silent (Machine.log level text fields : Program interface Unit) := (staysAside_log ..).silent

abbrev Inquires (p : Program interface α) : Prop := p.Asks fun r : Request => r.isInquiry = true

theorem Inquires.silent {p : Program interface α} (hp : Inquires p) : Silent p :=
  hp.mono fun _ => Request.isCall_of_isInquiry

abbrev Surveys (p : Program interface α) : Prop := p.Asks fun r : Request => r.isSurvey = true

theorem Surveys.inquires {p : Program interface α} (hp : Surveys p) : Inquires p :=
  hp.mono fun _ => Request.isInquiry_of_isSurvey

theorem surveys_warn (text : String) (fields : List (String × String)) :
    Surveys (Machine.warn text fields : Program interface Unit) := Asks.perform rfl

theorem surveys_attempt {c : Cluster.Call} (hc : c.isDiagnostic = true) : Surveys (attempt c) :=
  ⟨hc, fun _ => trivial⟩

section Runs

variable {t : List Event}

/-- An action that goes on after another one is not begun unless that one succeeds. -/
theorem runs_bind_iff {a : Action α} {f : α → Action β} {r : Except Failure β} :
    Runs (a >>= f).run t r ↔
      (∃ e, r = .error e ∧ Runs a.run t (.error e)) ∨
      ∃ u v x, t = u ++ v ∧ Runs a.run u (.ok x) ∧ Runs (f x).run v r := by
  rw [ExceptT.run_bind, Program.runs_bind_iff]
  constructor
  · rintro ⟨u, v, x | x, rfl, ha, hf⟩
    · obtain ⟨rfl, rfl⟩ := runs_pure_iff.1 hf
      exact .inl ⟨x, rfl, by simpa using ha⟩
    · exact .inr ⟨u, v, x, rfl, ha, hf⟩
  · rintro (⟨e, rfl, ha⟩ | ⟨u, v, x, rfl, ha, hf⟩)
    · exact ⟨t, [], .error e, by simp, ha, runs_pure_iff.2 ⟨rfl, rfl⟩⟩
    · exact ⟨u, v, .ok x, rfl, ha, hf⟩

theorem runs_onFailure_iff {a : Action α} {after : Program interface Unit} {r : Except Failure α} :
    Runs (onFailure a after).run t r ↔
      (∃ x, r = .ok x ∧ Runs a.run t (.ok x)) ∨
      ∃ e u v, r = .error e ∧ t = u ++ v ∧ Runs a.run u (.error e) ∧ Runs after v () := by
  rw [onFailure, ExceptT.run_mk, Program.runs_bind_iff]
  constructor
  · rintro ⟨u, v, e | x, rfl, ha, hf⟩
    · obtain ⟨v, w, _, rfl, hv, hw⟩ := Program.runs_bind_iff.1 hf
      obtain ⟨rfl, rfl⟩ := runs_pure_iff.1 hw
      exact .inr ⟨e, u, v, rfl, by simp, ha, hv⟩
    · obtain ⟨rfl, rfl⟩ := runs_pure_iff.1 hf
      exact .inl ⟨x, rfl, by simpa using ha⟩
  · rintro (⟨x, rfl, ha⟩ | ⟨e, u, v, rfl, rfl, ha, hv⟩)
    · exact ⟨t, [], .ok x, by simp, ha, runs_pure_iff.2 ⟨rfl, rfl⟩⟩
    · refine ⟨u, v, .error e, rfl, ha, ?_⟩
      exact Program.runs_bind_iff.2 ⟨v, [], (), by simp, hv, runs_pure_iff.2 ⟨rfl, rfl⟩⟩

theorem runs_lift_iff {b : Program interface α} {r : Except Failure α} :
    Runs (ExceptT.lift b : Action α).run t r ↔ ∃ x, r = .ok x ∧ Runs b t x := by
  rw [ExceptT.run_lift, map_eq_pure_bind, Program.runs_bind_iff]
  constructor
  · rintro ⟨u, v, x, rfl, hu, hv⟩
    obtain ⟨rfl, rfl⟩ := runs_pure_iff.1 hv
    exact ⟨x, rfl, by simpa using hu⟩
  · rintro ⟨x, rfl, h⟩
    exact ⟨t, [], x, by simp, h, runs_pure_iff.2 ⟨rfl, rfl⟩⟩

theorem runs_attempt_iff {c : Cluster.Call} {r : Except Failure c.Answer} :
    Runs (attempt c) t r ↔ ∃ took, t = [⟨.cluster c, ⟨took, r⟩⟩] := by
  rw [attempt, runs_ask_iff]
  constructor
  · rintro ⟨reply, u, rfl, h⟩
    cases h
    exact ⟨reply.took, rfl⟩
  · rintro ⟨took, rfl⟩
    exact ⟨⟨took, r⟩, [], rfl, .done r⟩

theorem runs_call_iff {c : Cluster.Call} {r : Except Failure c.Answer} :
    Runs (call c).run t r ↔ ∃ took, t = [⟨.cluster c, ⟨took, r⟩⟩] := runs_attempt_iff

theorem runs_render_iff {part : Part} {r : Except Failure String} :
    Runs (render part).run t r ↔ t = [⟨.render part, r⟩] := runs_perform_iff

theorem runs_record_iff {key value : String} {r : Except Failure Unit} :
    Runs (record key value).run t r ↔ t = [⟨.record key value, r⟩] := runs_perform_iff

theorem runs_write_iff {path text : String} {r : Except Failure Unit} :
    Runs (write path text).run t r ↔
      ∃ x, t = [⟨.machine (.write path text), x⟩] ∧ r = Machine.orFail x := by
  rw [write, ExceptT.run_mk, Program.runs_bind_iff]
  constructor
  · rintro ⟨u, v, x, rfl, hu, hv⟩
    obtain ⟨rfl, rfl⟩ := runs_pure_iff.1 hv
    exact ⟨x, by simp [runs_perform_iff.1 hu], rfl⟩
  · rintro ⟨x, rfl, rfl⟩
    exact ⟨_, [], x, by simp, runs_perform_iff.2 rfl, runs_pure_iff.2 ⟨rfl, rfl⟩⟩

theorem runs_log_iff {level : Level} {text : String} {fields : List (String × String)} :
    Runs (Machine.log level text fields : Program interface Unit) t () ↔
      t = [⟨.machine (.log ⟨level, text, fields⟩), ()⟩] := runs_perform_iff

end Runs

end Rollout.Site
