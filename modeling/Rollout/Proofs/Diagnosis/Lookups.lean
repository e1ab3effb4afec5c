import Mathlib.Data.List.Forall2
import Mathlib.Data.List.Infix
import Rollout.Diagnosis.Collect
import Rollout.Proofs.Site.Calls

namespace Rollout

theorem Text.occurs_iff {part cs : List Char} : occurs part cs = true ↔ part <:+: cs := by
  induction cs with
  | nil => simp [occurs]
  | cons c r ih => rw [occurs, Bool.or_eq_true, ih, List.isPrefixOf_iff_prefix, List.infix_cons_iff]

namespace Diagnosis

open Cluster Program Site

variable {α : Type} {t u : List Event} {w : Resource} {ns pod : String}

/-- A question for the pods that bear a label, and what came of it. -/
structure Listing where
  selector : String
  ns : String
  outcome : Except Failure (List String)

def listed : Except Failure (List String) → List String
  | .ok ps => ps
  | .error _ => []

/-- A question for the phase of a pod, and what came of it. -/
structure Sighting where
  pod : String
  ns : String
  outcome : Except Failure Phase

def listing? : Event → Option Listing
  | ⟨.cluster (.pods selector ns), reply⟩ => some ⟨selector, ns, reply.outcome⟩
  | _ => none

def sighting? : Event → Option Sighting
  | ⟨.cluster (.podPhase pod ns), reply⟩ => some ⟨pod, ns, reply.outcome⟩
  | _ => none

def listings (t : List Event) : List Listing := t.filterMap listing?

def sightings (t : List Event) : List Sighting := t.filterMap sighting?

/-- The call was made and came to this. -/
def Told (t : List Event) (c : Call) (x : Except Failure c.Answer) : Prop :=
  ∃ took, (⟨.cluster c, ⟨took, x⟩⟩ : Event) ∈ t

theorem Told.mono {c : Call} {x : Except Failure c.Answer} (h : Told t c x) (hsub : t ⊆ u) : Told u c x := by
  obtain ⟨took, hmem⟩ := h
  exact ⟨took, hsub hmem⟩

def text? : (c : Call) → Except Failure c.Answer → Option (Except Failure String)
  | .describe _, x => some x
  | .get .., x => some x
  | .podLogs .., x => some x
  | .events .., x => some x
  | .podTable _, x => some x
  | .probe _, x => some x
  | _, _ => none

/-- The evidence is what came of the call. -/
def Shows (t : List Event) (c : Call) (e : Evidence) : Prop :=
  ∃ x, Told t c x ∧ (text? c x).map Evidence.ofOutcome = some e

theorem Shows.mono {c : Call} {e : Evidence} (h : Shows t c e) (hsub : t ⊆ u) : Shows u c e := by
  obtain ⟨x, htold, he⟩ := h
  exact ⟨x, htold.mono hsub, he⟩

/-- A run with these questions for pods and for their phases. -/
structure Looks (t : List Event) (ls : List Listing) (ss : List Sighting) : Prop where
  listings : listings t = ls
  sightings : sightings t = ss

namespace Looks

variable {ls ls' : List Listing} {ss ss' : List Sighting}

theorem nil : Looks [] [] [] := ⟨rfl, rfl⟩

theorem append (h : Looks t ls ss) (h' : Looks u ls' ss') : Looks (t ++ u) (ls ++ ls') (ss ++ ss') := by
  constructor
  · rw [Diagnosis.listings, List.filterMap_append]
    exact congrArg₂ _ h.listings h'.listings
  · rw [Diagnosis.sightings, List.filterMap_append]
    exact congrArg₂ _ h.sightings h'.sightings

theorem listing {selector : String} {took : Duration} {x : Except Failure (List String)} (h : Looks t ls ss) :
    Looks (⟨.cluster (.pods selector ns), ⟨took, x⟩⟩ :: t) (⟨selector, ns, x⟩ :: ls) ss :=
  ⟨congrArg (_ :: ·) h.listings, h.sightings⟩

theorem sighting {took : Duration} {x : Except Failure Phase} (h : Looks t ls ss) :
    Looks (⟨.cluster (.podPhase pod ns), ⟨took, x⟩⟩ :: t) ls (⟨pod, ns, x⟩ :: ss) :=
  ⟨h.listings, congrArg (_ :: ·) h.sightings⟩

theorem prepend (h : Looks t [] []) (h' : Looks u ls ss) : Looks (t ++ u) ls ss := h.append h'

end Looks

/-- A run of one call whose answer is a text. -/
def Learns (t : List Event) (c : Call) (e : Evidence) : Prop :=
  ∃ took x, t = [⟨.cluster c, ⟨took, x⟩⟩] ∧ (text? c x).map Evidence.ofOutcome = some e

namespace Learns

variable {c : Call} {e : Evidence}

theorem shows (h : Learns t c e) : Shows t c e := by
  obtain ⟨took, x, rfl, he⟩ := h
  exact ⟨x, ⟨took, List.mem_singleton_self _⟩, he⟩

theorem looks (h : Learns t c e) : Looks t [] [] := by
  obtain ⟨took, x, rfl, he⟩ := h
  cases c with
  | pods | podPhase => cases he
  | _ => exact ⟨rfl, rfl⟩

end Learns

theorem runs_attempt_bind_iff {c : Call} {f : Except Failure c.Answer → Program interface α} {a : α} :
    Runs (attempt c >>= f) t a ↔ ∃ took x u, t = ⟨.cluster c, ⟨took, x⟩⟩ :: u ∧ Runs (f x) u a := by
  rw [Program.runs_bind_iff]
  constructor
  · rintro ⟨u, v, x, rfl, hu, hv⟩
    obtain ⟨took, rfl⟩ := runs_attempt_iff.1 hu
    exact ⟨took, x, v, rfl, hv⟩
  · rintro ⟨took, x, u, rfl, h⟩
    exact ⟨_, u, x, rfl, runs_attempt_iff.2 ⟨took, rfl⟩, h⟩

theorem runs_query_iff {c : Call} {f : Except Failure c.Answer → α} {a : α} :
    Runs (attempt c >>= fun x => pure (f x)) t a ↔ ∃ took x, t = [⟨.cluster c, ⟨took, x⟩⟩] ∧ a = f x := by
  simp only [runs_attempt_bind_iff, runs_pure_iff]
  constructor
  · rintro ⟨took, x, _, rfl, rfl, rfl⟩
    exact ⟨took, x, rfl, rfl⟩
  · rintro ⟨took, x, rfl, rfl⟩
    exact ⟨took, x, [], rfl, rfl, rfl⟩

theorem learns_of_runs_describe {r : Resource} {e : Evidence} (h : Runs (describe r) t e) :
    Learns t (.describe r) e := by
  obtain ⟨took, x, rfl, rfl⟩ := runs_query_iff.1 h
  exact ⟨took, x, rfl, rfl⟩

theorem learns_of_runs_probe {limit : Duration} {name image : String} {words : List String} {e : Evidence}
    (h : Runs (probe limit name image ns words) t e) : Learns t (.probe ⟨name, image, ns, words, limit⟩) e := by
  obtain ⟨took, x, rfl, rfl⟩ := runs_query_iff.1 h
  exact ⟨took, x, rfl, rfl⟩

theorem runs_when_iff {b : Bool} {p : Program interface Evidence} {e? : Option Evidence} :
    Runs (when b p) t e? ↔ b = false ∧ t = [] ∧ e? = none ∨ b = true ∧ ∃ e, e? = some e ∧ Runs p t e := by
  cases b with
  | false => simp [when, runs_pure_iff]
  | true =>
      rw [when, if_pos rfl, map_eq_pure_bind, Program.runs_bind_iff]
      simp only [Bool.true_eq_false, false_and, true_and, false_or]
      constructor
      · rintro ⟨u, v, e, rfl, hu, hv⟩
        obtain ⟨rfl, rfl⟩ := runs_pure_iff.1 hv
        exact ⟨e, rfl, by simpa using hu⟩
      · rintro ⟨e, rfl, h⟩
        exact ⟨t, [], e, by simp, h, runs_pure_iff.2 ⟨rfl, rfl⟩⟩

/-- The label of the pods of a workload. -/
def ownLabel (w : Resource) : String := if w.kind = .job then "job-name=" ++ w.name else "app=" ++ w.name

/-- A label of pods among which its own may be, where no label means all. -/
def widerLabel (w : Resource) : String := if w.kind = .job then "controller-uid" else ""

theorem selectors_eq (w : Resource) : selectors w = (ownLabel w, widerLabel w) := by
  rw [selectors, ownLabel, widerLabel]
  cases w.kind with
  | _ => rfl

/-- The pods that are found for a workload: those that bear its own label, or, where that lists none, those that bear
the wider one and have the name of the workload in theirs. -/
inductive Finds (w : Resource) : List Listing → List String → Prop
  | exact {x : Except Failure (List String)} (h : listed x ≠ []) :
    Finds w [⟨ownLabel w, w.ns, x⟩] (listed x)
  | broad {x : Except Failure (List String)} (h : listed x = []) (y : Except Failure (List String)) :
    Finds w [⟨ownLabel w, w.ns, x⟩, ⟨widerLabel w, w.ns, y⟩]
      ((listed y).filter fun p => w.name.toList <:+: p.toList)

theorem contains_eq (p : String) : Text.contains p w.name = decide (w.name.toList <:+: p.toList) := by
  rw [Bool.eq_iff_iff, decide_eq_true_iff]
  exact Text.occurs_iff

theorem finds_of_runs {ps : List String} (h : Runs (findPods w) t ps) : ∃ ls, Looks t ls [] ∧ Finds w ls ps := by
  rw [findPods, selectors_eq] at h
  obtain ⟨took, x, u, rfl, hu⟩ := runs_attempt_bind_iff.1 h
  have hwider {f : Except Failure (List String) → Program interface (List String)} (hx : listed x = [])
      (hf : ∀ y, f y = pure ((listed y).filter fun p => w.name.toList <:+: p.toList))
      (hu : Runs (attempt (.pods (widerLabel w) w.ns) >>= f) u ps) :
      ∃ ls, Looks (⟨.cluster (.pods (ownLabel w) w.ns), ⟨took, x⟩⟩ :: u) ls [] ∧ Finds w ls ps := by
    rw [funext hf] at hu
    obtain ⟨took', y, rfl, rfl⟩ := runs_query_iff.1 hu
    exact ⟨_, ⟨rfl, rfl⟩, .broad hx y⟩
  rcases x with e | (_ | ⟨p, names⟩)
  · refine hwider rfl (fun y => ?_) hu
    cases y <;> simp [listed, contains_eq]
  · refine hwider rfl (fun y => ?_) hu
    cases y <;> simp [listed, contains_eq]
  · obtain ⟨rfl, rfl⟩ := runs_pure_iff.1 hu
    exact ⟨_, ⟨rfl, rfl⟩, .exact (List.cons_ne_nil p names)⟩

/-- What is reported on a pod, in view of the question for its phase. -/
structure Inspects (t : List Event) (ns : String) (q : Sighting) (r : PodReport) : Prop where
  place : q.ns = ns
  name : r.name = q.pod
  phase : r.phase = q.outcome.toOption
  description : ∃ e, r.description = some e ∧ Shows t (.describe ⟨.pod, q.pod, ns⟩) e
  logs_iff : r.logs ≠ none ↔ q.outcome = .ok .running ∨ q.outcome = .ok .succeeded ∨ q.outcome = .ok .failed
  logs : ∀ e, r.logs = some e → Shows t (.podLogs q.pod ns 100) e
  events_iff : r.events ≠ none ↔ q.outcome = .ok .pending ∨ q.outcome = .ok .failed
  events : ∀ e, r.events = some e → Shows t (.events q.pod ns) e

theorem Inspects.mono {q : Sighting} {r : PodReport} (h : Inspects t ns q r) (hsub : t ⊆ u) : Inspects u ns q r :=
  { h with
    description := by
      obtain ⟨e, he, hshows⟩ := h.description
      exact ⟨e, he, hshows.mono hsub⟩
    logs := fun e he => (h.logs e he).mono hsub
    events := fun e he => (h.events e he).mono hsub }

theorem hasLogs_iff {phase : Phase} :
    phase.hasLogs = true ↔ phase = .running ∨ phase = .succeeded ∨ phase = .failed := by
  cases phase <;> simp [Phase.hasLogs]

theorem needsEvents_iff {phase : Phase} : phase.needsEvents = true ↔ phase = .pending ∨ phase = .failed := by
  cases phase <;> simp [Phase.needsEvents]

theorem looks_of_runs_when {b : Bool} {c : Call} {p : Program interface Evidence} {e? : Option Evidence}
    (hp : ∀ u e, Runs p u e → Learns u c e) (h : Runs (when b p) t e?) :
    Looks t [] [] ∧ (e? ≠ none ↔ b = true) ∧ ∀ e, e? = some e → Shows t c e := by
  rcases runs_when_iff.1 h with ⟨rfl, rfl, rfl⟩ | ⟨rfl, e, rfl, he⟩
  · simp [Looks.nil]
  · have hlearns := hp t e he
    simpa using ⟨hlearns.looks, hlearns.shows⟩

theorem inspects_of_runs {r : PodReport} (h : Runs (inspect ns pod) t r) :
    ∃ x, Looks t [] [⟨pod, ns, x⟩] ∧ Inspects t ns ⟨pod, ns, x⟩ r := by
  obtain ⟨t₁, t₂, description, rfl, hdescribe, hrest⟩ := Program.runs_bind_iff.1 h
  obtain ⟨took, x, t₃, rfl, hseen⟩ := runs_attempt_bind_iff.1 hrest
  have hdescribe := learns_of_runs_describe hdescribe
  have hlooks (u : List Event) (hu : Looks u [] []) :
      Looks (t₁ ++ ⟨.cluster (.podPhase pod ns), ⟨took, x⟩⟩ :: u) [] [⟨pod, ns, x⟩] :=
    hdescribe.looks.append hu.sighting
  refine ⟨x, ?_⟩
  cases x with
  | error e =>
      obtain ⟨rfl, rfl⟩ := runs_pure_iff.1 hseen
      refine ⟨hlooks [] .nil, rfl, rfl, rfl, ⟨_, rfl, hdescribe.shows.mono (by simp)⟩, ?_, ?_, ?_, ?_⟩
      all_goals simp [PodReport.empty]
  | ok phase =>
      obtain ⟨t₄, t₅, logs, rfl, hlogs, hrest⟩ := Program.runs_bind_iff.1 hseen
      obtain ⟨t₆, t₇, events, rfl, hevents, hrest⟩ := Program.runs_bind_iff.1 hrest
      obtain ⟨rfl, rfl⟩ := runs_pure_iff.1 hrest
      obtain ⟨hlogs, hlogs_iff, hlogs_shows⟩ := looks_of_runs_when (c := .podLogs pod ns logTail) (fun u e hu => by
        obtain ⟨took, x, rfl, rfl⟩ := runs_query_iff.1 hu
        exact ⟨took, x, rfl, rfl⟩) hlogs
      obtain ⟨hevents, hevents_iff, hevents_shows⟩ := looks_of_runs_when (c := .events pod ns) (fun u e hu => by
        obtain ⟨took, x, rfl, rfl⟩ := runs_query_iff.1 hu
        exact ⟨took, x, rfl, rfl⟩) hevents
      refine ⟨hlooks _ (hlogs.append (hevents.append .nil)), rfl, rfl, rfl,
        ⟨_, rfl, hdescribe.shows.mono (by simp)⟩, ?_, fun e he => (hlogs_shows e he).mono fun e he => by simp [he], ?_,
        fun e he => (hevents_shows e he).mono fun e he => by simp [he]⟩
      · simpa [hasLogs_iff] using hlogs_iff
      · simpa [needsEvents_iff] using hevents_iff

def Inspected (t : List Event) (ns : String) (ss : List Sighting) (rs : List PodReport) : Prop :=
  List.Forall₂ (Inspects t ns) ss rs

theorem Inspected.mono {ss : List Sighting} {rs : List PodReport} (h : Inspected t ns ss rs) (hsub : t ⊆ u) :
    Inspected u ns ss rs := List.Forall₂.imp (fun _ _ hr => hr.mono hsub) h

theorem inspected_of_runs {ps : List String} {rs : List PodReport} (h : Runs (inspectAll ns ps) t rs) :
    ∃ ss, Looks t [] ss ∧ Inspected t ns ss rs ∧ rs.map (·.name) = ps := by
  induction ps generalizing t rs with
  | nil =>
      obtain ⟨rfl, rfl⟩ := runs_pure_iff.1 h
      exact ⟨[], .nil, .nil, rfl⟩
  | cons p ps ih =>
      obtain ⟨t₁, t₂, r, rfl, hinspect, hrest⟩ := Program.runs_bind_iff.1 h
      obtain ⟨t₃, t₄, rs', rfl, hall, hpure⟩ := Program.runs_bind_iff.1 hrest
      obtain ⟨rfl, rfl⟩ := runs_pure_iff.1 hpure
      obtain ⟨x, hlooks, hr⟩ := inspects_of_runs hinspect
      obtain ⟨ss, hlooks', hrs, hnames⟩ := ih hall
      refine ⟨⟨p, ns, x⟩ :: ss, hlooks.append (by simpa using hlooks'), ?_, ?_⟩
      · exact .cons (hr.mono (by simp)) (hrs.mono (by simp))
      · rw [List.map_cons, hnames, hr.name]

theorem added_of_runs {listed : List PodReport} {ps : List String} {rs : List PodReport}
    (h : Runs (inspectNew ns listed ps) t rs) :
    ∃ ss added, Looks t [] ss ∧ Inspected t ns ss added ∧ rs = listed ++ added ∧
      added.map (·.name) = (ps.filter fun p => p ∉ listed.map (·.name)).eraseDups := by
  induction ps generalizing t listed with
  | nil =>
      obtain ⟨rfl, rfl⟩ := runs_pure_iff.1 h
      exact ⟨[], [], .nil, .nil, by simp, rfl⟩
  | cons p ps ih =>
      have hany : (listed.any fun r => r.name == p) = true ↔ p ∈ listed.map (·.name) := by simp
      rw [inspectNew] at h
      split at h
      case isTrue hp =>
        obtain ⟨ss, added, hlooks, hadded, rfl, hnames⟩ := ih h
        refine ⟨ss, added, hlooks, hadded, rfl, ?_⟩
        rw [hnames, List.filter_cons_of_neg (by simpa using hany.1 hp)]
      case isFalse hp =>
        obtain ⟨t₁, t₂, r, rfl, hinspect, hrest⟩ := Program.runs_bind_iff.1 h
        obtain ⟨x, hlooks, hr⟩ := inspects_of_runs hinspect
        obtain ⟨ss, added, hlooks', hadded, rfl, hnames⟩ := ih hrest
        refine ⟨⟨p, ns, x⟩ :: ss, r :: added, hlooks.append hlooks', .cons (hr.mono (by simp)) (hadded.mono (by simp)),
          by simp, ?_⟩
        have hfilter : (ps.filter fun q => q ∉ (listed ++ [r]).map (·.name)) =
            ps.filter fun q => !q == p && decide (q ∉ listed.map (·.name)) := by
          -- The pod inspected just now is listed, so a later mention of it is passed over.
          refine List.filter_congr fun q _ => ?_
          rw [Bool.eq_iff_iff, decide_eq_true_iff, List.map_append, List.map_singleton, hr.name]
          simp [and_comm]
        rw [List.map_cons, hnames, hr.name, List.filter_cons_of_pos (by simpa using mt hany.2 hp), List.eraseDups_cons,
          List.filter_filter, hfilter]

end Diagnosis

end Rollout
