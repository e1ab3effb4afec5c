import Mathlib.Data.List.Sort
import Rollout.Proofs.Diagnosis.Contents
import Rollout.Rehearsal.Workstation

namespace Rollout.Diagnosis

open Cluster Program Site

/-- What the calls on a cluster come to where that depends on nothing but the call. -/
abbrev Answers : Type := (c : Call) → Except Failure c.Answer

variable {α σ τ : Type} {a a' : Answers} {t t' : List Event} {limit : Duration} {w : Resource} {ns : String}
  {r r' : Report}

/-- A site whose cluster answers a call always alike. -/
def Steady (h : Handler interface σ) (a : Answers) : Prop := ∀ c s, (h (.cluster c) s).1.outcome = a c

def Agrees (t : List Event) (a : Answers) : Prop := ∀ c x, Told t c x → x = a c

theorem Steady.agrees {h : Handler interface σ} (ha : Steady h a) (p : Program interface α) (s : σ) :
    Agrees (p.transcript h s) a := by
  rintro c x ⟨took, hmem⟩
  obtain ⟨s', hs'⟩ := exists_of_mem_transcript hmem
  exact (congrArg Reply.outcome hs').trans (ha c s')

/-- Two clusters with the same pods in the same phases. -/
structure SamePods (a a' : Answers) : Prop where
  pods (selector ns : String) : a (.pods selector ns) = a' (.pods selector ns)
  phases (pod ns : String) : a (.podPhase pod ns) = a' (.podPhase pod ns)

section Outline

/-- What a report says of a pod besides its evidence, and which evidence there is. -/
def PodReport.outline (p : PodReport) : String × Option Phase × List String :=
  (p.name, p.phase, p.evidence.map Prod.fst)

/-- Reports with the same pods and the same pieces of evidence, whatever these say. -/
structure Alike (r r' : Report) : Prop where
  workload : r.workload = r'.workload
  pods : r.pods.map PodReport.outline = r'.pods.map PodReport.outline
  extra : r.extra.keys = r'.extra.keys

theorem outcome_of_mem_listings (ha : Agrees t a) {l : Listing} (h : l ∈ listings t) :
    l.outcome = a (.pods l.selector l.ns) := by
  obtain ⟨e, he, hl⟩ := List.mem_filterMap.1 h
  unfold listing? at hl
  split at hl
  · cases hl
    exact ha _ _ ⟨_, he⟩
  · cases hl

theorem outcome_of_mem_sightings (ha : Agrees t a) {q : Sighting} (h : q ∈ sightings t) :
    q.outcome = a (.podPhase q.pod q.ns) := by
  obtain ⟨e, he, hq⟩ := List.mem_filterMap.1 h
  unfold sighting? at hq
  split at hq
  · cases hq
    exact ha _ _ ⟨_, he⟩
  · cases hq

def Lists (a : Answers) (ls : List Listing) : Prop := ∀ l ∈ ls, l.outcome = a (.pods l.selector l.ns)

theorem Lists.head_eq {selector : String} {x x' : Except Failure (List String)} {ls ls' : List Listing}
    (h : Lists a (⟨selector, ns, x⟩ :: ls)) (h' : Lists a (⟨selector, ns, x'⟩ :: ls')) : x = x' := by
  have hx := h ⟨selector, ns, x⟩ List.mem_cons_self
  have hx' := h' ⟨selector, ns, x'⟩ List.mem_cons_self
  exact hx.trans hx'.symm

theorem Lists.tail {l : Listing} {ls : List Listing} (h : Lists a (l :: ls)) : Lists a ls :=
  (List.forall_mem_cons.1 h).2

theorem finds_unique {ls ls' : List Listing} {ps ps' : List String} (h : Finds w ls ps) (h' : Finds w ls' ps')
    (hls : Lists a ls) (hls' : Lists a ls') : ps = ps' := by
  cases h with
  | exact hx =>
      cases h' with
      | exact hx' => rw [hls.head_eq hls']
      | broad hx' y' => exact absurd (hls.head_eq hls' ▸ hx') hx
  | broad hx y =>
      cases h' with
      | exact hx' => exact absurd (hls.head_eq hls' ▸ hx) hx'
      | broad hx' y' => rw [hls.tail.head_eq hls'.tail]

theorem outline_of_inspects {q : Sighting} {p p' : PodReport} (h : Inspects t ns q p) (h' : Inspects t' ns q p') :
    p.outline = p'.outline := by
  obtain ⟨e, he, -⟩ := h.description
  obtain ⟨e', he', -⟩ := h'.description
  have hlogs : p.logs = none ↔ p'.logs = none := not_iff_not.1 (h.logs_iff.trans h'.logs_iff.symm)
  have hevents : p.events = none ↔ p'.events = none := not_iff_not.1 (h.events_iff.trans h'.events_iff.symm)
  have hevidence : p.evidence.map Prod.fst = p'.evidence.map Prod.fst := by
    rw [PodReport.evidence, PodReport.evidence, he, he']
    cases hl : p.logs <;> cases hl' : p'.logs <;> cases hev : p.events <;> cases hev' : p'.events <;> simp_all
  rw [PodReport.outline, PodReport.outline, h.name, h'.name, h.phase, h'.phase, hevidence]

theorem sightings_of_inspected {ss : List Sighting} {ps : List PodReport} (h : Inspected t ns ss ps)
    (hss : ∀ q ∈ ss, q.outcome = a (.podPhase q.pod q.ns)) :
    ss = (ps.map (·.name)).map fun p => ⟨p, ns, a (.podPhase p ns)⟩ := by
  induction h with
  | nil => rfl
  | @cons q p ss ps hq hps ih =>
      obtain ⟨hfirst, hrest⟩ := List.forall_mem_cons.1 hss
      obtain rfl := hq.place
      rw [List.map_cons, List.map_cons, hq.name, ← hfirst, ← ih hrest]

theorem outlines_of_inspected {ss : List Sighting} {ps ps' : List PodReport} (h : Inspected t ns ss ps)
    (h' : Inspected t' ns ss ps') : ps.map PodReport.outline = ps'.map PodReport.outline := by
  induction h generalizing ps' with
  | nil =>
      cases h'
      rfl
  | cons hq hps ih =>
      cases h' with
      | cons hq' hps' => rw [List.map_cons, List.map_cons, outline_of_inspects hq hq', ih hps']

theorem Completes.alike {first names names' : List String} {ls ls' : List Listing} {extra extra' : Sorted Evidence}
    (h : Completes limit w t first ls names extra) (h' : Completes limit w t' first ls' names' extra')
    (hls : Lists a ls) (hls' : Lists a ls') : names = names' ∧ extra.keys = extra'.keys := by
  -- The name of the workload decides between the three cases, so both reports are in the same one.
  cases h with
  | objectStore hname h =>
      cases h' with
      | objectStore _ h' =>
          obtain rfl := hls.head_eq hls'
          have hkeys := h.keys.trans h'.keys.symm
          exact ⟨rfl, hkeys.eq_of_pairwise' (h.ascending.imp le_of_lt) (h'.ascending.imp le_of_lt)⟩
      | operator hname' => exact absurd hname (by simp [hname'])
      | other hname' => exact absurd hname (not_or.2 ⟨hname'.1, hname'.2.1⟩)
  | operator hname hnames =>
      cases h' with
      | objectStore hname' => exact absurd hname' (by simp [hname])
      | operator _ hnames' =>
          obtain rfl := hls.head_eq hls'
          exact ⟨hnames.eq.trans hnames'.eq.symm, rfl⟩
      | other hname' => exact absurd hname hname'.2.2
  | other hname =>
      cases h' with
      | objectStore hname' => exact absurd hname' (not_or.2 ⟨hname.1, hname.2.1⟩)
      | operator hname' => exact absurd hname' hname.2.2
      | other => exact ⟨rfl, rfl⟩

theorem alike_of_contents (h : Contents limit w t r) (h' : Contents limit w t' r') (ha : Agrees t a)
    (ha' : Agrees t' a') (hsame : SamePods a a') : Alike r r' := by
  obtain ⟨found, further, first, hlistings, hfinds, hcompletes⟩ := h.pods
  obtain ⟨found', further', first', hlistings', hfinds', hcompletes'⟩ := h'.pods
  have hls : Lists a (found ++ further) := fun l hl => outcome_of_mem_listings ha (hlistings ▸ hl)
  have hls' : Lists a (found' ++ further') := fun l hl =>
    (outcome_of_mem_listings ha' (hlistings' ▸ hl)).trans (hsame.pods _ _).symm
  obtain ⟨hfound, hfurther⟩ := List.forall_mem_append.1 hls
  obtain ⟨hfound', hfurther'⟩ := List.forall_mem_append.1 hls'
  obtain rfl := finds_unique hfinds hfinds' hfound hfound'
  obtain ⟨hnames, hextra⟩ := hcompletes.alike hcompletes' hfurther hfurther'
  -- The names fix whose phases are asked for, and so all that is asked about them.
  have hseen := sightings_of_inspected h.inspected fun q hq => outcome_of_mem_sightings ha hq
  have hseen' := sightings_of_inspected h'.inspected fun q hq =>
    (outcome_of_mem_sightings ha' hq).trans (hsame.phases _ _).symm
  have hsightings : sightings t = sightings t' := by rw [hseen, hseen', hnames]
  exact ⟨h.workload.trans h'.workload.symm, outlines_of_inspected h.inspected (hsightings ▸ h'.inspected), hextra⟩

end Outline

section Evidence

def Says (a : Answers) (c : Call) (s : String) : Prop := text? c (a c) = some (.ok s)

/-- A pod of the object store has an address, and this is what came back from there. -/
def Replies (a : Answers) (limit : Duration) (ns pod s : String) : Prop :=
  ∃ address, a (.podAddress pod ns) = .ok (some address) ∧ Says a (.probe (directProbe limit ns address)) s

/-- Evidence is the text that is said, if there is anything to read in it. Otherwise there is none. -/
structure Tells (said : String → Prop) (e : Evidence) : Prop where
  collected_iff (s : String) : e = .collected s ↔ said s ∧ ∃ c ∈ s.toList, Text.isBlank c = false
  unavailable_iff : (∃ reason, e = .unavailable reason) ↔ ∀ s, said s → ∀ c ∈ s.toList, Text.isBlank c = true

/-- Every piece of evidence on a pod is what its own query came to. -/
structure PodReport.Faithful (a : Answers) (ns : String) (p : PodReport) : Prop where
  description : ∀ e, p.description = some e → Tells (Says a (.describe ⟨.pod, p.name, ns⟩)) e
  logs : ∀ e, p.logs = some e → Tells (Says a (.podLogs p.name ns logTail)) e
  events : ∀ e, p.events = some e → Tells (Says a (.events p.name ns)) e

/-- Every piece of evidence that a table holds is what its own query came to. -/
structure FaithfulTable (a : Answers) (limit : Duration) (ns : String) (extra : Sorted Evidence) : Prop where
  queried : ∀ q ∈ storeQueries limit ns, ∀ e, extra.get? q.1 = some e → Tells (Says a q.2) e
  reached : ∀ p e, extra.get? (podKey p) = some e → Tells (Replies a limit ns p) e
  managed : ∀ e, extra.get? "mlflow/mlflow" = some e → Tells (Says a (.describe ⟨.mlflow, "mlflow", ns⟩)) e
  nothing_else : ∀ k ∈ extra.keys,
    k ∈ (storeQueries limit ns).map Prod.fst ∨ (∃ p, podKey p = k) ∨ k = "mlflow/mlflow"

structure Report.Faithful (a : Answers) (limit : Duration) (r : Report) : Prop where
  description : Tells (Says a (.describe r.workload)) r.description
  pods : ∀ p ∈ r.pods, p.Faithful a r.workload.ns
  extra : FaithfulTable a limit r.workload.ns r.extra

theorem tells_unavailable {said : String → Prop} (h : ∀ s, ¬ said s) (reason : String) :
    Tells said (.unavailable reason) :=
  ⟨fun s => by simp [h s], iff_of_true ⟨reason, rfl⟩ fun s hs => absurd hs (h s)⟩

theorem tells_ofText {said : String → Prop} {s : String} (h : ∀ s', said s' ↔ s' = s) : Tells said (.ofText s) := by
  rw [Evidence.ofText]
  split
  case isTrue hvoid =>
    have hblank : ∀ c ∈ s.toList, Text.isBlank c = true := by simpa [Text.isVoid] using hvoid
    refine ⟨fun s' => ?_, iff_of_true ⟨_, rfl⟩ fun s' hs' => (h s').1 hs' ▸ hblank⟩
    simp only [h, reduceCtorEq, false_iff, not_and, not_exists]
    rintro rfl c hc
    simp [hblank c hc]
  case isFalse hvoid =>
    have hread : ∃ c ∈ s.toList, Text.isBlank c = false := by simpa [Text.isVoid] using hvoid
    refine ⟨fun s' => ?_, iff_of_false (by simp) fun hall => ?_⟩
    · rw [h, Evidence.collected.injEq, eq_comm]
      exact ⟨fun hs' => ⟨hs', hs' ▸ hread⟩, And.left⟩
    · obtain ⟨c, hc, hread⟩ := hread
      simp [hall s ((h s).2 rfl) c hc] at hread

theorem Shows.tells {c : Call} {e : Evidence} (h : Shows t c e) (ha : Agrees t a) : Tells (Says a c) e := by
  obtain ⟨x, htold, he⟩ := h
  rw [ha c x htold, Option.map_eq_some_iff] at he
  obtain ⟨y, hy, rfl⟩ := he
  cases y with
  | error f => exact tells_unavailable (fun s => by simp [Says, hy]) _
  | ok s => exact tells_ofText fun s' => by simp [Says, hy, eq_comm]

theorem Reaches.tells {p : String} {e : Evidence} (h : Reaches limit ns t p e) (ha : Agrees t a) :
    Tells (Replies a limit ns p) e := by
  cases h with
  | @answered address _ haddress h =>
      have haddress := (ha _ _ haddress).symm
      have hreplies (s : String) : Replies a limit ns p s ↔ Says a (.probe (directProbe limit ns address)) s := by
        simp [Replies, haddress]
      exact (funext fun s => propext (hreplies s) : Replies a limit ns p = _) ▸ h.tells ha
  | homeless h => exact tells_unavailable (fun s => by simp [Replies, ← ha _ _ h]) _
  | lost h => exact tells_unavailable (fun s => by simp [Replies, ← ha _ _ h]) _

theorem Inspects.faithful {q : Sighting} {p : PodReport} (h : Inspects t ns q p) (ha : Agrees t a) :
    p.Faithful a ns where
  description e he := by
    obtain ⟨e', he', hshows⟩ := h.description
    obtain rfl : e' = e := Option.some_inj.1 (he'.symm.trans he)
    exact h.name ▸ hshows.tells ha
  logs e he := h.name ▸ (h.logs e he).tells ha
  events e he := h.name ▸ (h.events e he).tells ha

theorem Inspected.faithful {ss : List Sighting} {ps : List PodReport} (h : Inspected t ns ss ps) (ha : Agrees t a) :
    ∀ p ∈ ps, p.Faithful a ns := by
  induction h with
  | nil => simp
  | cons hq _ ih => exact List.forall_mem_cons.2 ⟨hq.faithful ha, ih⟩

theorem managed_not_mem_storeQueries (limit : Duration) (ns : String) :
    "mlflow/mlflow" ∉ (storeQueries limit ns).map Prod.fst := by
  simp [storeQueries, earlyQueries]

theorem podKey_ne_managed (p : String) : podKey p ≠ "mlflow/mlflow" := podKey_ne (by decide) p

theorem Covers.faithful {pods : List String} {extra : Sorted Evidence} (h : Covers limit ns t pods extra)
    (ha : Agrees t a) : FaithfulTable a limit ns extra := by
  have hmem {k : String} {e : Evidence} (he : extra.get? k = some e) :
      k ∈ (storeQueries limit ns).map Prod.fst ∨ ∃ p ∈ pods, podKey p = k := by
    have hk := h.keys.subset (Sorted.mem_keys_iff.2 ⟨e, he⟩)
    simpa [List.mem_eraseDups] using hk
  refine ⟨fun q hq e he => ?_, fun p e he => ?_, fun e he => ?_, fun k hk => ?_⟩
  · obtain ⟨e', he', hshows⟩ := h.queried q hq
    obtain rfl : e' = e := Option.some_inj.1 (he'.symm.trans he)
    exact hshows.tells ha
  · obtain ⟨p', hp', heq⟩ := (hmem he).resolve_left (podKey_not_mem_storeQueries limit ns p)
    obtain rfl := podKey_injective heq
    obtain ⟨e', he', hreach⟩ := h.reached p' hp'
    obtain rfl : e' = e := Option.some_inj.1 (he'.symm.trans he)
    exact hreach.tells ha
  · obtain ⟨p, -, heq⟩ := (hmem he).resolve_left (managed_not_mem_storeQueries limit ns)
    exact absurd heq (podKey_ne_managed p)
  · obtain ⟨e, he⟩ := Sorted.mem_keys_iff.1 hk
    exact (hmem he).imp_right fun ⟨p, _, heq⟩ => .inl ⟨p, heq⟩

theorem Completes.faithful {first names : List String} {ls : List Listing} {extra : Sorted Evidence}
    (h : Completes limit w t first ls names extra) (ha : Agrees t a) : FaithfulTable a limit w.ns extra := by
  cases h with
  | objectStore _ h => exact h.faithful ha
  | @operator _ _ e _ _ h =>
      have hget {k : String} {e' : Evidence} (he : Sorted.get? [("mlflow/mlflow", e)] k = some e') :
          k = "mlflow/mlflow" ∧ e = e' := by
        rw [Sorted.get?_cons] at he
        split at he
        case isTrue hk => exact ⟨hk.symm, Option.some_inj.1 he⟩
        case isFalse => cases he
      refine ⟨fun q hq e' he => ?_, fun p e' he => ?_, fun e' he => ?_, fun k hk => ?_⟩
      · exact absurd ((hget he).1 ▸ List.mem_map_of_mem hq) (managed_not_mem_storeQueries limit w.ns)
      · exact absurd (hget he).1 (podKey_ne_managed p)
      · exact (hget he).2 ▸ h.tells ha
      · exact .inr (.inr (List.mem_singleton.1 hk))
  | other =>
      refine ⟨fun q hq e he => ?_, fun p e he => ?_, fun e he => ?_, fun k hk => ?_⟩
      · cases he
      · cases he
      · cases he
      · cases hk

theorem faithful_of_contents (h : Contents limit w t r) (ha : Agrees t a) : r.Faithful a limit := by
  obtain ⟨_, _, _, -, -, hcompletes⟩ := h.pods
  obtain rfl := h.workload
  exact ⟨h.description.tells ha, h.inspected.faithful ha, hcompletes.faithful ha⟩

end Evidence

/-- Two clusters with the same pods in the same phases, which may answer everything else, or fail to, as they like. What
is reported on differs in no way, and what is reported is in either case what each query came to by itself. -/
theorem probes_isolated {h : Handler interface σ} {h' : Handler interface τ} (ha : Steady h a) (ha' : Steady h' a')
    (hsame : SamePods a a') (limit : Duration) (w : Resource) (s : σ) (s' : τ) :
    Alike ((collect limit w).run h s).1 ((collect limit w).run h' s').1 ∧
      ((collect limit w).run h s).1.Faithful a limit ∧ ((collect limit w).run h' s').1.Faithful a' limit := by
  have hr := contents_of_runs (runs_transcript h (collect limit w) s)
  have hr' := contents_of_runs (runs_transcript h' (collect limit w) s')
  have hagrees := ha.agrees (collect limit w) s
  have hagrees' := ha'.agrees (collect limit w) s'
  exact ⟨alike_of_contents hr hr' hagrees hagrees' hsame, faithful_of_contents hr hagrees,
    faithful_of_contents hr' hagrees'⟩

def answering (a : Answers) : Handler interface Rehearsal.Workstation
  | .cluster c, s => (⟨.zero, a c⟩, s)
  | .poll .., s => (.unanswered, s)
  | .render _, s => (.ok "", s)
  | .record .., s => (.ok (), s)
  | .machine r, s => Rehearsal.Workstation.answer r s

def uniform (x : Except Failure String) : Answers
  | .pods .. => .ok ["seaweedfs-0"]
  | .podPhase .. => .ok .running
  | .podAddress .. => x.map some
  | .describe _ | .get .. | .podLogs .. | .events .. | .podTable _ | .probe _ => x
  | .namespaceExists _ | .present _ => .ok true
  | .apply .. | .createNamespace _ | .createSecret _ | .delete _ | .await .. => .ok ()

theorem steady_answering (a : Answers) : Steady (answering a) a := fun _ _ => rfl

theorem samePods_uniform (x x' : Except Failure String) : SamePods (uniform x) (uniform x') :=
  ⟨fun _ _ => rfl, fun _ _ => rfl⟩

theorem failing_probes_isolated :
    let ready := uniform (.ok "ready")
    let broken := uniform (.error (.configuration "no cluster"))
    let report (a : Answers) : Report := ((collect .zero ⟨.deployment, "seaweedfs", "mlflow"⟩).run (answering a)
      (Rehearsal.Workstation.start (Rehearsal.Disk.emptyAt []))).1
    (Steady (answering ready) ready ∧ Steady (answering broken) broken ∧ SamePods ready broken) ∧
      Alike (report ready) (report broken) ∧ (report ready).Faithful ready .zero ∧
        (report broken).Faithful broken .zero :=
  have hsame : SamePods (uniform (.ok "ready")) (uniform (.error (.configuration "no cluster"))) :=
    samePods_uniform _ _
  ⟨⟨steady_answering _, steady_answering _, hsame⟩,
    probes_isolated (steady_answering _) (steady_answering _) hsame .zero ⟨.deployment, "seaweedfs", "mlflow"⟩ _ _⟩

end Rollout.Diagnosis
