import Mathlib.Data.List.Nodup
import Rollout.Proofs.Diagnosis.Lookups
import Rollout.Proofs.Sorted

namespace Rollout.Diagnosis

open Cluster Program Site

variable {t u : List Event} {limit : Duration} {w : Resource} {ns pod : String}

def podKey (pod : String) : String := "pod " ++ pod ++ " connectivity"

def directProbe (limit : Duration) (ns address : String) : Probe :=
  ⟨"debug-pod-direct", "curlimages/curl", ns,
    fetch ("http://" ++ address ++ ":" ++ toString 8333 ++ "/"), limit⟩

/-- The queries about the object store as a whole that come before those about its pods, by the names under which it is
told what came of them. -/
def earlyQueries (limit : Duration) (ns : String) : List (String × Call) :=
  [("service/minio-service", .get ⟨.service, "minio-service", ns⟩ .wide),
    ("endpoints/minio-service", .get ⟨.endpoints, "minio-service", ns⟩ .yaml),
    ("endpoints/seaweedfs", .get ⟨.endpoints, "seaweedfs", ns⟩ .yaml),
    ("dns resolution",
      .probe ⟨"dns-test", "busybox", ns, ["nslookup", "minio-service" ++ "." ++ ns ++ ".svc.cluster.local"], limit⟩),
    ("service connectivity",
      .probe ⟨"test-pod", "alpine/curl:latest", ns,
        fetch ("http://" ++ ("minio-service" ++ "." ++ ns) ++ ":" ++ toString 9000 ++ "/"), limit⟩)]

def storeQueries (limit : Duration) (ns : String) : List (String × Call) :=
  earlyQueries limit ns ++ [("pods", .podTable ns)]

theorem podKey_injective : Function.Injective podKey := fun _ _ h =>
  (String.append_right_inj _).1 ((String.append_left_inj _).1 h)

theorem podKey_ne {k : String} (h : k.toList.take 4 ≠ "pod ".toList) (p : String) : podKey p ≠ k := by
  rintro rfl
  rw [podKey, String.toList_append, String.toList_append, List.append_assoc] at h
  exact h (List.take_left' rfl)

theorem podKey_not_mem_storeQueries (limit : Duration) (ns p : String) :
    podKey p ∉ (storeQueries limit ns).map Prod.fst := by
  have hother : ∀ k ∈ (storeQueries limit ns).map Prod.fst, k.toList.take 4 ≠ "pod ".toList := by
    simp [storeQueries, earlyQueries]
  exact fun hmem => podKey_ne (hother _ hmem) p rfl

theorem nodup_storeQueries (limit : Duration) (ns : String) : ((storeQueries limit ns).map Prod.fst).Nodup := by
  simp [storeQueries, earlyQueries]

theorem pods_not_mem_earlyQueries (limit : Duration) (ns : String) : "pods" ∉ (earlyQueries limit ns).map Prod.fst := by
  simp [earlyQueries]

theorem mem_storeQueries_iff {k : String} :
    k ∈ (storeQueries limit ns).map Prod.fst ↔ k ∈ (earlyQueries limit ns).map Prod.fst ∨ k = "pods" := by
  rw [storeQueries, List.map_append, List.mem_append]
  exact or_congr Iff.rfl List.mem_singleton

theorem nodup_eraseDups (l : List String) : l.eraseDups.Nodup := by
  induction hn : l.length using Nat.strongRecOn generalizing l with
  | _ n ih =>
      cases l with
      | nil => simp
      | cons a l =>
          have hlength : (l.filter fun b => !b == a).length < n := by
            rw [← hn, List.length_cons]
            exact Nat.lt_succ_of_le (List.length_filter_le _ _)
          rw [List.eraseDups_cons, List.nodup_cons]
          exact ⟨by simp, ih _ hlength _ rfl⟩

/-- What is told of a pod of the object store. -/
inductive Reaches (limit : Duration) (ns : String) (t : List Event) (pod : String) : Evidence → Prop
  | answered {address : String} {e : Evidence} (haddress : Told t (.podAddress pod ns) (.ok (some address)))
    (h : Shows t (.probe (directProbe limit ns address)) e) : Reaches limit ns t pod e
  | homeless (h : Told t (.podAddress pod ns) (.ok none)) : Reaches limit ns t pod (.unavailable "pod has no IP")
  | lost {f : Failure} (h : Told t (.podAddress pod ns) (.error f)) : Reaches limit ns t pod (.unavailable f.message)

theorem Reaches.mono {e : Evidence} (h : Reaches limit ns t pod e) (hsub : t ⊆ u) : Reaches limit ns u pod e := by
  cases h with
  | answered haddress h => exact .answered (haddress.mono hsub) (h.mono hsub)
  | homeless h => exact .homeless (h.mono hsub)
  | lost h => exact .lost (h.mono hsub)

theorem reaches_of_runs {e : Evidence} (h : Runs (reachPod limit ns pod) t e) :
    Looks t [] [] ∧ Reaches limit ns t pod e := by
  obtain ⟨took, x, u, rfl, hu⟩ := runs_attempt_bind_iff.1 h
  have htold : Told (⟨.cluster (.podAddress pod ns), ⟨took, x⟩⟩ :: u) (.podAddress pod ns) x :=
    ⟨took, List.mem_cons_self⟩
  rcases x with f | (_ | address)
  · obtain ⟨rfl, rfl⟩ := runs_pure_iff.1 hu
    exact ⟨⟨rfl, rfl⟩, .lost htold⟩
  · obtain ⟨rfl, rfl⟩ := runs_pure_iff.1 hu
    exact ⟨⟨rfl, rfl⟩, .homeless htold⟩
  · have hlearns := learns_of_runs_probe hu
    exact ⟨.append (t := [_]) ⟨rfl, rfl⟩ hlearns.looks,
      .answered htold (hlearns.shows.mono (List.subset_cons_self _ _))⟩

/-- A table to which is added what is told of the pods of the object store. -/
structure Extends (limit : Duration) (ns : String) (t : List Event) (ps : List String) (found out : Sorted Evidence) :
    Prop where
  ascending : found.Ascending → out.Ascending
  kept : ∀ k, (∀ p ∈ ps, podKey p ≠ k) → out.get? k = found.get? k
  reached : ∀ p ∈ ps, ∃ e, out.get? (podKey p) = some e ∧ Reaches limit ns t p e

theorem extends_of_runs {ps : List String} {found out : Sorted Evidence}
    (h : Runs (reachPods limit ns ps found) t out) : Looks t [] [] ∧ Extends limit ns t ps found out := by
  induction ps generalizing t found with
  | nil =>
      obtain ⟨rfl, rfl⟩ := runs_pure_iff.1 h
      exact ⟨.nil, id, fun _ _ => rfl, by simp⟩
  | cons p ps ih =>
      obtain ⟨t₁, t₂, e, rfl, hreach, hrest⟩ := Program.runs_bind_iff.1 h
      obtain ⟨hlooks, hreach⟩ := reaches_of_runs hreach
      obtain ⟨hlooks', hascending, hkept, hreached⟩ := ih hrest
      refine ⟨hlooks.append hlooks', fun hfound => hascending (hfound.insert _ _), fun k hk => ?_, fun q hq => ?_⟩
      · obtain ⟨hp, hps⟩ := List.forall_mem_cons.1 hk
        rw [hkept k hps]
        exact (Sorted.get?_insert ..).trans (if_neg hp)
      · by_cases hmem : q ∈ ps
        · obtain ⟨e', he', hreach'⟩ := hreached q hmem
          exact ⟨e', he', hreach'.mono (List.subset_append_right _ _)⟩
        -- The last time that a pod is listed is the one that counts.
        · obtain rfl : q = p := (List.mem_cons.1 hq).resolve_right hmem
          refine ⟨e, ?_, hreach.mono (List.subset_append_left _ _)⟩
          have hlast : ∀ p ∈ ps, podKey p ≠ podKey q := fun p hp heq => hmem ((podKey_injective heq).symm ▸ hp)
          rw [hkept _ hlast]
          exact (Sorted.get?_insert ..).trans (if_pos rfl)

theorem Extends.mem_keys_iff {ps : List String} {found out : Sorted Evidence} (h : Extends limit ns t ps found out)
    (k : String) : k ∈ out.keys ↔ k ∈ found.keys ∨ ∃ p ∈ ps, podKey p = k := by
  by_cases hpod : ∃ p ∈ ps, podKey p = k
  · refine iff_of_true ?_ (.inr hpod)
    obtain ⟨p, hp, rfl⟩ := hpod
    obtain ⟨e, he, -⟩ := h.reached p hp
    exact Sorted.mem_keys_iff.2 ⟨e, he⟩
  · rw [or_iff_left hpod, Sorted.mem_keys_iff, Sorted.mem_keys_iff, h.kept k fun p hp heq => hpod ⟨p, hp, heq⟩]

/-- What is told of the object store. -/
structure Covers (limit : Duration) (ns : String) (t : List Event) (pods : List String) (extra : Sorted Evidence) :
    Prop where
  ascending : extra.Ascending
  keys : extra.keys.Perm ((storeQueries limit ns).map Prod.fst ++ pods.eraseDups.map podKey)
  queried : ∀ q ∈ storeQueries limit ns, ∃ e, extra.get? q.1 = some e ∧ Shows t q.2 e
  reached : ∀ p ∈ pods, ∃ e, extra.get? (podKey p) = some e ∧ Reaches limit ns t p e

theorem Covers.mono {pods : List String} {extra : Sorted Evidence} (h : Covers limit ns t pods extra) (hsub : t ⊆ u) :
    Covers limit ns u pods extra where
  ascending := h.ascending
  keys := h.keys
  queried q hq := by
    obtain ⟨e, he, hshows⟩ := h.queried q hq
    exact ⟨e, he, hshows.mono hsub⟩
  reached p hp := by
    obtain ⟨e, he, hreach⟩ := h.reached p hp
    exact ⟨e, he, hreach.mono hsub⟩

theorem Extends.mono {ps : List String} {found out : Sorted Evidence} (h : Extends limit ns t ps found out)
    (hsub : t ⊆ u) : Extends limit ns u ps found out :=
  { h with
    reached := fun p hp => by
      obtain ⟨e, he, hreach⟩ := h.reached p hp
      exact ⟨e, he, hreach.mono hsub⟩ }

theorem covers_of_extends {pods : List String} {found out : Sorted Evidence} {e : Evidence}
    (hascending : found.Ascending) (hkeys : ∀ k, k ∈ found.keys ↔ k ∈ (earlyQueries limit ns).map Prod.fst)
    (hqueried : ∀ q ∈ earlyQueries limit ns, ∃ e, found.get? q.1 = some e ∧ Shows t q.2 e)
    (hout : Extends limit ns t pods found out) (htable : Shows t (.podTable ns) e) :
    Covers limit ns t pods (out.insert "pods" e) := by
  have hpod (p : String) : podKey p ≠ "pods" := podKey_ne (by decide) p
  have hout_ascending := (hout.ascending hascending).insert "pods" e
  refine ⟨hout_ascending, ?_, fun q hq => ?_, fun p hp => ?_⟩
  · have hnodup : ((storeQueries limit ns).map Prod.fst ++ pods.eraseDups.map podKey).Nodup := by
      refine List.nodup_append.2 ⟨nodup_storeQueries limit ns, (nodup_eraseDups _).map podKey_injective, ?_⟩
      rintro k hk _ hmem rfl
      obtain ⟨p, -, rfl⟩ := List.mem_map.1 hmem
      exact podKey_not_mem_storeQueries limit ns p hk
    -- Neither list repeats a key, so it is enough that they have the same ones.
    refine (List.perm_ext_iff_of_nodup hout_ascending.nodup hnodup).2 fun k => ?_
    rw [Sorted.mem_keys_insert_iff, hout.mem_keys_iff, hkeys, List.mem_append, mem_storeQueries_iff, List.mem_map,
      or_left_comm, or_assoc]
    simp [List.mem_eraseDups]
  · rcases List.mem_append.1 hq with hearly | hlast
    · obtain ⟨e', he', hshows⟩ := hqueried q hearly
      have hmem := List.mem_map_of_mem (f := Prod.fst) hearly
      have hpods : "pods" ≠ q.1 := fun heq => pods_not_mem_earlyQueries limit ns (heq ▸ hmem)
      refine ⟨e', ?_, hshows⟩
      rw [Sorted.get?_insert, if_neg hpods, hout.kept, he']
      exact fun p _ heq => podKey_not_mem_storeQueries limit ns p (heq ▸ List.mem_map_of_mem hq)
    · obtain rfl := List.mem_singleton.1 hlast
      exact ⟨e, (Sorted.get?_insert ..).trans (if_pos rfl), htable⟩
  · obtain ⟨e', he', hreach⟩ := hout.reached p hp
    refine ⟨e', ?_, hreach⟩
    rw [Sorted.get?_insert, if_neg (hpod p).symm, he']

theorem covers_of_runs {extra : Sorted Evidence} (h : Runs (surveyObjectStore limit ns) t extra) :
    ∃ x, Looks t [⟨"app=seaweedfs", ns, x⟩] [] ∧ Covers limit ns t (listed x) extra := by
  obtain ⟨took₁, service, t₁, rfl, h₁⟩ := runs_attempt_bind_iff.1 h
  obtain ⟨took₂, front, t₂, rfl, h₂⟩ := runs_attempt_bind_iff.1 h₁
  obtain ⟨took₃, back, t₃, rfl, h₃⟩ := runs_attempt_bind_iff.1 h₂
  obtain ⟨u₄, t₄, resolution, rfl, hresolution, h₄⟩ := Program.runs_bind_iff.1 h₃
  obtain ⟨u₅, t₅, reached, rfl, hreached, h₅⟩ := Program.runs_bind_iff.1 h₄
  obtain ⟨took₆, x, t₆, rfl, h₆⟩ := runs_attempt_bind_iff.1 h₅
  obtain ⟨u₇, t₇, out, rfl, hout, h₇⟩ := Program.runs_bind_iff.1 h₆
  obtain ⟨took₈, table, rfl, rfl⟩ := runs_query_iff.1 h₇
  have hresolution := learns_of_runs_probe hresolution
  have hreached := learns_of_runs_probe hreached
  obtain ⟨found, hout, hfound⟩ : ∃ found, Runs (reachPods limit ns (listed x) found) u₇ out ∧ found = Sorted.ofList
      [("service/minio-service", .ofOutcome service), ("endpoints/minio-service", .ofOutcome front),
        ("endpoints/seaweedfs", .ofOutcome back), ("dns resolution", resolution), ("service connectivity", reached)] :=
    ⟨_, by cases x <;> exact hout, rfl⟩
  obtain ⟨hlooks, hextends⟩ := extends_of_runs hout
  refine ⟨x, ?_, covers_of_extends (hfound ▸ Sorted.ascending_ofList _) (fun k => ?_) (fun q hq => ?_)
    (hextends.mono fun e he => by simp [he]) ⟨table, ⟨took₈, by simp⟩, rfl⟩⟩
  · exact .append (t := [_, _, _]) ⟨rfl, rfl⟩ (hresolution.looks.append (hreached.looks.append
      (hlooks.append (u := [_]) ⟨rfl, rfl⟩).listing))
  · rw [hfound]
    exact Sorted.mem_keys_ofList_iff
  · simp only [earlyQueries, List.mem_cons, List.not_mem_nil, or_false] at hq
    rcases hq with rfl | rfl | rfl | rfl | rfl
    · exact ⟨_, by simp [hfound, Sorted.ofList], service, ⟨took₁, by simp [frontService]⟩, rfl⟩
    · exact ⟨_, by simp [hfound, Sorted.ofList], front, ⟨took₂, by simp [frontService]⟩, rfl⟩
    · exact ⟨_, by simp [hfound, Sorted.ofList], back, ⟨took₃, by simp [Stack.objectStoreWorkload]⟩, rfl⟩
    · exact ⟨_, by simp [hfound, Sorted.ofList], hresolution.shows.mono fun e he => by simp [he]⟩
    · exact ⟨_, by simp [hfound, Sorted.ofList], hreached.shows.mono fun e he => by simp [he]⟩

/-- Names to which those of another list are added that are not among them, each once. -/
structure Adds (first more names : List String) : Prop where
  eq : names = first ++ (more.filter (· ∉ first)).eraseDups
  none_lost : ∀ p ∈ more, p ∈ names
  nodup : first.Nodup → names.Nodup

theorem adds_filter_eraseDups (first more : List String) :
    Adds first more (first ++ (more.filter (· ∉ first)).eraseDups) := by
  refine ⟨rfl, fun p hp => ?_, fun hfirst => ?_⟩
  · by_cases hmem : p ∈ first
    · exact List.mem_append_left _ hmem
    · exact List.mem_append_right _ (List.mem_eraseDups.2 (List.mem_filter.2 ⟨hp, by simpa using hmem⟩))
  · refine List.nodup_append.2 ⟨hfirst, nodup_eraseDups _, ?_⟩
    rintro p hp _ hmem rfl
    have hnot := (List.mem_filter.1 (List.mem_eraseDups.1 hmem)).2
    simp [hp] at hnot

/-- What is special to the workload, in view of the pods that were first found: the lists of pods that are asked for
besides, the pods reported on, and what else is told. -/
inductive Completes (limit : Duration) (w : Resource) (t : List Event) (first : List String) :
    List Listing → List String → Sorted Evidence → Prop
  | objectStore {x : Except Failure (List String)} {extra : Sorted Evidence}
    (hname : w.name = "seaweedfs" ∨ w.name = "init-seaweedfs") (h : Covers limit w.ns t (listed x) extra) :
    Completes limit w t first [⟨"app=seaweedfs", w.ns, x⟩] first extra
  | operator {x : Except Failure (List String)} {names : List String} {e : Evidence}
    (hname : w.name = "mlflow-operator-controller-manager") (hnames : Adds first (listed x) names)
    (h : Shows t (.describe ⟨.mlflow, "mlflow", w.ns⟩) e) :
    Completes limit w t first [⟨"control-plane=controller-manager", w.ns, x⟩] names [("mlflow/mlflow", e)]
  | other (hname : w.name ≠ "seaweedfs" ∧ w.name ≠ "init-seaweedfs" ∧ w.name ≠ "mlflow-operator-controller-manager") :
    Completes limit w t first [] first []

theorem Completes.mono {first names : List String} {further : List Listing} {extra : Sorted Evidence}
    (h : Completes limit w t first further names extra) (hsub : t ⊆ u) :
    Completes limit w u first further names extra := by
  cases h with
  | objectStore hname h => exact .objectStore hname (h.mono hsub)
  | operator hname hnames h => exact .operator hname hnames (h.mono hsub)
  | other hname => exact .other hname

/-- What a report on a workload contains, in view of all that was asked and answered. -/
structure Contents (limit : Duration) (w : Resource) (t : List Event) (r : Report) : Prop where
  workload : r.workload = w
  description : Shows t (.describe w) r.description
  inspected : Inspected t w.ns (sightings t) r.pods
  pods : ∃ found further first, listings t = found ++ further ∧ Finds w found first ∧
    Completes limit w t first further (r.pods.map (·.name)) r.extra

theorem concernsObjectStore_iff : concernsObjectStore w = true ↔ w.name = "seaweedfs" ∨ w.name = "init-seaweedfs" := by
  rw [concernsObjectStore, Bool.or_eq_true, beq_iff_eq, beq_iff_eq]
  rfl

def complete (limit : Duration) (w : Resource) (description : Evidence) (pods : List PodReport) :
    Program interface Report := do
  if concernsObjectStore w then
    return ⟨w, description, pods, ← surveyObjectStore limit w.ns⟩
  else if w.name = Stack.operatorWorkload then do
    let pods ← match ← attempt (.pods Stack.operatorSelector w.ns) with
      | .ok ps => inspectNew w.ns pods ps
      | .error _ => pure pods
    let managed ← describe ⟨.mlflow, Stack.instanceName, w.ns⟩
    return ⟨w, description, pods, [("mlflow/" ++ Stack.instanceName, managed)]⟩
  else return ⟨w, description, pods, []⟩

theorem collect_eq (limit : Duration) (w : Resource) : collect limit w = (do
    Machine.warn "Collecting diagnostics" [("workload", w.text)]
    let description ← describe w
    let pods ← inspectAll w.ns (← findPods w)
    complete limit w description pods) := rfl

theorem completes_of_runs {description : Evidence} {pods : List PodReport} {r : Report}
    (h : Runs (complete limit w description pods) t r) :
    ∃ further ss added extra, Looks t further ss ∧ Inspected t w.ns ss added ∧
      Completes limit w t (pods.map (·.name)) further ((pods ++ added).map (·.name)) extra ∧
        r = ⟨w, description, pods ++ added, extra⟩ := by
  rw [complete] at h
  split at h
  case isTrue hstore =>
    obtain ⟨t₁, t₂, extra, rfl, hsurvey, hpure⟩ := Program.runs_bind_iff.1 h
    obtain ⟨rfl, rfl⟩ := runs_pure_iff.1 hpure
    obtain ⟨x, hlooks, hcovers⟩ := covers_of_runs hsurvey
    rw [List.append_nil]
    refine ⟨_, [], [], extra, hlooks, .nil, ?_, by rw [List.append_nil]⟩
    rw [List.append_nil]
    exact .objectStore (concernsObjectStore_iff.1 hstore) hcovers
  case isFalse hstore =>
    split at h
    case isTrue hname =>
      obtain ⟨took, x, t₁, rfl, hmore⟩ := runs_attempt_bind_iff.1 h
      -- A question that fails lists no pods, and the run goes on in the same way.
      obtain ⟨t₂, t₃, ss, added, rfl, hlooks, hadded, hnames, hrest⟩ : ∃ t₂ t₃ ss added, t₁ = t₂ ++ t₃ ∧
          Looks t₂ [] ss ∧ Inspected t₂ w.ns ss added ∧
          added.map (·.name) = ((listed x).filter fun p => p ∉ pods.map (·.name)).eraseDups ∧
          Runs (describe ⟨.mlflow, "mlflow", w.ns⟩ >>= fun managed =>
            pure ⟨w, description, pods ++ added, [("mlflow/mlflow", managed)]⟩) t₃ r := by
        cases x with
        | error f => exact ⟨[], t₁, [], [], rfl, .nil, .nil, rfl, (List.append_nil pods).symm ▸ hmore⟩
        | ok more =>
            obtain ⟨t₂, t₃, _, rfl, hnew, hrest⟩ := Program.runs_bind_iff.1 hmore
            obtain ⟨ss, added, hlooks, hadded, rfl, hnames⟩ := added_of_runs hnew
            exact ⟨t₂, t₃, ss, added, rfl, hlooks, hadded, hnames, hrest⟩
      obtain ⟨t₄, t₅, managed, rfl, hmanaged, hpure⟩ := Program.runs_bind_iff.1 hrest
      obtain ⟨rfl, rfl⟩ := runs_pure_iff.1 hpure
      have hmanaged := learns_of_runs_describe hmanaged
      rw [List.append_nil]
      refine ⟨_, ss ++ [], added, _, (hlooks.append hmanaged.looks).listing, ?_, ?_, rfl⟩
      · rw [List.append_nil]
        exact hadded.mono fun e he => by simp [he]
      · rw [List.map_append, hnames]
        exact .operator hname (adds_filter_eraseDups _ _) (hmanaged.shows.mono fun e he => by simp [he])
    case isFalse hname =>
      obtain ⟨rfl, rfl⟩ := runs_pure_iff.1 h
      obtain ⟨hstore, hjob⟩ := not_or.1 (mt concernsObjectStore_iff.2 hstore)
      refine ⟨[], [], [], [], .nil, .nil, ?_, by rw [List.append_nil]⟩
      rw [List.append_nil]
      exact .other ⟨hstore, hjob, hname⟩

theorem contents_of_runs {r : Report} (h : Runs (collect limit w) t r) : Contents limit w t r := by
  rw [collect_eq] at h
  obtain ⟨t₁, _, _, rfl, hwarn, h⟩ := Program.runs_bind_iff.1 h
  obtain ⟨t₂, _, description, rfl, hdescribe, h⟩ := Program.runs_bind_iff.1 h
  obtain ⟨t₃, _, names, rfl, hfind, h⟩ := Program.runs_bind_iff.1 h
  obtain ⟨t₄, t₅, pods, rfl, hinspect, hrest⟩ := Program.runs_bind_iff.1 h
  have hwarned : Looks t₁ [] [] := by
    rw [runs_log_iff.1 hwarn]
    exact ⟨rfl, rfl⟩
  have hdescribed := learns_of_runs_describe hdescribe
  obtain ⟨found, hfound, hfinds⟩ := finds_of_runs hfind
  obtain ⟨ss, hseen, hinspected, rfl⟩ := inspected_of_runs hinspect
  obtain ⟨further, ss', added, extra, hlater, hadded, hcompletes, rfl⟩ := completes_of_runs hrest
  have hlooks := hwarned.prepend (hdescribed.looks.prepend (hfound.append (hseen.append hlater)))
  refine ⟨rfl, hdescribed.shows.mono fun e he => by simp [he], ?_, found, further, _, hlooks.listings, hfinds,
    hcompletes.mono fun e he => by simp [he]⟩
  rw [hlooks.sightings]
  exact List.rel_append (hinspected.mono fun e he => by simp [he]) (hadded.mono fun e he => by simp [he])

/-- Whatever the site, a report is made up of what the calls of its own run came to. -/
theorem report_contents {σ : Type} (h : Handler interface σ) (limit : Duration) (w : Resource) (s : σ) :
    Contents limit w ((collect limit w).transcript h s) ((collect limit w).run h s).1 :=
  contents_of_runs (runs_transcript h _ s)

end Rollout.Diagnosis
