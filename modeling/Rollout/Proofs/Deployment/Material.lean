import Rollout.Proofs.Deployment.Course
import Rollout.Proofs.Deployment.Record
import Rollout.Proofs.Rehearsal.Files

namespace Rollout.Deployment

open Program Rehearsal Site

variable {α σ : Type} {p : Plan} {h : Handler Site.interface σ} {disk : σ → Disk} {x y : σ} {t : List Event}
  {path : String}

def Writes (r : Request) : Prop := ∃ path text, r = .machine (.write path text)

def NoWrites (t : List Event) : Prop := ∀ e ∈ t, ¬Writes e.1

theorem noWrites_nil : NoWrites [] := List.forall_mem_nil _

theorem NoWrites.append {u : List Event} (ht : NoWrites t) (hu : NoWrites u) : NoWrites (t ++ u) :=
  List.forall_mem_append.2 ⟨ht, hu⟩

theorem NoWrites.logged {e : LogEntry} (ht : NoWrites t) : NoWrites (logged e :: t) :=
  List.forall_mem_cons.2 ⟨fun ⟨_, _, h⟩ => (nomatch h), ht⟩

theorem NoWrites.noted {now : Instant} (ht : NoWrites t) : NoWrites (noted now :: t) :=
  List.forall_mem_cons.2 ⟨fun ⟨_, _, h⟩ => (nomatch h), ht⟩

/-- Parts of steps write nothing but the manifest, and that only where the instance is deployed. -/
theorem noWrites_of_comprises {s : Step} {W : Cluster.Target → Prop} {a : Program Site.interface α} {r : α}
    (ha : Comprises (Admits p s) W a) (hs : s ≠ .serving) (h : Runs a t r) : NoWrites t := by
  rintro e he ⟨path, text, hr⟩
  have hasked := ha.asks.of_mem h he
  rw [hr] at hasked
  rcases hasked with ⟨hserving, -⟩ | ⟨_, _, hfalse⟩
  · exact hs hserving
  · exact hfalse

theorem runs_apply {target : Cluster.Target} {manifest : String} {ns : Option String} {r : Except Failure Unit}
    (h : Runs (apply p target manifest ns).run t r) :
    ∃ reply rest, t = ⟨.cluster (.apply manifest ns), reply⟩ :: rest := by
  rcases runs_onFailure_iff.1 h with ⟨_, rfl, hcall⟩ | ⟨e, u, v, rfl, rfl, hcall, -⟩
  · obtain ⟨took, rfl⟩ := runs_call_iff.1 hcall
    exact ⟨_, _, rfl⟩
  · obtain ⟨took, rfl⟩ := runs_call_iff.1 hcall
    exact ⟨_, _, rfl⟩

/-- The manifest is written once, and no call comes between that and its application. -/
structure Wrote (p : Plan) (before : List Event) (x : Except IoCause Unit) (after : List Event) : Prop where
  noWrites_before : NoWrites before
  noWrites_after : NoWrites after
  next : (calls after).head?.map Sigma.fst = if x.isOk then some (.cluster (.apply p.design.yaml none)) else none

def manifestWritten (p : Plan) (x : Except IoCause Unit) : Event :=
  ⟨.machine (.write p.places.manifest p.design.yaml), x⟩

theorem wrote_deployInstance {r : Except Failure Unit} (h : Runs (deployInstance p).run t r) :
    ∃ before x after, t = before ++ manifestWritten p x :: after ∧ Wrote p before x after ∧
      (r.isOk = true → x.isOk = true) := by
  rcases Site.runs_bind_iff.1 h with ⟨e, rfl, hwarn⟩ | ⟨warned, u, _, rfl, hwarn, hu⟩
  · obtain ⟨_, hfalse, -⟩ := runs_lift_iff.1 hwarn
    cases hfalse
  have hbefore : NoWrites warned :=
    noWrites_of_comprises (W := fun _ => False) (.of_asks (.lift (asks_logWarnings p .ns _))) (by decide) hwarn
  rcases Site.runs_bind_iff.1 hu with ⟨e, rfl, hwrite⟩ | ⟨_, v, _, rfl, hwrite, hv⟩
  · obtain ⟨x, rfl, hx⟩ := runs_write_iff.1 hwrite
    cases x with
    | ok x => cases hx
    | error c => exact ⟨warned, .error c, [], rfl, ⟨hbefore, noWrites_nil, rfl⟩, nofun⟩
  · obtain ⟨x, rfl, hx⟩ := runs_write_iff.1 hwrite
    cases x with
    | error c => cases hx
    | ok x =>
        refine ⟨warned, .ok x, v, rfl, ⟨hbefore, ?_, ?_⟩, fun _ => rfl⟩
        · refine noWrites_of_comprises (p := p) (s := .ns) (W := (Step.servingTarget p = ·)) ?_ (by decide) hv
          refine (comprises_info _ _ (by simp)).bind_except fun _ => (comprises_apply ..).bind_except fun _ => ?_
          exact comprises_waitReady _ _ rfl
        · rcases Site.runs_bind_iff.1 hv with ⟨e, rfl, hinfo⟩ | ⟨told, w, _, rfl, hinfo, hw⟩
          · obtain ⟨_, hfalse, -⟩ := runs_lift_iff.1 hinfo
            cases hfalse
          obtain ⟨_, -, hinfo⟩ := runs_lift_iff.1 hinfo
          obtain rfl := runs_note_iff.1 hinfo
          have happly : ∃ reply rest, w = ⟨.cluster (.apply p.design.yaml none), reply⟩ :: rest := by
            rcases Site.runs_bind_iff.1 hw with ⟨e, rfl, happly⟩ | ⟨applied, rest, _, rfl, happly, -⟩
            · exact runs_apply happly
            · obtain ⟨reply, more, rfl⟩ := runs_apply happly
              exact ⟨reply, more ++ rest, rfl⟩
          obtain ⟨reply, rest, rfl⟩ := happly
          rfl

section Wrote

variable {before after u more : List Event} {s : Step} {steps : List Step} {stages : List Stage}
  {x : Except IoCause Unit} {r : Except Failure Unit}

theorem Wrote.extend (hw : Wrote p before x after) (hmore : NoWrites more) (hcalls : x.isOk = true ∨ calls more = []) :
    Wrote p before x (after ++ more) where
  noWrites_before := hw.noWrites_before
  noWrites_after := hw.noWrites_after.append hmore
  next := by
    rw [calls_append, ← hw.next]
    rcases hcalls with hx | hnil
    · have hnext := hw.next
      rw [if_pos hx] at hnext
      cases hafter : calls after with
      | nil =>
          rw [hafter] at hnext
          cases hnext
      | cons e es => rfl
    · rw [hnil, List.append_nil]

/-- The manifest is written at most once, while the instance is deployed. -/
def WritesManifest (p : Plan) (t : List Event) : Prop :=
  NoWrites t ∨ ∃ before x after, t = before ++ manifestWritten p x :: after ∧ Wrote p before x after ∧
    (started before).getLast? = some .serving

theorem WritesManifest.prepend (ht : WritesManifest p t) (hu : NoWrites u) : WritesManifest p (u ++ t) := by
  rcases ht with ht | ⟨before, x, after, rfl, hw, hserving⟩
  · exact .inl (hu.append ht)
  · refine .inr ⟨u ++ before, x, after, (List.append_assoc ..).symm, ?_, ?_⟩
    · exact ⟨hu.append hw.noWrites_before, hw.noWrites_after, hw.next⟩
    · rw [started_append, List.getLast?_append, hserving]
      rfl

theorem WritesManifest.extend (ht : WritesManifest p t) (hmore : NoWrites more) (hcalls : calls more = []) :
    WritesManifest p (t ++ more) := by
  rcases ht with ht | ⟨before, x, after, rfl, hw, hserving⟩
  · exact .inl (ht.append hmore)
  · exact .inr ⟨before, x, after ++ more, by simp, hw.extend hmore (.inr hcalls), hserving⟩

theorem noWrites_perform {r : Except Failure Unit} (hs : s ≠ .serving) (h : Runs (perform p s).run t r) : NoWrites t :=
  noWrites_of_comprises (comprises_perform p s) hs h

theorem Taken.noWrites (h : Taken p steps t stages r) (hserving : .serving ∉ steps) : NoWrites t := by
  induction h with
  | nil => exact noWrites_nil
  | skipped hs h ih => exact (ih (List.not_mem_of_not_mem_cons hserving)).logged
  | passed start finish hs hu h ih =>
      have hrest := ih (List.not_mem_of_not_mem_cons hserving)
      exact ((noWrites_perform (List.ne_of_not_mem_cons hserving).symm hu).append hrest.noted).noted.logged
  | failed start finish hs hu =>
      have hstep := noWrites_perform (List.ne_of_not_mem_cons hserving).symm hu
      exact (hstep.append noWrites_nil.noted.logged).noted.logged

theorem writesManifest_serving {start : Instant} (h : Runs (perform p .serving).run u r) (hmore : NoWrites more)
    (hcalls : r.isOk = true ∨ calls more = []) :
    WritesManifest p (logged (announcement .serving) :: noted start :: (u ++ more)) := by
  obtain ⟨before, x, after, rfl, hw, hok⟩ := wrote_deployInstance h
  have hstarted : started before = [] := by
    have hnil := started_perform h
    rw [started_append, List.append_eq_nil_iff] at hnil
    exact hnil.1
  refine .inr ⟨logged (announcement .serving) :: noted start :: before, x, after ++ more, by simp, ?_, ?_⟩
  · have hextended := hw.extend hmore (hcalls.imp_left hok)
    exact ⟨hw.noWrites_before.noted.logged, hextended.noWrites_after, hextended.next⟩
  · have hcons : started (logged (announcement .serving) :: noted start :: before) = .serving :: started before :=
      (List.filterMap_cons_some (announced?_announcement .serving)).trans
        (congrArg (Step.serving :: ·) (List.filterMap_cons_none rfl))
    rw [hcons, hstarted]
    rfl

theorem Taken.writesManifest (h : Taken p steps t stages r) (hnodup : steps.Nodup) : WritesManifest p t := by
  induction h with
  | nil => exact .inl noWrites_nil
  | @skipped s rest t stages r hs h ih =>
      exact (ih (List.nodup_cons.1 hnodup).2).prepend (noWrites_nil.logged (e := omission s))
  | @passed s rest u t stages r start finish hs hu h ih =>
      obtain ⟨hrest, hnodup⟩ := List.nodup_cons.1 hnodup
      by_cases hserving : s = .serving
      · subst hserving
        exact writesManifest_serving hu (h.noWrites hrest).noted (.inl rfl)
      · have hprefix : NoWrites (logged (announcement s) :: noted start :: (u ++ [noted finish])) :=
          ((noWrites_perform hserving hu).append noWrites_nil.noted).noted.logged
        have hwrites := (ih hnodup).prepend hprefix
        simpa using hwrites
  | @failed s rest u e start finish hs hu =>
      by_cases hserving : s = .serving
      · subst hserving
        exact writesManifest_serving hu noWrites_nil.noted.logged (.inr rfl)
      · exact .inl ((noWrites_perform hserving hu).append noWrites_nil.noted.logged).noted.logged

end Wrote

/-- What a run asks before its files are removed. Of what changes files it asks only for the manifest to be
written. -/
def Works (p : Plan) : Request → Prop
  | .machine (.write path text) => path = p.places.manifest ∧ text = p.design.yaml
  | .machine (.append ..) | .machine (.read _) | .machine (.occupied _) | .machine (.remove _) => False
  | _ => True

theorem works_perform {s : Step} {r : Except Failure Unit} (h : Runs (perform p s).run t r) :
    ∀ e ∈ t, Works p e.1 := by
  refine fun e he => ((comprises_perform p s).asks.mono fun request hr => ?_).of_mem h he
  match request with
  | .cluster _ | .poll .. | .render _ | .record .. => trivial
  | .machine (.log _) | .machine .now | .machine (.hold _) | .machine (.pause _) | .machine .drawId => trivial
  | .machine (.write path text) =>
      rcases hr with ⟨-, hwrite⟩ | ⟨_, _, hfalse⟩
      · exact hwrite
      · cases hfalse
  | .machine (.append ..) | .machine (.read _) | .machine (.occupied _) | .machine (.remove _) =>
      rcases hr with hfalse | ⟨_, _, hfalse⟩
      · cases hfalse
      · cases hfalse

theorem Taken.works {steps : List Step} {stages : List Stage} {r : Except Failure Unit}
    (h : Taken p steps t stages r) : ∀ e ∈ t, Works p e.1 := by
  induction h with
  | nil => exact List.forall_mem_nil _
  | skipped hs h ih => exact List.forall_mem_cons.2 ⟨trivial, ih⟩
  | passed start finish hs hu h ih =>
      refine List.forall_mem_cons.2 ⟨trivial, List.forall_mem_cons.2 ⟨trivial, ?_⟩⟩
      exact List.forall_mem_append.2 ⟨works_perform hu, List.forall_mem_cons.2 ⟨trivial, ih⟩⟩
  | failed start finish hs hu =>
      refine List.forall_mem_cons.2 ⟨trivial, List.forall_mem_cons.2 ⟨trivial, ?_⟩⟩
      refine List.forall_mem_append.2 ⟨works_perform hu, List.forall_mem_cons.2 ⟨trivial, ?_⟩⟩
      exact List.forall_mem_singleton.2 trivial

abbrev transientPaths (p : Plan) : List String := (Transient.ofPlan p).paths

theorem run_runRecorded (p : Plan) (h : Handler Site.interface σ) (x : σ) :
    ∃ y s, ((runRecorded p).run h x).2 =
      ((logSummary s).run h ((Transient.ofPlan p).release.run h y).2).2 := by
  rw [runRecorded, run_seq, run_seq, run_seq, run_seq, run_seq]
  exact ⟨_, _, rfl⟩

def Asked (p : Plan) (r : Request) : Prop := Works p r ∨ Clears (transientPaths p) r

theorem parts_of_runs {out : Summary × Except Failure Unit} (h : Runs (runRecorded p) t out) :
    ∃ work cleanup released, t = work ++ cleanup ++ out.1.report.map logged ∧ (∀ e ∈ work, Works p e.1) ∧
      WritesManifest p work ∧ Runs (Transient.ofPlan p).release cleanup released := by
  obtain ⟨id, steps, cleanup, released, stages, ht, htaken, hcleanup, -⟩ := runs_runRecorded h
  have hstart : NoWrites [⟨.machine .drawId, id⟩, logged ⟨.info, "Starting MLflow deployment", particulars p id⟩] :=
    List.forall_mem_cons.2 ⟨fun ⟨_, _, h⟩ => (nomatch h), noWrites_nil.logged⟩
  refine ⟨_, cleanup, released, ht, ?_, (htaken.writesManifest (by decide)).prepend hstart, hcleanup⟩
  exact List.forall_mem_cons.2 ⟨trivial, List.forall_mem_cons.2 ⟨trivial, htaken.works⟩⟩

end Rollout.Deployment
