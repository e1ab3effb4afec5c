import Rollout.Proofs.Deployment.Course

namespace Rollout.Site

open Program

def Request.isDiagnostic : Request → Bool
  | .cluster c => c.isDiagnostic
  | _ => false

theorem Request.isDiagnostic_of_isAside {r : Request} (h : r.isAside = true) : r.isDiagnostic = false := by
  match r with
  | .machine m => rfl

/-- Nothing is looked into. -/
def Quiet (t : List Event) : Prop := ∀ e ∈ t, Request.isDiagnostic e.1 = false

theorem quiet_nil : Quiet [] := List.forall_mem_nil _

theorem Quiet.append {t u : List Event} (ht : Quiet t) (hu : Quiet u) : Quiet (t ++ u) :=
  List.forall_mem_append.2 ⟨ht, hu⟩

theorem Quiet.cons {e : Event} {t : List Event} (he : Request.isDiagnostic e.1 = false) (ht : Quiet t) :
    Quiet (e :: t) := List.forall_mem_cons.2 ⟨he, ht⟩

theorem Aside.quiet {t : List Event} (h : Aside t) : Quiet t :=
  fun e he => Request.isDiagnostic_of_isAside (h e he)

end Rollout.Site

namespace Rollout.Deployment

open Cluster Program Site

/-- A call that fails without anything being looked into, with its own failure. -/
inductive Plain : Event → Failure → Prop
  | checkNamespace (name : String) (took : Duration) (e : Failure) :
      Plain ⟨.cluster (.namespaceExists name), ⟨took, .error e⟩⟩ e
  | createNamespace (name : String) (took : Duration) (e : Failure) :
      Plain ⟨.cluster (.createNamespace name), ⟨took, .error e⟩⟩ e
  | delete (r : Resource) (took : Duration) (e : Failure) : Plain ⟨.cluster (.delete r), ⟨took, .error e⟩⟩ e
  | createSecret (s : Secret) (took : Duration) (e : Failure) :
      Plain ⟨.cluster (.createSecret s), ⟨took, .error e⟩⟩ e
  | render (part : Part) (e : Failure) : Plain ⟨.render part, .error e⟩ e
  | write (path text : String) (c : IoCause) : Plain ⟨.machine (.write path text), .error c⟩ (.io c)
  | record (key value : String) (e : Failure) : Plain ⟨.record key value, .error e⟩ e

/-- A call of a step that fails and on account of which a workload is looked into, with the failure that the step
comes to. -/
inductive Breakdown (p : Plan) (s : Step) : Event → Resource → Failure → Prop
  | apply {t : Target} (ht : s.target? p = some t) (manifest : String) (ns : Option String) (took : Duration)
      (e : Failure) : Breakdown p s ⟨.cluster (.apply manifest ns), ⟨took, .error e⟩⟩ t.creator e
  | existence {t : Target} (ht : s.target? p = some t) (hexists : t.existsWithin = some p.limits.wait)
      (limit : Duration) (x : Poll) (hx : x.found? limit = none) (elapsed : Duration) :
      Breakdown p s ⟨.poll t.resource limit, x⟩ t.creator
        (.timeout ("wait for " ++ t.resource.label ++ " to exist") p.limits.wait elapsed)
  | availability {t : Target} (ht : s.target? p = some t) (took : Duration) (e : Failure) :
      Breakdown p s ⟨.cluster (.await t.resource .available p.limits.wait), ⟨took, .error e⟩⟩ t.resource
        (.timeout ("wait for " ++ t.resource.label ++ " to be available") p.limits.wait took)
  | job (hs : s = .objectStore) (took : Duration) (e : Failure) :
      Breakdown p s
        ⟨.cluster (.await ⟨.job, "init-seaweedfs", p.ns⟩ .complete p.limits.initJob), ⟨took, .error e⟩⟩
        ⟨.job, "init-seaweedfs", p.ns⟩
        (.timeout "wait for job/init-seaweedfs to be complete" p.limits.initJob took)

variable {α β : Type} {p : Plan} {s : Step} {w : Resource} {t u : List Event} {e : Failure}

theorem Plain.isCall {failing : Event} (h : Plain failing e) : Request.isCall failing.1 = true := by
  cases h with
  | _ => rfl

theorem Plain.isDiagnostic {failing : Event} (h : Plain failing e) : Request.isDiagnostic failing.1 = false := by
  cases h with
  | _ => rfl

theorem Breakdown.isCall {failing : Event} (h : Breakdown p s failing w e) : Request.isCall failing.1 = true := by
  cases h with
  | _ => rfl

theorem not_plain_of_breakdown {failing : Event} {e' : Failure} (h : Breakdown p s failing w e) :
    ¬Plain failing e' := by
  intro h'
  cases h with
  | _ => cases h'

theorem creator_of_target? {t : Target} (ht : s.target? p = some t) :
    t.creator = if s = .serving then ⟨.deployment, "mlflow-operator-controller-manager", p.ns⟩ else t.resource := by
  cases s with
  | ns | access => cases ht
  | database | objectStore | operator | serving =>
      obtain rfl := Option.some.inj ht
      rfl

/-- Everything is quiet up to a call that breaks down, after which nothing but asides follow. -/
def BreaksDown (p : Plan) (s : Step) (w : Resource) (t : List Event) (e : Failure) : Prop :=
  ∃ before failing noted,
    t = before ++ failing :: noted ∧ Quiet before ∧ Breakdown p s failing w e ∧ Aside noted

inductive Ends (p : Plan) (s : Step) : List Event → Failure → Prop
  | plain {before : List Event} {failing : Event} {e : Failure} (hbefore : Quiet before) (h : Plain failing e) :
      Ends p s (before ++ [failing]) e
  | diagnosed {t inquiry : List Event} {w : Resource} {e : Failure} {report : Diagnosis.Report}
      (h : BreaksDown p s w t e) (hinquiry : Runs (Diagnosis.collectAndLog p.limits.probe w) inquiry report) :
      Ends p s (t ++ inquiry) e

theorem BreaksDown.prepend (h : BreaksDown p s w t e) (hu : Quiet u) : BreaksDown p s w (u ++ t) e := by
  obtain ⟨before, failing, noted, rfl, hbefore, hbreak, hnoted⟩ := h
  exact ⟨u ++ before, failing, noted, (List.append_assoc ..).symm, hu.append hbefore, hbreak, hnoted⟩

theorem Ends.prepend (h : Ends p s t e) (hu : Quiet u) : Ends p s (u ++ t) e := by
  cases h with
  | plain hbefore h =>
      rw [← List.append_assoc]
      exact .plain (hu.append hbefore) h
  | diagnosed h hinquiry =>
      rw [← List.append_assoc]
      exact .diagnosed (h.prepend hu) hinquiry

def QuietOr (P : List Event → Failure → Prop) (t : List Event) : Except Failure α → Prop
  | .ok _ => Quiet t
  | .error e => P t e

/-- Whatever is answered, the part of a step is quiet when it succeeds, and ends as a step does when it fails. -/
def Fares (p : Plan) (s : Step) (a : Action α) : Prop := ∀ ⦃t r⦄, Runs a.run t r → QuietOr (Ends p s) t r

namespace Fares

theorem bind {a : Action α} {f : α → Action β} (ha : Fares p s a) (hf : ∀ x, Fares p s (f x)) :
    Fares p s (a >>= f) := by
  intro t r h
  rcases Site.runs_bind_iff.1 h with ⟨e, rfl, he⟩ | ⟨u, v, x, rfl, hu, hv⟩
  · exact ha he
  · have hquiet : Quiet u := ha hu
    have hrest := hf x hv
    cases r with
    | ok y => exact hquiet.append hrest
    | error e => exact hrest.prepend hquiet

theorem lift {b : Program interface α} (hb : b.Asks fun r : Request => r.isDiagnostic = false) :
    Fares p s (ExceptT.lift b) := by
  intro t r h
  have hquiet : Quiet t := fun e he => (Asks.lift hb).of_mem h he
  obtain ⟨u, v, x, rfl, hu, hv⟩ := Program.runs_bind_iff.1 h
  obtain ⟨rfl, rfl⟩ := runs_pure_iff.1 hv
  exact hquiet

theorem info (text : String) (fields : List (String × String)) : Fares p s (info text fields) :=
  lift (.perform rfl)

theorem call {c : Call} (hc : c.isDiagnostic = false)
    (hplain : ∀ took e, Plain ⟨.cluster c, ⟨took, .error e⟩⟩ e) : Fares p s (call c) := by
  intro t r h
  obtain ⟨took, rfl⟩ := runs_call_iff.1 h
  cases r with
  | ok x => exact .cons hc quiet_nil
  | error e => exact .plain quiet_nil (hplain took e)

theorem render (part : Part) : Fares p s (render part) := by
  intro t r h
  obtain rfl := runs_render_iff.1 h
  cases r with
  | ok text => exact .cons rfl quiet_nil
  | error e => exact .plain quiet_nil (.render part e)

theorem record (key value : String) : Fares p s (record key value) := by
  intro t r h
  obtain rfl := runs_record_iff.1 h
  cases r with
  | ok x => exact .cons rfl quiet_nil
  | error e => exact .plain quiet_nil (.record key value e)

theorem write (path text : String) : Fares p s (write path text) := by
  intro t r h
  obtain ⟨x, rfl, rfl⟩ := runs_write_iff.1 h
  cases x with
  | ok x => exact .cons rfl quiet_nil
  | error c => exact .plain quiet_nil (.write path text c)

theorem onFailure {a : Action α} (ha : ∀ ⦃t r⦄, Runs a.run t r → QuietOr (BreaksDown p s w) t r) :
    Fares p s (onFailure a (diagnose p w)) := by
  intro t r h
  rcases runs_onFailure_iff.1 h with ⟨x, rfl, hx⟩ | ⟨e, u, v, rfl, rfl, hu, hv⟩
  · exact ha hx
  · obtain ⟨v, _, report, rfl, hinquiry, hend⟩ := Program.runs_bind_iff.1 hv
    obtain ⟨rfl, -⟩ := runs_pure_iff.1 hend
    rw [List.append_nil]
    exact .diagnosed (ha hu) hinquiry

theorem apply {t : Target} (ht : s.target? p = some t) (manifest : String) (ns : Option String) :
    Fares p s (apply p t manifest ns) := by
  refine onFailure fun u r h => ?_
  obtain ⟨took, rfl⟩ := runs_call_iff.1 h
  cases r with
  | ok x => exact .cons rfl quiet_nil
  | error e => exact ⟨[], _, [], rfl, quiet_nil, .apply ht manifest ns took e, List.forall_mem_nil _⟩

theorem existence {t : Target} (ht : s.target? p = some t) (hexists : t.existsWithin = some p.limits.wait)
    {elapsed : Nat} {tr : List Event} {r : Except Failure Unit} (h : Wait.Polling t p.limits.wait.nanos elapsed tr r) :
    QuietOr (BreaksDown p s t.creator) tr r := by
  have hnote (note : LogEntry) : Aside [⟨.machine (.log note), ()⟩] := List.forall_mem_singleton.2 rfl
  induction h with
  | found elapsed x took note hx => exact .cons rfl (hnote note).quiet
  | expired elapsed x note hx hend => exact ⟨[], _, _, rfl, quiet_nil, .existence ht hexists _ x hx _, hnote note⟩
  | @again elapsed x note tr r hx hend h ih =>
      -- A query that is not the last one is no failure of the wait.
      have hquiet : Quiet [⟨.poll t.resource (Wait.queryLimit t p.limits.wait.nanos elapsed), x⟩,
          ⟨.machine (.log note), ()⟩, ⟨.machine (.pause ⟨Wait.rest t.pollEvery.nanos
            (p.limits.wait.nanos - Wait.queryEnd t p.limits.wait.nanos elapsed x)⟩), ()⟩] :=
        .cons rfl (.cons rfl (.cons rfl quiet_nil))
      cases r with
      | ok x => exact Quiet.append hquiet ih
      | error e => exact BreaksDown.prepend ih hquiet

theorem condition {r : Resource} {c : Condition} {limit : Duration}
    (hbreak : ∀ took e, Breakdown p s ⟨.cluster (.await r c limit), ⟨took, .error e⟩⟩ r
      (.timeout ("wait for " ++ r.label ++ " to be " ++ c.text) limit took)) :
    Fares p s (Site.onFailure (Wait.untilCondition r c limit) (diagnose p r)) := by
  refine onFailure fun u x h => ?_
  obtain ⟨before, ⟨took, outcome⟩, after, rfl, ⟨rfl, -⟩ | ⟨e, rfl, houtcome⟩⟩ := Wait.runs_untilCondition h
  · exact .cons rfl (.cons rfl (.cons rfl quiet_nil))
  · obtain rfl : outcome = .error e := houtcome
    exact ⟨[_], _, [_], rfl, .cons rfl quiet_nil, hbreak took e, List.forall_mem_singleton.2 rfl⟩

theorem waitReady {t : Target} (ht : s.target? p = some t) : Fares p s (waitReady p t) := by
  have hlimits : (t.existsWithin = none ∨ t.existsWithin = some p.limits.wait) ∧
      t.availableWithin = p.limits.wait := by
    cases s with
    | database | objectStore | serving =>
        obtain rfl := Option.some.inj ht
        exact ⟨.inr rfl, rfl⟩
    | operator =>
        obtain rfl := Option.some.inj ht
        exact ⟨.inl rfl, rfl⟩
    | ns | access => cases ht
  refine bind (onFailure fun u r h => ?_) fun _ => condition fun took e => ?_
  · rcases hlimits.1 with hnone | hsome
    · rw [Wait.untilExists, hnone] at h
      obtain ⟨rfl, rfl⟩ := runs_pure_iff.1 h
      exact quiet_nil
    · obtain ⟨u, rfl, hu⟩ := Wait.polling_of_untilExists hsome h
      have hexistence := existence ht hsome hu
      cases r with
      | ok x => exact .cons rfl hexistence
      | error e => exact BreaksDown.prepend hexistence (.cons rfl quiet_nil)
  · have hname : "wait for " ++ t.resource.label ++ " to be " ++ Condition.available.text =
        "wait for " ++ t.resource.label ++ " to be available" := String.append_assoc ..
    rw [hlimits.2, hname]
    exact .availability ht took e

theorem recreateSecret (secret : Secret) : Fares p s (recreateSecret secret) :=
  bind (call rfl (.delete _)) fun _ => bind (call rfl (.createSecret _)) fun _ => info ..

theorem deploys {t : Target} (ht : s.target? p = some t) (part : Part) (ns : Option String) {b : Action β}
    (hb : Fares p s b) : Fares p s (Site.render part >>= fun manifest => do
      Deployment.apply p t manifest ns
      Deployment.waitReady p t
      b) :=
  bind (render part) fun manifest => bind (apply ht manifest ns) fun _ => bind (waitReady ht) fun _ => hb

end Fares

theorem perform_fares (p : Plan) (s : Step) : Fares p s (perform p s) := by
  cases s with
  | ns =>
      refine .bind (.call rfl (.checkNamespace p.ns)) fun found => ?_
      cases found with
      | true => exact .info ..
      | false => exact .bind (.call rfl (.createNamespace p.ns)) fun _ => .info ..
  | database => exact .deploys rfl .database (some p.ns) (.recreateSecret _)
  | objectStore =>
      refine .bind (.recreateSecret _) fun _ => .bind (.call rfl (.delete _)) fun _ => ?_
      exact .deploys rfl .objectStore none (.condition fun took e => .job rfl took e)
  | operator =>
      exact .bind (.render .operator) fun manifest => .bind (.apply rfl manifest none) fun _ => .waitReady rfl
  | serving =>
      refine .bind (.lift ((staysAside_logWarnings _).mono fun _ => Request.isDiagnostic_of_isAside)) fun _ => ?_
      refine .bind (.write ..) fun _ => .bind (.info ..) fun _ => ?_
      exact .bind (.apply rfl _ none) fun _ => .waitReady rfl
  | access =>
      have hlook : (lookForService p).Asks fun r : Request => r.isDiagnostic = false := by
        refine Asks.bind ⟨rfl, fun _ => trivial⟩ fun found => ?_
        match found with
        | .ok true => exact .perform rfl
        | .ok false => exact .perform rfl
        | .error e => exact .perform rfl
      refine .bind (.lift hlook) fun _ => .bind (.info ..) fun _ => .bind (.info ..) fun _ => ?_
      exact .bind (.info ..) fun _ => .bind (.record ..) fun _ => .record ..

/-- How a run ends. Either all is quiet, or it is up to a call that fails and that nothing but asides follow, or
else a step breaks down, the workload that is behind it is looked into, and nothing but asides follow that. -/
inductive Ending (p : Plan) : List Event → Except Failure Summary → Prop
  | success {t : List Event} (summary : Summary) (ht : Quiet t) : Ending p t (.ok summary)
  | plain {before after : List Event} {failing : Event} {e : Failure} (hbefore : Quiet before)
      (h : Plain failing e) (hafter : Aside after) : Ending p (before ++ failing :: after) (.error e)
  | diagnosed {earlier before noted inquiry after : List Event} {s : Step} {failing : Event} {w : Resource}
      {e : Failure} {report : Diagnosis.Report} (hearlier : Quiet earlier) (hbefore : Quiet before)
      (h : Breakdown p s failing w e) (hnoted : Aside noted)
      (hinquiry : Runs (Diagnosis.collectAndLog p.limits.probe w) inquiry report)
      (hstep : Runs (perform p s).run (before ++ failing :: (noted ++ inquiry)) (.error e)) (hafter : Aside after) :
      Ending p (earlier ++ (before ++ failing :: (noted ++ inquiry)) ++ after) (.error e)

theorem StepsTaken.quietOr {steps : List Step} {r : Except Failure Unit} (h : StepsTaken p steps t r) :
    QuietOr (fun t e => ∃ earlier s u after, t = earlier ++ u ++ after ∧ Quiet earlier ∧ Aside after ∧
      Runs (perform p s).run u (.error e)) t r := by
  induction h with
  | nil => exact quiet_nil
  | @skipped s rest before t r hs hbefore h ih =>
      cases r with
      | ok x => exact hbefore.quiet.append ih
      | error e =>
          obtain ⟨earlier, s', u, after, rfl, hearlier, hafter, hu⟩ := ih
          exact ⟨before ++ earlier, s', u, after, by simp, hbefore.quiet.append hearlier, hafter, hu⟩
  | @taken s rest before u after t r hs hbefore hu hafter h ih =>
      have hstep : Quiet u := perform_fares p s hu
      have hquiet : Quiet (before ++ u ++ after) := (hbefore.quiet.append hstep).append hafter.quiet
      cases r with
      | ok x => exact hquiet.append ih
      | error e =>
          obtain ⟨earlier, s', u', after', rfl, hearlier, hafter', hu'⟩ := ih
          exact ⟨before ++ u ++ after ++ earlier, s', u', after', by simp, hquiet.append hearlier, hafter', hu'⟩
  | @failed s rest before u after e hs hbefore hu hafter =>
      exact ⟨before, s, u, after, rfl, hbefore.quiet, hafter, hu⟩

theorem ending_of_runs {r : Except Failure Summary} (h : Runs (run p).run t r) : Ending p t r := by
  obtain ⟨first, u, last, x, rfl, hfirst, hlast, hsteps, ⟨rfl, summary, rfl⟩ | ⟨e, rfl, rfl⟩⟩ := runs_run h
  · have hquiet : Quiet u := hsteps.quietOr
    exact .success summary ((hfirst.quiet.append hquiet).append hlast.quiet)
  · obtain ⟨earlier, s, v, after, rfl, hearlier, hafter, hv⟩ := hsteps.quietOr
    have hends : Ends p s v e := perform_fares p s hv
    -- What earlier steps did goes before the failing call, and what is cleaned up and logged goes after it.
    cases hends with
    | plain hbefore hplain =>
        have hending := Ending.plain (p := p) ((hfirst.quiet.append hearlier).append hbefore) hplain
          (hafter.append hlast)
        simpa only [List.append_assoc, List.cons_append, List.nil_append] using hending
    | diagnosed hbreaks hinquiry =>
        obtain ⟨before, failing, noted, rfl, hbefore, hbreak, hnoted⟩ := hbreaks
        rw [List.append_assoc, List.cons_append] at hv
        have hending := Ending.diagnosed (hfirst.quiet.append hearlier) hbefore hbreak hnoted hinquiry hv
          (hafter.append hlast)
        simpa only [List.append_assoc, List.cons_append] using hending

theorem exists_isDiagnostic_of_inquiry {limit : Duration} {report : Diagnosis.Report}
    (h : Runs (Diagnosis.collectAndLog limit w) t report) : ∃ e ∈ t, Request.isDiagnostic e.1 = true := by
  obtain ⟨u, _, _, rfl, hu, -⟩ := Program.runs_bind_iff.1 h
  obtain ⟨_, v, _, rfl, -, hv⟩ := Program.runs_bind_iff.1 hu
  obtain ⟨v, _, _, rfl, hv, -⟩ := Program.runs_bind_iff.1 hv
  obtain ⟨v, _, x, rfl, hv, -⟩ := Program.runs_bind_iff.1 hv
  obtain ⟨took, rfl⟩ := runs_attempt_iff.1 hv
  exact ⟨⟨.cluster (.describe w), ⟨took, x⟩⟩, by simp, rfl⟩

theorem calls_of_inquiry {limit : Duration} {report : Diagnosis.Report}
    (h : Runs (Diagnosis.collectAndLog limit w) t report) : calls t = [] :=
  calls_of_silent (Diagnosis.inquires_collectAndLog limit w).silent h

theorem last_call {e : Event} (h : Request.isCall e.1 = true) (hu : calls u = []) :
    (calls (t ++ e :: u)).getLast? = some e := by
  rw [calls_append, calls_cons_of_isCall h, hu, List.getLast?_concat]

theorem Ending.isDiagnostic_iff {r : Except Failure Summary} (h : Ending p t r) :
    (∃ e ∈ t, Request.isDiagnostic e.1 = true) ↔
      ∃ s failing w e, r = .error e ∧ Breakdown p s failing w e ∧ (calls t).getLast? = some failing := by
  cases h with
  | success summary ht =>
      constructor
      · rintro ⟨e, he, hdiagnostic⟩
        exact absurd (ht e he) (by simp [hdiagnostic])
      · rintro ⟨_, _, _, _, hr, -, -⟩
        cases hr
  | @plain before after failing e hbefore hplain hafter =>
      have hlast : (calls (before ++ failing :: after)).getLast? = some failing :=
        last_call hplain.isCall hafter.calls_eq_nil
      constructor
      · rintro ⟨e, he, hdiagnostic⟩
        have hquiet : Quiet (before ++ failing :: after) := hbefore.append (.cons hplain.isDiagnostic hafter.quiet)
        exact absurd (hquiet e he) (by simp [hdiagnostic])
      · rintro ⟨s, failing', w, e', -, hbreak, hlast'⟩
        obtain rfl : failing = failing' := Option.some.inj (hlast.symm.trans hlast')
        exact absurd hplain (not_plain_of_breakdown hbreak)
  | @diagnosed earlier before noted inquiry after s failing w e _ _ _ hbreak hnoted hinquiry _ hafter =>
      have hrest : calls (noted ++ inquiry ++ after) = [] := by
        rw [calls_append, calls_append, hnoted.calls_eq_nil, calls_of_inquiry hinquiry, hafter.calls_eq_nil]
        rfl
      have hlast := last_call (e := failing) (t := earlier ++ before) hbreak.isCall hrest
      simp only [List.append_assoc, List.cons_append] at hlast ⊢
      refine iff_of_true ?_ ⟨s, failing, w, e, rfl, hbreak, hlast⟩
      obtain ⟨x, hx, hdiagnostic⟩ := exists_isDiagnostic_of_inquiry hinquiry
      exact ⟨x, by simp [hx], hdiagnostic⟩

/-- Whatever is answered, a workload is looked into at most once, and that is so exactly when the last call of a
run that fails is an apply, an existence query or a wait for a condition. -/
theorem run_ending {σ : Type} (h : Handler Site.interface σ) (x : σ) (p : Plan) :
    let t := (run p).run.transcript h x
    let r := ((run p).run.run h x).1
    Ending p t r ∧
      ((∃ e ∈ t, Request.isDiagnostic e.1 = true) ↔
        ∃ s failing w e, r = .error e ∧ Breakdown p s failing w e ∧ (calls t).getLast? = some failing) ∧
      ∀ s t, Step.target? p s = some t →
        t.creator = if s = .serving then ⟨.deployment, "mlflow-operator-controller-manager", p.ns⟩ else t.resource := by
  intro t r
  have hending : Ending p t r := ending_of_runs (runs_transcript h (run p).run x)
  exact ⟨hending, hending.isDiagnostic_iff, fun s t ht => creator_of_target? ht⟩

end Rollout.Deployment
