import Rollout.Proofs.Deployment.Course
import Rollout.Proofs.Rehearsal.Frame
import Rollout.Proofs.Rehearsal.History
import Rollout.Proofs.Rehearsal.Performs

namespace Rollout

open Cluster Deployment Program Site

/-- A program that neither creates secrets nor removes any. -/
abbrev Site.Spares {α : Type} (p : Program interface α) : Prop := p.Asks fun r : Request => r.sparesSecrets = true

section Spares

variable {α : Type}

theorem Site.Silent.spares {p : Program interface α} (hp : Silent p) : Spares p := by
  refine hp.mono fun r hr => ?_
  match r with
  | .cluster c =>
      cases c with
      | createSecret s => cases hr
      | delete r => cases hr
      | _ => rfl
  | .poll .. | .render _ | .record .. | .machine _ => rfl

theorem Site.spares_log (level : Level) (text : String) (fields : List (String × String)) :
    Spares (Machine.log level text fields : Program interface Unit) := (silent_log ..).spares

theorem Site.spares_info (text : String) (fields : List (String × String)) : Spares (info text fields).run :=
  Asks.lift (spares_log ..)

theorem Site.spares_attempt {c : Call} (hc : Request.sparesSecrets (.cluster c) = true) : Spares (attempt c) :=
  ⟨hc, fun _ => trivial⟩

theorem Site.spares_call {c : Call} (hc : Request.sparesSecrets (.cluster c) = true) : Spares (call c).run :=
  spares_attempt hc

theorem Site.spares_onFailure {a : Action α} {after : Program interface Unit} (ha : Spares a.run)
    (hafter : Spares after) : Spares (onFailure a after).run := by
  rw [onFailure, ExceptT.run_mk]
  refine ha.bind fun x => ?_
  cases x with
  | ok x => exact .pure _
  | error e => exact hafter.bind fun _ => .pure _

theorem Wait.spares_pollFrom (t : Target) (timeout elapsed : Nat) : Spares (pollFrom t timeout elapsed).run := by
  induction elapsed using pollFrom.induct t timeout with
  | case1 elapsed ih =>
      rw [pollFrom, ExceptT.run_mk]
      refine ⟨rfl, fun x => ?_⟩
      dsimp only
      cases hx : x.found? (queryLimit t timeout elapsed) with
      | some took => exact (spares_log ..).bind fun _ => .pure _
      | none =>
          dsimp only
          split
          case isTrue hend => exact (spares_log ..).bind fun _ => .pure _
          case isFalse hend =>
            exact (spares_log ..).bind fun _ => Asks.bind (.perform rfl) fun _ => ih x hend

theorem Wait.spares_untilExists (t : Target) : Spares (untilExists t).run := by
  unfold untilExists
  split
  · exact Asks.bind (.perform rfl) fun _ => spares_pollFrom ..
  · exact .pure _

theorem Wait.spares_untilCondition (r : Resource) (c : Condition) (limit : Duration) :
    Spares (untilCondition r c limit).run := by
  rw [untilCondition, ExceptT.run_mk]
  refine (spares_log ..).bind fun _ => Asks.bind (.perform rfl) fun reply => ?_
  cases reply.outcome with
  | ok x => exact (spares_log ..).bind fun _ => .pure _
  | error e => exact (spares_log ..).bind fun _ => .pure _

namespace Deployment

variable (p : Plan)

theorem spares_apply (t : Target) (manifest : String) (ns : Option String) : Spares (apply p t manifest ns).run :=
  spares_onFailure (spares_call rfl) (silent_diagnose ..).spares

theorem spares_waitReady (t : Target) : Spares (waitReady p t).run := by
  refine .bind_except ?_ fun _ => ?_
  · exact spares_onFailure (Wait.spares_untilExists t) (silent_diagnose ..).spares
  · exact spares_onFailure (Wait.spares_untilCondition ..) (silent_diagnose ..).spares

theorem spares_ensureNamespace : Spares (ensureNamespace p).run := by
  refine .bind_except (spares_call rfl) fun found => ?_
  cases found with
  | true => exact spares_info ..
  | false => exact .bind_except (spares_call rfl) fun _ => spares_info ..

theorem spares_deploys (part : Part) (t : Target) (ns : Option String) :
    Spares (render part >>= fun manifest => apply p t manifest ns >>= fun _ => waitReady p t).run :=
  .bind_except (.perform rfl) fun _ => .bind_except (spares_apply ..) fun _ => spares_waitReady ..

theorem spares_deployInstance : Spares (deployInstance p).run := by
  refine .bind_except (.lift (staysAside_logWarnings _).silent.spares) fun _ => ?_
  refine .bind_except (Asks.bind (.perform rfl) fun _ => .pure _) fun _ => ?_
  refine .bind_except (spares_info ..) fun _ => ?_
  exact .bind_except (spares_apply ..) fun _ => spares_waitReady ..

theorem spares_publishAccess : Spares (publishAccess p).run := by
  have hlook : Spares (lookForService p) := by
    refine (spares_attempt rfl).bind fun found => ?_
    match found with
    | .ok true => exact spares_log ..
    | .ok false => exact spares_log ..
    | .error e => exact spares_log ..
  refine .bind_except (.lift hlook) fun _ => .bind_except (spares_info ..) fun _ => ?_
  refine .bind_except (spares_info ..) fun _ => .bind_except (spares_info ..) fun _ => ?_
  exact .bind_except (.perform rfl) fun _ => .perform rfl

end Deployment

end Spares

/-- What a cluster keeps once it has a secret in place of any one of its name. -/
def Cluster.Secret.kept (s : Secret) (t : Sorted Secret) : Sorted Secret :=
  Sorted.insert s.name s (t.filter fun e => e.1 != s.name)

/-- What a cluster keeps after a step that came to this status. The database is given its secret last, the
object store first. -/
def Step.kept (p : Plan) : Step → StageStatus → Sorted Secret → Sorted Secret
  | .database, .success, t => p.databaseSecret.kept t
  | .objectStore, .success, t | .objectStore, .failed, t => p.objectStoreSecret.kept t
  | _, _, t => t

namespace Rehearsal.MemoryCluster

def Refused : Site.Event → Prop
  | ⟨.cluster (.createSecret _), reply⟩ => reply.outcome ≠ .ok ()
  | _ => False

/-- No secret is refused, and what is kept at the end is in a relation to what the program comes to and to what
was kept before. -/
def Stores {α : Type} (p : Program Site.interface α) (R : α → Sorted Secret → Sorted Secret → Prop) : Prop :=
  ∀ w, R (p.run answer w).1 w.secrets (p.run answer w).2.secrets ∧ ∀ e ∈ p.transcript answer w, ¬Refused e

namespace Stores

variable {α β : Type} {p : Program Site.interface α} {f : α → Program Site.interface β}
  {R : α → Sorted Secret → Sorted Secret → Prop} {S : β → Sorted Secret → Sorted Secret → Prop}

theorem not_refused_of_spares {r : Request} (h : r.sparesSecrets = true) (x : Answer r) : ¬Refused ⟨r, x⟩ := by
  match r with
  | .cluster c =>
      cases c with
      | createSecret s => cases h
      | _ => exact id
  | .poll .. | .render _ | .record .. | .machine _ => exact id

theorem of_spares (h : Spares p) : Stores p fun _ t t' => t' = t := by
  induction p with
  | done a => exact fun w => ⟨rfl, by simp [transcript]⟩
  | ask r next ih =>
      intro w
      obtain ⟨hkept, hcreated⟩ := ih (answer r w).1 (h.2 _) (answer r w).2
      refine ⟨hkept.trans (secrets_answer w h.1), ?_⟩
      rw [transcript]
      exact List.forall_mem_cons.2 ⟨not_refused_of_spares h.1 _, hcreated⟩

theorem mono {R' : α → Sorted Secret → Sorted Secret → Prop} (hp : Stores p R)
    (h : ∀ a t t', R a t t' → R' a t t') : Stores p R' := fun w => ⟨h _ _ _ (hp w).1, (hp w).2⟩

theorem bind (hp : Stores p R) (hf : ∀ a, Stores (f a) fun b u v => ∀ t, R a t u → S b t v) :
    Stores (p >>= f) S := by
  intro w
  obtain ⟨hkept, hcreated⟩ := hp w
  obtain ⟨hrest, hcreated'⟩ := hf (p.run answer w).1 (p.run answer w).2
  have hrun : (p >>= f).run answer w = _ := run_bind answer p f w
  rw [transcript_bind, hrun]
  exact ⟨hrest _ hkept, List.forall_mem_append.2 ⟨hcreated, hcreated'⟩⟩

theorem spares_bind (hp : Spares p) (hf : ∀ a, Stores (f a) S) : Stores (p >>= f) S :=
  (of_spares hp).bind fun a => (hf a).mono fun _ _ _ h _ hu => hu ▸ h

theorem pure {a : α} (h : ∀ t, R a t t) : Stores (pure a) R := fun w => ⟨h w.secrets, List.forall_mem_nil _⟩

section Actions

variable {a : Action α} {f : α → Action β} {R : Except Failure α → Sorted Secret → Sorted Secret → Prop}
  {S : Except Failure β → Sorted Secret → Sorted Secret → Prop}

theorem bind_except (ha : Stores a.run R) (hf : ∀ x, Stores (f x).run fun b u v => ∀ t, R (.ok x) t u → S b t v)
    (hfail : ∀ e t u, R (.error e) t u → S (.error e) t u) : Stores (a >>= f).run S := by
  rw [ExceptT.run_bind]
  refine ha.bind fun r => ?_
  cases r with
  | ok x => exact hf x
  | error e => exact .pure fun u t hu => hfail e t u hu

theorem spares_bind_except (ha : Spares a.run) (hf : ∀ x, Stores (f x).run S) (hfail : ∀ e t, S (.error e) t t) :
    Stores (a >>= f).run S :=
  (of_spares ha).bind_except (fun x => (hf x).mono fun _ _ _ h _ hu => hu ▸ h) fun e t _ hu => hu ▸ hfail e t

end Actions

theorem of_call {c : Call} {w w' : MemoryCluster} {took : Duration} {x : c.Answer}
    (h : answer (.cluster c) w = (⟨took, .ok x⟩, w')) (f : c.Answer → Action β) :
    (call c >>= f).run.run answer w = (f x).run.run answer w' ∧
      (call c >>= f).run.transcript answer w =
        ⟨.cluster c, ⟨took, .ok x⟩⟩ :: (f x).run.transcript answer w' := by
  have hrun : (call c).run.run answer w = (.ok x, w') := by
    change ((answer (.cluster c) w).1.outcome, (answer (.cluster c) w).2) = _
    rw [h]
  have htranscript : (call c).run.transcript answer w = [⟨.cluster c, ⟨took, .ok x⟩⟩] := by
    change [(⟨.cluster c, (answer (.cluster c) w).1⟩ : Site.Event)] = _
    rw [h]
  rw [run_bind_action, ExceptT.run_bind, transcript_bind, hrun, htranscript]
  exact ⟨rfl, rfl⟩

/-- The name is free once the old secret is gone, so the new one is never refused. -/
theorem recreateSecret (s : Secret) :
    Stores (recreateSecret s).run fun r t t' => r = .ok () ∧ t' = s.kept t := by
  intro w
  obtain ⟨w₁, hdelete, hremoved⟩ : ∃ w₁, answer (.cluster (.delete ⟨.secret, s.name, s.ns⟩)) w =
      (⟨.zero, .ok ()⟩, w₁) ∧ w₁.secrets = w.secrets.filter fun e => e.1 != s.name :=
    ⟨_, answer_delete_secret w rfl, rfl⟩
  have hfree : (w₁.secrets.get? s.name).isSome = false := by
    rw [hremoved]
    simp [Sorted.get?]
  obtain ⟨w₂, hcreate, hinserted⟩ : ∃ w₂, answer (.cluster (.createSecret s)) w₁ = (⟨.zero, .ok ()⟩, w₂) ∧
      w₂.secrets = s.kept w.secrets :=
    ⟨_, answer_createSecret_of_isSome_eq_false w₁ hfree, by rw [Secret.kept, ← hremoved]⟩
  obtain ⟨hrun₁, htranscript₁⟩ := of_call hdelete fun _ => call (.createSecret s) >>= fun _ =>
    info "Secret created" [("secret", s.name), ("namespace", s.ns)]
  obtain ⟨hrun₂, htranscript₂⟩ := of_call hcreate fun _ =>
    info "Secret created" [("secret", s.name), ("namespace", s.ns)]
  rw [Deployment.recreateSecret, hrun₁, htranscript₁, hrun₂, htranscript₂]
  refine ⟨⟨rfl, hinserted⟩, List.forall_mem_cons.2 ⟨id, List.forall_mem_cons.2 ⟨fun h => h rfl, ?_⟩⟩⟩
  exact (of_spares (spares_info ..) w₂).2

def ended (r : Except Failure Unit) : StageStatus := if r.isOk then .success else .failed

theorem perform (p : Plan) (s : Step) :
    Stores (perform p s).run fun r t t' => t' = s.kept p (ended r) t := by
  have hsame {a : Action Unit} (ha : Spares a.run) (h : ∀ status t, s.kept p status t = t) :
      Stores a.run fun r t t' => t' = s.kept p (ended r) t :=
    (of_spares ha).mono fun r t t' ht => ht.trans (h _ t).symm
  cases s with
  | ns => exact hsame (spares_ensureNamespace p) fun _ _ => rfl
  | database =>
      -- The secret is replaced only when nothing is left that can fail.
      refine spares_bind_except (.perform rfl) (fun manifest => ?_) fun _ _ => rfl
      refine spares_bind_except (spares_apply ..) (fun _ => ?_) fun _ _ => rfl
      refine spares_bind_except (spares_waitReady ..) (fun _ => ?_) fun _ _ => rfl
      refine (recreateSecret p.databaseSecret).mono ?_
      rintro _ t _ ⟨rfl, rfl⟩
      rfl
  | objectStore =>
      -- The secret is in place before anything can fail.
      refine (recreateSecret p.objectStoreSecret).bind_except (fun _ => (of_spares ?_).mono ?_) ?_
      · refine .bind_except (spares_call rfl) fun _ => .bind_except (.perform rfl) fun _ => ?_
        refine .bind_except (spares_apply ..) fun _ => .bind_except (spares_waitReady ..) fun _ => ?_
        exact spares_onFailure (Wait.spares_untilCondition ..) (silent_diagnose ..).spares
      · rintro r u _ rfl t ⟨_, rfl⟩
        cases r with
        | ok x => rfl
        | error e => rfl
      · rintro e t u ⟨h, _⟩
        cases h
  | operator => exact hsame (spares_deploys ..) fun _ _ => rfl
  | serving => exact hsame (spares_deployInstance p) fun _ _ => rfl
  | access => exact hsame (spares_publishAccess p) fun _ _ => rfl

def keptBy (p : Plan) (steps : List Step) (stages : List Stage) (t : Sorted Secret) : Sorted Secret :=
  (steps.zip stages).foldl (fun t e => e.1.kept p e.2.status t) t

theorem keptBy_cons (p : Plan) (s : Step) (steps : List Step) (stage : Stage) (stages : List Stage)
    (t : Sorted Secret) :
    keptBy p (s :: steps) (stage :: stages) t = keptBy p steps stages (s.kept p stage.status t) := rfl

theorem kept_skipped (p : Plan) (s : Step) (t : Sorted Secret) : s.kept p .skipped t = t := by
  cases s with
  | _ => rfl

theorem keptBy_skipped (p : Plan) (steps : List Step) (t : Sorted Secret) :
    keptBy p steps (steps.map fun s => (pendingStage s).skip none) t = t := by
  induction steps with
  | nil => rfl
  | cons s steps ih =>
      rw [List.map_cons, keptBy_cons]
      exact (congrArg (keptBy p steps _) (kept_skipped p s t)).trans ih

theorem takeSteps (p : Plan) (steps : List Step) :
    Stores (takeSteps p steps) fun x t t' =>
      x.1.map Stage.name = steps.map Step.name ∧ t' = keptBy p steps x.1 t := by
  induction steps with
  | nil => exact .pure fun t => ⟨rfl, rfl⟩
  | cons s rest ih =>
      rw [Deployment.takeSteps]
      split
      case isTrue hs =>
        refine spares_bind (spares_log ..) fun _ => spares_bind (.perform rfl) fun begun => ?_
        refine (perform p s).bind fun r => ?_
        cases r with
        | ok x =>
            refine spares_bind (.perform rfl) fun done => ih.bind fun x => .pure ?_
            rintro v u ⟨hnames, rfl⟩ t rfl
            exact ⟨congrArg (s.name :: ·) hnames, rfl⟩
        | error e =>
            refine spares_bind (spares_log ..) fun _ => spares_bind (.perform rfl) fun done => .pure ?_
            rintro u t rfl
            -- The steps that are left are skipped, and these keep what there is.
            refine ⟨?_, (keptBy_skipped p rest _).symm⟩
            rw [List.map_cons, List.map_map]
            rfl
      case isFalse hs =>
        refine spares_bind (spares_log ..) fun _ => ih.bind fun x => .pure ?_
        rintro u t ⟨hnames, rfl⟩
        exact ⟨congrArg (s.name :: ·) hnames, congrArg (keptBy p rest x.1) (kept_skipped p s t).symm⟩

end Stores

end Rehearsal.MemoryCluster

def Summary.succeeded (s : Summary) (step : Step) : Bool :=
  s.stages.any fun stage => stage.name == step.name && stage.status == .success

def Summary.reached (s : Summary) (step : Step) : Bool :=
  s.stages.any fun stage => stage.name == step.name && (stage.status == .success || stage.status == .failed)

namespace Rehearsal

namespace MemoryCluster

def keptAfter (p : Plan) (s : Summary) (t : Sorted Secret) : Sorted Secret :=
  let t := if s.succeeded .database then p.databaseSecret.kept t else t
  if s.reached .objectStore then p.objectStoreSecret.kept t else t

theorem keptBy_all (p : Plan) (s : Summary) (h : s.stages.map Stage.name = Step.all.map Step.name)
    (t : Sorted Secret) : Stores.keptBy p Step.all s.stages t = keptAfter p s t := by
  obtain ⟨id, ns, status, url, stages⟩ := s
  simp only [Step.all, List.map_cons, List.map_nil, List.map_eq_cons_iff, List.map_eq_nil_iff] at h
  obtain ⟨a, _, rfl, ha, b, _, rfl, hb, c, _, rfl, hc, d, _, rfl, hd, e, _, rfl, he, f, _, rfl, hf, rfl⟩ := h
  have hsucceeded : Summary.succeeded ⟨id, ns, status, url, [a, b, c, d, e, f]⟩ .database =
      (b.status == .success) := by
    simp [Summary.succeeded, Step.name, ha, hb, hc, hd, he, hf]
  have hreached : Summary.reached ⟨id, ns, status, url, [a, b, c, d, e, f]⟩ .objectStore =
      (c.status == .success || c.status == .failed) := by
    simp [Summary.reached, Step.name, ha, hb, hc, hd, he, hf]
  have hdatabase (t : Sorted Secret) :
      Step.database.kept p b.status t = if b.status == .success then p.databaseSecret.kept t else t := by
    cases b.status with
    | _ => rfl
  have hstore (t : Sorted Secret) : Step.objectStore.kept p c.status t =
      if c.status == .success || c.status == .failed then p.objectStoreSecret.kept t else t := by
    cases c.status with
    | _ => rfl
  rw [keptAfter, hsucceeded, hreached, ← hdatabase, ← hstore]
  rfl

theorem Stores.runRecorded (p : Plan) :
    Stores (runRecorded p) fun x t t' => t' = keptAfter p x.1 t := by
  refine spares_bind (.perform rfl) fun id => spares_bind (spares_log ..) fun _ => ?_
  refine (Stores.takeSteps p Step.all).bind fun x => ?_
  refine spares_bind (staysAside_release _).silent.spares fun _ => ?_
  refine spares_bind (staysAside_logSummary _).silent.spares fun _ => .pure ?_
  rintro u t ⟨hnames, rfl⟩
  exact keptBy_all p ⟨id, _, _, _, x.1⟩ hnames t

end MemoryCluster

namespace Operation

def kept : (o : Operation) → o.Outcome → Sorted Secret → Sorted Secret
  | deploy p _, x, t => MemoryCluster.keptAfter p x.1 t
  | _, _, t => t

theorem stores_program (o : Operation) : MemoryCluster.Stores o.program fun x t t' => t' = o.kept x t := by
  cases o with
  | deploy p _ => exact .runRecorded p
  | awaitExistence t => exact .of_spares (Wait.spares_untilExists t)
  | awaitAvailability t => exact .of_spares (Wait.spares_untilCondition ..)
  | awaitJob name ns limit => exact .of_spares (Wait.spares_untilCondition ..)
  | diagnose limit r => exact .of_spares (Diagnosis.inquires_collect limit r).silent.spares

theorem secrets_prepare (o : Operation) (w : MemoryCluster) : (o.prepare w).secrets = w.secrets := by
  cases o with
  | _ => rfl

def deployment? (w : MemoryCluster) : Operation → Option (Plan × Summary)
  | deploy p failing => some (p, (outcome (deploy p failing) w).1)
  | _ => none

end Operation

namespace MemoryCluster

/-- The deployments among operations, each with its record: the latest comes first, and earlier ones last. -/
def deployments (w : MemoryCluster) (earlier : List (Plan × Summary)) : List Operation → List (Plan × Summary)
  | [] => earlier
  | o :: ops => deployments (o.next w) ((o.deployment? w).toList ++ earlier) ops

def latest (f : Summary → Bool) (ds : List (Plan × Summary)) : Option Plan :=
  (ds.find? fun d => f d.2).map Prod.fst

/-- A secret for the object store and one for the database, and no other. -/
def shelf (store database : Option Secret) : Sorted Secret :=
  (store.map fun s => (Stack.objectStoreSecret, s)).toList ++
    (database.map fun s => (Stack.databaseSecret, s)).toList

section

variable {s : Secret} (store database : Option Secret)

theorem kept_of_objectStore (h : s.name = Stack.objectStoreSecret) :
    s.kept (shelf store database) = shelf (some s) database := by
  have hlt : Stack.objectStoreSecret < Stack.databaseSecret := by decide
  have hne : Stack.objectStoreSecret ≠ Stack.databaseSecret := by decide
  rw [Secret.kept, h]
  cases store with
  | _ =>
      cases database with
      | _ => simp [shelf, Sorted.insert, hlt, hne, hne.symm]

theorem kept_of_database (h : s.name = Stack.databaseSecret) :
    s.kept (shelf store database) = shelf store (some s) := by
  have hlt : ¬Stack.databaseSecret < Stack.objectStoreSecret := by decide
  have hne : Stack.objectStoreSecret ≠ Stack.databaseSecret := by decide
  rw [Secret.kept, h]
  cases store with
  | _ =>
      cases database with
      | _ => simp [shelf, Sorted.insert, hlt, hne, hne.symm]

end

/-- The secrets that a history of deployments leaves. The object store keeps those of the latest run that came to
its step, the database those of the latest run whose step for it succeeded. -/
def shelfOf (ds : List (Plan × Summary)) : Sorted Secret :=
  shelf ((latest (·.reached .objectStore) ds).map Plan.objectStoreSecret)
    ((latest (·.succeeded .database) ds).map Plan.databaseSecret)

theorem latest_cons (f : Summary → Bool) (p : Plan) (s : Summary) (ds : List (Plan × Summary)) :
    latest f ((p, s) :: ds) = if f s then some p else latest f ds := by
  cases h : f s with
  | _ => simp [latest, h]

theorem keptAfter_shelfOf (p : Plan) (s : Summary) (ds : List (Plan × Summary)) :
    keptAfter p s (shelfOf ds) = shelfOf ((p, s) :: ds) := by
  have hdatabase : (if s.succeeded .database then p.databaseSecret.kept (shelfOf ds) else shelfOf ds) =
      shelf ((latest (·.reached .objectStore) ds).map Plan.objectStoreSecret)
        ((latest (·.succeeded .database) ((p, s) :: ds)).map Plan.databaseSecret) := by
    rw [latest_cons]
    split
    · exact kept_of_database _ _ rfl
    · rfl
  rw [keptAfter, hdatabase, shelfOf, latest_cons (·.reached .objectStore)]
  split
  · exact kept_of_objectStore _ _ rfl
  · rfl

theorem kept_shelfOf (o : Operation) (w : MemoryCluster) (ds : List (Plan × Summary)) :
    o.kept (o.outcome w) (shelfOf ds) = shelfOf ((o.deployment? w).toList ++ ds) := by
  cases o with
  | deploy p _ => exact keptAfter_shelfOf p _ ds
  | _ => rfl

theorem secrets_after (w : MemoryCluster) (ds : List (Plan × Summary)) (h : w.secrets = shelfOf ds)
    (ops : List Operation) : (w.after ops).secrets = shelfOf (w.deployments ds ops) := by
  induction ops generalizing w ds with
  | nil => exact h
  | cons o ops ih =>
      refine ih (o.next w) _ ?_
      have hnext : (o.next w).secrets = o.kept (o.outcome w) (o.prepare w).secrets :=
        (o.stores_program (o.prepare w)).1
      rw [hnext, o.secrets_prepare, h, kept_shelfOf]

/-- Whatever has been done on a cluster that began without secrets, the latest credentials are in place and no
other secret is, and whatever is done next, no secret is refused. -/
theorem latest_credentials (behaviour : Behaviour) (disk : Disk) (namespaces : List String) (ops : List Operation) :
    let w := (start behaviour disk namespaces).after ops
    w.secrets = shelfOf ((start behaviour disk namespaces).deployments [] ops) ∧
      ∀ o : Operation, ∀ e ∈ o.program.transcript answer (o.prepare w), ¬Refused e := by
  intro w
  exact ⟨secrets_after _ [] rfl ops, fun o => (o.stores_program (o.prepare w)).2⟩

end MemoryCluster

end Rehearsal

end Rollout
