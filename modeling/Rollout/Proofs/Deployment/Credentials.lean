import Rollout.Proofs.Deployment.Course
import Rollout.Proofs.Instance.Design

namespace Rollout

def Instance.RefersTo (i : Instance) (name : String) : Prop :=
  name ∈ i.secretVariables ∨ ∃ key, i.backend = .secret name key ∨ i.registry = .secret name key

namespace Plan

variable {p : Plan}

theorem databaseSecret_backend :
    p.databaseSecret.get? Stack.backendKey = some (p.database.uri p.database.backendName) := by
  simp [databaseSecret, Cluster.Secret.ofLiterals, Cluster.Secret.get?, Sorted.ofList, Stack.backendKey,
    Stack.registryKey]

theorem databaseSecret_registry :
    p.databaseSecret.get? Stack.registryKey = some (p.database.uri p.database.registryName) := by
  simp [databaseSecret, Cluster.Secret.ofLiterals, Cluster.Secret.get?, Sorted.ofList]

end Plan

namespace Deployment

open Cluster Program Site

variable {p : Plan} {t u v : List Event}

/-- Which steps create which secrets, apply which manifests and write files. -/
def Suits (p : Plan) (s : Step) : Request → Prop
  | .cluster (.createSecret k) =>
    s = .database ∧ k = p.databaseSecret ∨ s = .objectStore ∧ k = p.objectStoreSecret
  | .render .database => s = .database
  | .render .objectStore => s = .objectStore
  | .machine _ => s = .serving
  | _ => True

theorem within_deploys {P : Request → Prop} {part : Part} {ns : Option String} (hrender : P (.render part))
    (happly : ∀ text, P (.cluster (.apply text ns))) : Within P (deploys part ns) :=
  .iSup fun text => (within_answered hrender).mul (within_granted (happly text))

theorem within_replaces {P : Request → Prop} {s : Secret} (hdelete : ∀ r, P (.cluster (.delete r)))
    (hcreate : P (.cluster (.createSecret s))) : Within P (replaces s) :=
  (within_granted (hdelete _)).mul (within_granted hcreate)

theorem stepCourse_suits (p : Plan) (s : Step) : Within (Suits p s) (stepCourse p s) := by
  cases s with
  | ns =>
      refine Within.add ?_ (Within.mul ?_ ?_)
      · exact within_answered trivial
      · exact within_answered trivial
      · exact within_granted trivial
  | database =>
      refine Within.mul (Within.mul (Within.mul ?_ ?_) ?_) ?_
      · exact within_deploys rfl fun _ => trivial
      · exact within_appears fun _ => trivial
      · exact within_granted trivial
      · exact within_replaces (fun _ => trivial) (.inl ⟨rfl, rfl⟩)
  | objectStore =>
      refine Within.mul (Within.mul (Within.mul (Within.mul (Within.mul ?_ ?_) ?_) ?_) ?_) ?_
      · exact within_replaces (fun _ => trivial) (.inr ⟨rfl, rfl⟩)
      · exact within_granted trivial
      · exact within_deploys rfl fun _ => trivial
      · exact within_appears fun _ => trivial
      · exact within_granted trivial
      · exact within_granted trivial
  | operator =>
      refine Within.mul ?_ ?_
      · exact within_deploys trivial fun _ => trivial
      · exact within_granted trivial
  | serving =>
      refine Within.mul (Within.mul (Within.mul ?_ ?_) ?_) ?_
      · exact within_answered rfl
      · exact within_granted trivial
      · exact within_appears fun _ => trivial
      · exact within_granted trivial
  | access =>
      refine Within.mul (Within.mul ?_ ?_) ?_
      · exact within_answered trivial
      · exact within_answered trivial
      · exact within_answered trivial

theorem stepsCourse_suits (p : Plan) (steps : List Step) :
    Within (fun r => ∃ s ∈ steps, s.isEnabled p = true ∧ Suits p s r) (stepsCourse p steps) := by
  induction steps with
  | nil => exact within_one
  | cons s rest ih =>
      rw [stepsCourse_cons]
      refine Within.mul ?_ fun w hw e he => ?_
      · split
        case isTrue hs => exact fun w hw e he => ⟨s, List.mem_cons_self, hs, stepCourse_suits p s w hw e he⟩
        case isFalse => exact within_one
      · obtain ⟨s', hs', henabled, hsuits⟩ := ih w hw e he
        exact ⟨s', List.mem_cons_of_mem _ hs', henabled, hsuits⟩

theorem includes_of_step {L : Language Event} {s : Step} (hs : s.isEnabled p = true)
    (hstep : ∀ w ∈ stepCourse p s, Includes w L) {steps : List Step} (hmem : s ∈ steps) :
    ∀ w ∈ stepsCourse p steps, Includes w L := by
  induction steps with
  | nil => cases hmem
  | cons s' rest ih =>
      rw [stepsCourse_cons]
      rcases List.mem_cons.1 hmem with rfl | hmem
      · rw [if_pos hs]
        exact includes_left hstep
      · exact includes_right (ih hmem)

/-- Up to any call of a run, a course fits the calls before it. -/
theorem course_of_calls {r : Except Failure Summary} (h : Runs (run p).run t r) {e : Event}
    (he : calls t = u ++ e :: v) : ∃ y w, u ++ ⟨e.1, y⟩ :: w ∈ course p := by
  rcases run_keeps h with ⟨_, hcourse⟩ | ⟨_, u', r, x, y, w, ht, _, hw⟩
  · exact ⟨e.2, v, he ▸ hcourse⟩
  · rw [he] at ht
    -- The call comes before the one where the run breaks off, or is that one.
    rcases List.append_eq_append_iff.1 ht with ⟨c, rfl, hc⟩ | ⟨c, rfl, hc⟩
    · cases c with
      | nil =>
          obtain ⟨rfl, -⟩ := List.cons.inj hc
          exact ⟨y, w, by simpa using hw⟩
      | cons e' c =>
          obtain ⟨rfl, -⟩ := List.cons.inj hc
          exact ⟨_, _, by simpa using hw⟩
    · cases c with
      | nil =>
          obtain ⟨rfl, -⟩ := List.cons.inj hc
          exact ⟨y, w, by simpa using hw⟩
      | cons e' c =>
          obtain ⟨_, hnil⟩ := List.cons.inj hc
          simp at hnil

theorem suits_of_mem {r : Except Failure Summary} (h : Runs (run p).run t r) {e : Event} (he : e ∈ t)
    (hcall : Request.isCall e.1 = true) : ∃ s, s.isEnabled p = true ∧ Suits p s e.1 := by
  have hmem : e ∈ calls t := List.mem_filter.2 ⟨he, hcall⟩
  obtain ⟨u, v, huv⟩ := List.append_of_mem hmem
  obtain ⟨y, w, hw⟩ := course_of_calls h huv
  rw [← stepsCourse_all] at hw
  obtain ⟨s, _, hs, hsuits⟩ := stepsCourse_suits p Step.all _ hw ⟨e.1, y⟩ (by simp)
  exact ⟨s, hs, hsuits⟩

theorem prefix_of_forall_not {P : Event → Prop} {a b : List Event} {e : Event} (h : u ++ e :: v = a ++ b)
    (ha : ∀ x ∈ a, ¬P x) (he : P e) : a <+: u := by
  rcases List.append_eq_append_iff.1 h with ⟨c, rfl, hc⟩ | ⟨c, rfl, _⟩
  · cases c with
    | nil => simp
    | cons e' c =>
        obtain ⟨rfl, _⟩ := List.cons.inj hc
        exact absurd he (ha e (by simp))
  · exact List.prefix_append a c

def preparation : List Step := [.ns, .database, .objectStore, .operator]

theorem prepared_of_write {r : Except Failure Summary} (h : Runs (run p).run t r) {path text : String}
    {x : Except IoCause Unit} (ht : t = u ++ ⟨.machine (.write path text), x⟩ :: v) :
    ∃ a ∈ stepsCourse p preparation, a.Sublist u := by
  have hcalls : calls t = calls u ++ ⟨.machine (.write path text), x⟩ :: calls v := by
    rw [ht, calls_append, calls_cons_of_isCall rfl]
  obtain ⟨y, w, hw⟩ := course_of_calls h hcalls
  rw [← stepsCourse_all, show Step.all = preparation ++ [.serving, .access] from rfl, stepsCourse_append] at hw
  obtain ⟨a, ha, b, _, hab⟩ := Language.mem_mul.1 hw
  refine ⟨a, ha, List.Sublist.trans (List.IsPrefix.sublist ?_) (calls_sublist u)⟩
  refine prefix_of_forall_not (P := fun e => ∃ m, e.1 = .machine m) hab.symm ?_ ⟨_, rfl⟩
  rintro e he ⟨m, hm⟩
  obtain ⟨s, hs, _, hsuits⟩ := stepsCourse_suits p preparation a ha e he
  rw [hm] at hsuits
  rw [show s = .serving from hsuits] at hs
  simp [preparation] at hs

def databaseAvailable (p : Plan) : Language Event :=
  granted (.await ⟨.deployment, Stack.databaseWorkload, p.ns⟩ .available p.limits.wait)

theorem includes_databaseSecret (hp : p.needsDatabase = true) :
    ∀ w ∈ stepsCourse p preparation, Includes w (databaseAvailable p * replaces p.databaseSecret) := by
  refine includes_of_step (s := .database) hp ?_ (by simp [preparation])
  rw [stepCourse, databaseCourse, mul_assoc]
  exact includes_right includes_self

theorem includes_databaseManifest (hp : p.needsDatabase = true) :
    ∀ w ∈ stepsCourse p preparation, Includes w (deploys .database (some p.ns)) := by
  refine includes_of_step (s := .database) hp ?_ (by simp [preparation])
  rw [stepCourse, databaseCourse, mul_assoc, mul_assoc]
  exact includes_left includes_self

theorem includes_objectStoreSecret (hp : p.needsObjectStore = true) :
    ∀ w ∈ stepsCourse p preparation, Includes w (replaces p.objectStoreSecret) := by
  refine includes_of_step (s := .objectStore) hp ?_ (by simp [preparation])
  simp only [stepCourse, objectStoreCourse, mul_assoc]
  exact includes_left includes_self

theorem includes_objectStoreManifest (hp : p.needsObjectStore = true) :
    ∀ w ∈ stepsCourse p preparation, Includes w (deploys .objectStore none) := by
  refine includes_of_step (s := .objectStore) hp ?_ (by simp [preparation])
  simp only [stepCourse, objectStoreCourse, mul_assoc]
  exact includes_right (includes_right (includes_left includes_self))

theorem created_secret {r : Except Failure Summary} (h : Runs (run p).run t r) {s : Secret}
    {reply : Reply Unit} (he : ⟨.cluster (.createSecret s), reply⟩ ∈ t) :
    p.needsDatabase = true ∧ s = p.databaseSecret ∨ p.needsObjectStore = true ∧ s = p.objectStoreSecret := by
  obtain ⟨step, hstep, ⟨rfl, rfl⟩ | ⟨rfl, rfl⟩⟩ := suits_of_mem h he rfl
  · exact .inl ⟨hstep, rfl⟩
  · exact .inr ⟨hstep, rfl⟩

theorem available_of_created {r : Except Failure Summary} (h : Runs (run p).run t r) {s : Secret}
    {reply : Reply Unit} (ht : t = u ++ ⟨.cluster (.createSecret s), reply⟩ :: v)
    (hname : s.name = Stack.databaseSecret) : Includes u (databaseAvailable p) := by
  have hcalls : calls t = calls u ++ ⟨.cluster (.createSecret s), reply⟩ :: calls v := by
    rw [ht, calls_append, calls_cons_of_isCall rfl]
  have hdatabase : p.needsDatabase = true := by
    have hmem : ⟨.cluster (.createSecret s), reply⟩ ∈ t := ht ▸ List.mem_append_right _ List.mem_cons_self
    rcases created_secret h hmem with ⟨hp, _⟩ | ⟨_, rfl⟩
    · exact hp
    · have hne : Stack.objectStoreSecret ≠ Stack.databaseSecret := by decide
      exact absurd hname hne
  obtain ⟨y, w, hw⟩ := course_of_calls h hcalls
  -- No secret is created in the course up to the availability of the database.
  have hsplit : stepsCourse p Step.all = namespaceCourse p * (deploys .database (some p.ns) *
      appears ⟨.deployment, Stack.databaseWorkload, p.ns⟩ * databaseAvailable p) *
      (replaces p.databaseSecret * stepsCourse p [.objectStore, .operator, .serving, .access]) := by
    rw [Step.all, stepsCourse_cons, stepsCourse_cons, if_pos (show Step.ns.isEnabled p = true from rfl),
      if_pos (show Step.database.isEnabled p = true from hdatabase)]
    simp only [stepCourse, databaseCourse, databaseAvailable, mul_assoc]
  rw [← stepsCourse_all, hsplit] at hw
  obtain ⟨a, ha, b, _, hab⟩ := Language.mem_mul.1 hw
  have hhead : a <+: calls u := by
    refine prefix_of_forall_not (P := fun e => ∃ s, e.1 = .cluster (.createSecret s)) hab.symm ?_ ⟨s, rfl⟩
    have hwithin : Within (fun r => ¬∃ s, r = .cluster (.createSecret s)) (namespaceCourse p *
        (deploys .database (some p.ns) * appears ⟨.deployment, Stack.databaseWorkload, p.ns⟩ *
          databaseAvailable p)) := by
      refine Within.mul (Within.add ?_ (Within.mul ?_ ?_)) (Within.mul (Within.mul ?_ ?_) ?_)
      · exact within_answered (by simp)
      · exact within_answered (by simp)
      · exact within_granted (by simp)
      · exact within_deploys (by simp) (by simp)
      · exact within_appears (by simp)
      · exact within_granted (by simp)
    exact hwithin a ha
  have havailable : Includes a (databaseAvailable p) := includes_right (includes_right includes_self) a ha
  exact havailable.sublist (hhead.sublist.trans (calls_sublist u))

/-- What the secrets of a run have to do with the instance that it describes. `before` is the part of the
run before the description is written, and `whole` is all of it. -/
structure CredentialsInPlace (p : Plan) (before whole : List Event) : Prop where
  store_secret : ∀ source database, (source, database) ∈
      [(p.design.backend, p.database.backendName), (p.design.registry, p.database.registryName)] →
    ∀ name key, source = .secret name key → ∃ s : Secret, s.name = name ∧ s.ns = p.design.ns ∧
      s.get? key = some (p.database.uri database) ∧ Includes before (databaseAvailable p * replaces s)
  variable_secret : ∀ name ∈ p.design.secretVariables, ∃ s : Secret, s.name = name ∧ s.ns = p.design.ns ∧
    Includes before (replaces s)
  created_available : ∀ u s reply v, whole = u ++ ⟨.cluster (.createSecret s), reply⟩ :: v →
    s.name = Stack.databaseSecret → Includes u (databaseAvailable p)
  created_referred : ∀ s reply, ⟨.cluster (.createSecret s), reply⟩ ∈ whole →
    s.ns = p.design.ns ∧ p.design.RefersTo s.name
  database_applied : Includes whole (deploys .database (some p.ns)) ↔
    ∃ name key, p.design.backend = .secret name key ∨ p.design.registry = .secret name key
  objectStore_applied : Includes whole (deploys .objectStore none) ↔ p.design.secretVariables ≠ []

theorem isEnabled_of_includes_deploys {r : Except Failure Summary} (h : Runs (run p).run t r) {part : Part}
    {ns : Option String} (ht : Includes t (deploys part ns)) :
    ∃ s, s.isEnabled p = true ∧ Suits p s (.render part) := by
  obtain ⟨w, hw, hsub⟩ := ht
  obtain ⟨text, hw⟩ := Language.mem_iSup.1 hw
  obtain ⟨_, ⟨x, _, rfl⟩, v, _, rfl⟩ := Language.mem_mul.1 hw
  exact suits_of_mem h (hsub.subset (List.mem_append_left v (List.mem_singleton_self _))) rfl

theorem CredentialsInPlace.of_write {r : Except Failure Summary} (hruns : Runs (run p).run t r) {path text : String}
    {x : Except IoCause Unit} (ht : t = u ++ ⟨.machine (.write path text), x⟩ :: v) : CredentialsInPlace p u t := by
  obtain ⟨a, ha, hbefore⟩ := prepared_of_write hruns ht
  have hwhole : u.Sublist t := ht ▸ List.sublist_append_left _ _
  constructor
  case store_secret =>
    have hsecret (hp : p.needsDatabase = true) :
        Includes u (databaseAvailable p * replaces p.databaseSecret) :=
      (includes_databaseSecret hp a ha).sublist hbefore
    intro source database hmem name key hsource
    simp only [List.mem_cons, List.not_mem_nil, or_false, Prod.mk.injEq] at hmem
    rcases hmem with ⟨rfl, rfl⟩ | ⟨rfl, rfl⟩
    · obtain ⟨hp, rfl, rfl⟩ := Plan.storeSource_eq_secret_iff.1 hsource
      exact ⟨p.databaseSecret, rfl, rfl, Plan.databaseSecret_backend,
        hsecret (Plan.needsDatabase_iff.2 ⟨_, _, .inl hsource⟩)⟩
    · obtain ⟨hp, rfl, rfl⟩ := Plan.storeSource_eq_secret_iff.1 hsource
      exact ⟨p.databaseSecret, rfl, rfl, Plan.databaseSecret_registry,
        hsecret (Plan.needsDatabase_iff.2 ⟨_, _, .inr hsource⟩)⟩
  case variable_secret =>
    intro name hname
    have hp : p.needsObjectStore = true := Plan.needsObjectStore_iff.2 (List.ne_nil_of_mem hname)
    obtain ⟨_, rfl⟩ := Plan.mem_secretVariables_iff.1 hname
    exact ⟨p.objectStoreSecret, rfl, rfl, (includes_objectStoreSecret hp a ha).sublist hbefore⟩
  case created_available => exact fun _ s reply _ hu hname => available_of_created hruns hu hname
  case created_referred =>
    intro s reply hmem
    rcases created_secret hruns hmem with ⟨hp, rfl⟩ | ⟨hp, rfl⟩
    · obtain ⟨name, key, href⟩ := Plan.needsDatabase_iff.1 hp
      refine ⟨rfl, .inr ⟨key, ?_⟩⟩
      rcases href with href | href
      · obtain ⟨_, rfl, _⟩ := Plan.storeSource_eq_secret_iff.1 href
        exact .inl href
      · obtain ⟨_, rfl, _⟩ := Plan.storeSource_eq_secret_iff.1 href
        exact .inr href
    · have hs3 : p.artifacts = .s3 := Step.objectStore_isEnabled_iff.1 hp
      exact ⟨rfl, .inl (Plan.mem_secretVariables_iff.2 ⟨hs3, rfl⟩)⟩
  case database_applied =>
    rw [← Plan.needsDatabase_iff]
    constructor
    · intro hmem
      obtain ⟨step, hstep, rfl⟩ := isEnabled_of_includes_deploys hruns hmem
      exact hstep
    · exact fun hp => ((includes_databaseManifest hp a ha).sublist hbefore).sublist hwhole
  case objectStore_applied =>
    rw [← Plan.needsObjectStore_iff]
    constructor
    · intro hmem
      obtain ⟨step, hstep, rfl⟩ := isEnabled_of_includes_deploys hruns hmem
      exact hstep
    · exact fun hp => ((includes_objectStoreManifest hp a ha).sublist hbefore).sublist hwhole

/-- A run that gets as far as applying the description of the instance, which it writes first. -/
theorem credentials_in_place {σ : Type} (h : Handler Site.interface σ) (s : σ) (p : Plan)
    {before between after : List Event} {x : Except IoCause Unit} {y : Reply Unit}
    (ht : (run p).run.transcript h s =
      before ++ ⟨.machine (.write p.places.manifest p.design.yaml), x⟩ :: between ++
        ⟨.cluster (.apply p.design.yaml none), y⟩ :: after) :
    CredentialsInPlace p before ((run p).run.transcript h s) := by
  have hwrite := ht
  rw [List.append_assoc, List.cons_append] at hwrite
  exact .of_write (runs_transcript h (run p).run s) hwrite

/-- What is applied has come right before, rendered as it is or written as the description of the instance. -/
inductive Heralds (p : Plan) (manifest : String) (ns : Option String) : Event → Prop
  | rendered (part : Part) : Heralds p manifest ns ⟨.render part, .ok manifest⟩
  | written (x : Except IoCause Unit) (hmanifest : manifest = p.design.yaml) (hns : ns = none) :
    Heralds p manifest ns ⟨.machine (.write p.places.manifest p.design.yaml), x⟩

def Heralded (p : Plan) (t : List Event) : Prop :=
  ∀ u manifest ns reply v, t = u ++ ⟨.cluster (.apply manifest ns), reply⟩ :: v →
    ∃ e ∈ u.getLast?, Heralds p manifest ns e

theorem Heralded.append (ht : Heralded p t) (hu : Heralded p u) : Heralded p (t ++ u) := by
  intro a manifest ns reply b hab
  rcases List.append_eq_append_iff.1 hab with ⟨c, rfl, hc⟩ | ⟨c, rfl, hc⟩
  · obtain ⟨e, he, hheralds⟩ := hu c manifest ns reply b hc
    exact ⟨e, List.mem_getLast?_append_of_mem_getLast? he, hheralds⟩
  · cases c with
    | nil =>
        obtain ⟨e, he, -⟩ := hu [] manifest ns reply b hc.symm
        cases he
    | cons e c =>
        obtain ⟨rfl, -⟩ := List.cons.inj hc
        exact ht a manifest ns reply c rfl

def Applies : Request → Prop
  | .cluster (.apply ..) => True
  | _ => False

theorem Heralded.of_forall_not (ht : ∀ e ∈ t, ¬Applies e.1) : Heralded p t := by
  rintro a manifest ns reply b rfl
  exact absurd trivial (ht _ (List.mem_append_right _ List.mem_cons_self))

theorem Heralds.heralded {manifest : String} {ns : Option String} {e : Event} (h : Heralds p manifest ns e)
    (reply : Reply Unit) : Heralded p [e, ⟨.cluster (.apply manifest ns), reply⟩] := by
  intro a manifest' ns' reply' b hab
  match a with
  | [] =>
      obtain ⟨rfl, -⟩ := List.cons.inj hab
      cases h
  | [e'] =>
      simp only [List.cons_append, List.nil_append, List.cons.injEq] at hab
      obtain ⟨rfl, hlast, -⟩ := hab
      cases hlast
      exact ⟨e, rfl, h⟩
  | e' :: e'' :: a => simp at hab

def Heralding (p : Plan) (L : Language Event) : Prop := ∀ w ∈ L, Heralded p w

theorem Heralding.mul {L M : Language Event} (hL : Heralding p L) (hM : Heralding p M) : Heralding p (L * M) := by
  intro w hw
  obtain ⟨a, ha, b, hb, rfl⟩ := Language.mem_mul.1 hw
  exact (hL a ha).append (hM b hb)

theorem Heralding.of_within {L : Language Event} (h : Within (¬Applies ·) L) : Heralding p L :=
  fun w hw => .of_forall_not (h w hw)

theorem heralding_deploys (part : Part) (ns : Option String) : Heralding p (deploys part ns) := by
  intro w hw
  obtain ⟨text, hw⟩ := Language.mem_iSup.1 hw
  obtain ⟨_, ⟨_, rfl, rfl⟩, b, hb, rfl⟩ := Language.mem_mul.1 hw
  obtain ⟨_, reply, -, rfl⟩ := Language.mem_iSup.1 hb
  exact (Heralds.rendered part).heralded reply

theorem heralding_servingCourse (p : Plan) : Heralding p (servingCourse p) := by
  refine Heralding.mul (Heralding.mul ?_ (.of_within (within_appears fun _ => id))) (.of_within (within_granted id))
  intro w hw
  obtain ⟨_, ⟨x, _, rfl⟩, b, hb, rfl⟩ := Language.mem_mul.1 hw
  obtain ⟨_, reply, -, rfl⟩ := Language.mem_iSup.1 hb
  exact (Heralds.written x rfl rfl).heralded reply

theorem heralding_stepCourse (p : Plan) (s : Step) : Heralding p (stepCourse p s) := by
  have happears (r : Resource) : Heralding p (appears r) := .of_within (within_appears fun _ => id)
  have hreplaces (k : Secret) : Heralding p (replaces k) := .of_within (within_replaces (fun _ => id) id)
  cases s with
  | ns =>
      refine .of_within (Within.add ?_ (Within.mul ?_ ?_))
      · exact within_answered id
      · exact within_answered id
      · exact within_granted id
  | database =>
      refine Heralding.mul (Heralding.mul (Heralding.mul ?_ ?_) ?_) ?_
      · exact heralding_deploys _ _
      · exact happears _
      · exact .of_within (within_granted id)
      · exact hreplaces _
  | objectStore =>
      refine Heralding.mul (Heralding.mul (Heralding.mul (Heralding.mul (Heralding.mul ?_ ?_) ?_) ?_) ?_) ?_
      · exact hreplaces _
      · exact .of_within (within_granted id)
      · exact heralding_deploys _ _
      · exact happears _
      · exact .of_within (within_granted id)
      · exact .of_within (within_granted id)
  | operator => exact Heralding.mul (heralding_deploys _ _) (.of_within (within_granted id))
  | serving => exact heralding_servingCourse p
  | access =>
      refine .of_within (Within.mul (Within.mul ?_ ?_) ?_)
      · exact within_answered id
      · exact within_answered id
      · exact within_answered id

theorem heralding_stepsCourse (p : Plan) (steps : List Step) : Heralding p (stepsCourse p steps) := by
  induction steps with
  | nil => exact .of_within within_one
  | cons s rest ih =>
      rw [stepsCourse_cons]
      refine Heralding.mul ?_ ih
      split
      case isTrue => exact heralding_stepCourse p s
      case isFalse => exact .of_within within_one

theorem heralded_calls {r : Except Failure Summary} (h : Runs (run p).run t r) : Heralded p (calls t) := by
  intro a manifest ns reply b hab
  obtain ⟨y, w, hw⟩ := course_of_calls h hab
  rw [← stepsCourse_all] at hw
  exact heralding_stepsCourse p Step.all _ hw a manifest ns y w rfl

/-- Whatever a run applies that has not been rendered is the description of the instance. It is written before, and
by then credentials are in place. -/
theorem credentials_before_applying {r : Except Failure Summary} (h : Runs (run p).run t r) {manifest : String}
    {ns : Option String} {reply : Reply Unit} (ht : t = u ++ ⟨.cluster (.apply manifest ns), reply⟩ :: v)
    (hu : ∀ part, ⟨.render part, .ok manifest⟩ ∉ u) :
    manifest = p.design.yaml ∧ ns = none ∧ ∃ before x between,
      u = before ++ ⟨.machine (.write p.places.manifest p.design.yaml), x⟩ :: between ∧
        CredentialsInPlace p before t := by
  have hcalls : calls t = calls u ++ ⟨.cluster (.apply manifest ns), reply⟩ :: calls v := by
    rw [ht, calls_append, calls_cons_of_isCall rfl]
  obtain ⟨e, he, hheralds⟩ := heralded_calls h _ _ _ _ _ hcalls
  have hmem : e ∈ u := (calls_sublist u).subset (List.mem_of_mem_getLast? he)
  cases hheralds with
  | rendered part => exact absurd hmem (hu part)
  | written x hmanifest hns =>
      obtain ⟨before, between, rfl⟩ := List.append_of_mem hmem
      have hwrite := ht
      rw [List.append_assoc, List.cons_append] at hwrite
      exact ⟨hmanifest, hns, before, x, between, rfl, .of_write h hwrite⟩

theorem applies_of_course (ht : calls t ∈ course p) :
    ∃ before x between y after, t = before ++ ⟨.machine (.write p.places.manifest p.design.yaml), x⟩ :: between ++
      ⟨.cluster (.apply p.design.yaml none), y⟩ :: after := by
  rw [← stepsCourse_all, show Step.all = preparation ++ [.serving, .access] from rfl, stepsCourse_append,
    stepsCourse_cons, if_pos (show Step.serving.isEnabled p = true from rfl), stepCourse, servingCourse] at ht
  simp only [mul_assoc] at ht
  obtain ⟨a, _, b, hb, hab⟩ := Language.mem_mul.1 ht
  obtain ⟨_, ⟨x, _, rfl⟩, c, hc, rfl⟩ := Language.mem_mul.1 hb
  obtain ⟨d, hd, d', _, rfl⟩ := Language.mem_mul.1 hc
  obtain ⟨_, y, _, rfl⟩ := Language.mem_iSup.1 hd
  obtain ⟨before, rest, rfl, _, hrest⟩ := List.filter_eq_append_iff.1 hab.symm
  obtain ⟨before', rest', rfl, _, _, hrest'⟩ := List.filter_eq_cons_iff.1 hrest
  obtain ⟨between, after, rfl, _⟩ := List.filter_eq_cons_iff.1 hrest'
  exact ⟨before ++ before', x, between, y, after, by simp⟩

theorem mem_course_of_forall_not_fails {r : Except Failure Summary} (h : Runs (run p).run t r)
    (ht : ∀ e ∈ t, ¬Fails e) : calls t ∈ course p := by
  rcases run_keeps h with ⟨_, hcourse⟩ | ⟨_, u, r, x, y, v, hcalls, hfail, _⟩
  · exact hcourse
  · have hmem : ⟨r, x⟩ ∈ calls t := hcalls ▸ List.mem_append_right _ (List.mem_singleton_self _)
    exact absurd hfail (ht _ ((calls_sublist t).subset hmem))

def grant : (r : Request) → Answer r
  | .cluster c => ⟨.zero, .ok <| match c with
    | .apply .. | .createNamespace _ | .createSecret _ | .delete _ | .await .. => ()
    | .namespaceExists _ | .present _ => true
    | .describe _ | .get .. | .podLogs .. | .events .. | .podTable _ | .probe _ => ""
    | .pods .. => []
    | .podPhase .. => .running
    | .podAddress .. => none⟩
  | .poll .. => .answered .zero (.ok true)
  | .render _ => .ok ""
  | .record .. => .ok ()
  | .machine r => match r with
    | .log _ | .hold _ | .pause _ => ()
    | .now => (0 : Int)
    | .drawId => ⟨0⟩
    | .read _ => .ok ""
    | .write .. | .append .. | .remove _ => .ok ()
    | .occupied _ => true

theorem not_fails_grant (r : Request) : ¬Fails ⟨r, grant r⟩ := by
  cases r with
  | cluster c => exact Bool.noConfusion
  | poll r limit => simp only [Fails, grant, Wait.found?_at_once, reduceCtorEq, not_false_eq_true]
  | render part => exact Bool.noConfusion
  | record key value => exact Bool.noConfusion
  | machine m =>
      cases m with
      | write path text => exact Bool.noConfusion
      | _ => exact False.elim

theorem credentials_in_place_granted :
    let p : Plan := .ofSettings { backend := .postgres, artifacts := .s3 }
    let t := (run p).run.transcript (fun r (s : Unit) => (grant r, s)) ()
    ∃ before x between y after, t = before ++ ⟨.machine (.write p.places.manifest p.design.yaml), x⟩ :: between ++
        ⟨.cluster (.apply p.design.yaml none), y⟩ :: after ∧
      CredentialsInPlace p before t := by
  intro p t
  have hcourse : calls t ∈ course p := by
    refine mem_course_of_forall_not_fails (runs_transcript _ (run p).run ()) ?_
    rintro ⟨r, x⟩ he hfail
    obtain ⟨_, hx⟩ := exists_of_mem_transcript he
    obtain rfl : x = grant r := hx
    exact not_fails_grant r hfail
  obtain ⟨before, x, between, y, after, ht⟩ := applies_of_course hcourse
  exact ⟨before, x, between, y, after, ht, credentials_in_place _ () p ht⟩

end Deployment

end Rollout
