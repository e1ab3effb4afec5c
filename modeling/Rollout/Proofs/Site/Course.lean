import Mathlib
import Rollout.Proofs.Site.Calls

namespace Rollout.Site

open Program

variable {α β : Type} {L M : Language Event} {t u : List Event}

/-- One request, answered in one of certain ways. -/
def answered (r : Request) (P : Answer r → Prop) : Language Event := {t | ∃ x, P x ∧ t = [⟨r, x⟩]}

def replies (c : Cluster.Call) (x : c.Answer) : Language Event :=
  answered (.cluster c) fun reply => reply.outcome = .ok x

def granted (c : Cluster.Call) : Language Event := ⨆ x, replies c x

/-- The call is made, whatever comes of it. -/
def asked (c : Cluster.Call) : Language Event := answered (.cluster c) fun _ => True

def rendered (part : Part) (text : String) : Language Event := answered (.render part) fun x => x = .ok text

def recorded (key value : String) : Language Event := answered (.record key value) fun x => x = .ok ()

def written (path text : String) : Language Event :=
  answered (.machine (.write path text)) fun x => x = .ok ()

/-- One existence query, after which the resource is known to be there or not. -/
def query (r : Cluster.Resource) (found : Bool) : Language Event :=
  ⨆ limit, answered (.poll r limit) fun x => (x.found? limit).isSome = found

/-- Existence queries up to the first that finds the resource. -/
def appears (r : Cluster.Resource) : Language Event := KStar.kstar (query r false) * query r true

theorem mem_answered {r : Request} {P : Answer r → Prop} {x : Answer r} (hx : P x) :
    [⟨r, x⟩] ∈ answered r P := ⟨x, hx, rfl⟩

theorem mem_query {r : Cluster.Resource} {limit : Duration} {x : Poll} {found : Bool}
    (hx : (x.found? limit).isSome = found) : [⟨.poll r limit, x⟩] ∈ query r found :=
  Language.mem_iSup.2 ⟨limit, mem_answered hx⟩

theorem mem_granted {c : Cluster.Call} (took : Duration) (x : c.Answer) :
    [⟨.cluster c, ⟨took, .ok x⟩⟩] ∈ granted c :=
  Language.mem_iSup.2 ⟨x, mem_answered rfl⟩

theorem mem_asked {c : Cluster.Call} (took : Duration) (x : Except Failure c.Answer) :
    [⟨.cluster c, ⟨took, x⟩⟩] ∈ asked c :=
  mem_answered (r := .cluster c) trivial

theorem mem_appears {r : Cluster.Resource} (h : t ∈ query r true) : t ∈ appears r :=
  Language.mem_mul.2 ⟨[], Language.nil_mem_kstar _, t, h, rfl⟩

theorem append_mem_appears {r : Cluster.Resource} (hu : u ∈ query r false) (ht : t ∈ appears r) :
    u ++ t ∈ appears r := by
  obtain ⟨v, hv, w, hw, rfl⟩ := Language.mem_mul.1 ht
  refine Language.mem_mul.2 ⟨u ++ v, ?_, w, hw, List.append_assoc ..⟩
  obtain ⟨vs, rfl, hvs⟩ := Language.mem_kstar.1 hv
  exact Language.mem_kstar.2 ⟨u :: vs, rfl, List.forall_mem_cons.2 ⟨hu, hvs⟩⟩

def Fails : Event → Prop
  | ⟨.cluster _, reply⟩ => reply.outcome.isOk = false
  | ⟨.poll _ limit, x⟩ => x.found? limit = none
  | ⟨.render _, x⟩ => x.isOk = false
  | ⟨.record .., x⟩ => x.isOk = false
  | ⟨.machine (.write ..), x⟩ => x.isOk = false
  | ⟨.machine _, _⟩ => False

/-- The calls follow a course up to one that fails and where the course would have gone on with another
answer. -/
def BreaksOff (L : Language Event) (t : List Event) : Prop :=
  ∃ u r x y v, t = u ++ [⟨r, x⟩] ∧ Fails ⟨r, x⟩ ∧ u ++ ⟨r, y⟩ :: v ∈ L

theorem BreaksOff.mono (h : BreaksOff L t) (hle : L ≤ M) : BreaksOff M t := by
  obtain ⟨u, r, x, y, v, ht, hx, hy⟩ := h
  exact ⟨u, r, x, y, v, ht, hx, hle hy⟩

theorem BreaksOff.single {r : Request} {x y : Answer r} (hx : Fails ⟨r, x⟩) (hy : [⟨r, y⟩] ∈ L) :
    BreaksOff L [⟨r, x⟩] := ⟨[], r, x, y, [], rfl, hx, hy⟩

theorem BreaksOff.iSup {L : α → Language Event} (x : α) (h : BreaksOff (L x) t) : BreaksOff (⨆ x, L x) t :=
  h.mono (le_iSup L x)

theorem BreaksOff.of_iSup {L : α → Language Event} (h : BreaksOff (⨆ x, L x) t) : ∃ x, BreaksOff (L x) t := by
  obtain ⟨u, r, x, y, v, ht, hx, hy⟩ := h
  obtain ⟨z, hz⟩ := Language.mem_iSup.1 hy
  exact ⟨z, u, r, x, y, v, ht, hx, hz⟩

theorem BreaksOff.mul_right (h : BreaksOff L t) (hu : u ∈ M) : BreaksOff (L * M) t := by
  obtain ⟨w, r, x, y, v, ht, hx, hy⟩ := h
  exact ⟨w, r, x, y, v ++ u, ht, hx, Language.mem_mul.2 ⟨_, hy, u, hu, by simp⟩⟩

theorem BreaksOff.mul_left (hu : u ∈ L) (h : BreaksOff M t) : BreaksOff (L * M) (u ++ t) := by
  obtain ⟨w, r, x, y, v, rfl, hx, hy⟩ := h
  exact ⟨u ++ w, r, x, y, v, by simp, hx, Language.mem_mul.2 ⟨u, hu, _, hy, by simp⟩⟩

/-- What is asked before a run breaks off is the beginning of what is asked in the whole course. -/
theorem BreaksOff.requests_prefix (h : BreaksOff L t) :
    ∃ w ∈ L, t.map Sigma.fst <+: w.map Sigma.fst := by
  obtain ⟨u, r, x, y, v, rfl, _, hy⟩ := h
  exact ⟨_, hy, v.map Sigma.fst, by simp⟩

/-- What the calls of a run are, given what the run comes to. -/
def Keeps (L : α → Language Event) (t : List Event) : Except Failure α → Prop
  | .ok x => calls t ∈ L x
  | .error _ => BreaksOff (⨆ x, L x) (calls t)

theorem Keeps.mono {L M : α → Language Event} {r : Except Failure α} (h : Keeps L t r) (hle : ∀ x, L x ≤ M x) :
    Keeps M t r := by
  cases r with
  | ok x => exact hle x h
  | error e => exact BreaksOff.mono h (iSup_mono hle)

theorem Keeps.of_calls_eq {L : α → Language Event} {r : Except Failure α} (h : Keeps L t r)
    (hcalls : calls u = calls t) : Keeps L u r := by
  cases r with
  | ok x =>
      rw [Keeps, hcalls]
      exact h
  | error e =>
      rw [Keeps, hcalls]
      exact h

theorem Keeps.mul_left {M : α → Language Event} {r : Except Failure α} (hu : calls u ∈ L) (h : Keeps M t r) :
    Keeps (fun x => L * M x) (u ++ t) r := by
  cases r with
  | ok x =>
      rw [Keeps, calls_append]
      exact Language.append_mem_mul hu h
  | error e =>
      obtain ⟨x, hx⟩ := BreaksOff.of_iSup h
      rw [Keeps, calls_append]
      exact (hx.mul_left hu).iSup (L := fun x => L * M x) x

/-- Whatever is answered, the calls of the action are a course for the value that it comes to, or break
one off. -/
structure Follows (a : Action α) (L : α → Language Event) : Prop where
  possible : ∃ x w, w ∈ L x
  keeps : ∀ {t r}, Runs a.run t r → Keeps L t r

namespace Follows

variable {a : Action α} {L M : α → Language Event}

theorem mono (h : Follows a L) (hle : ∀ x, L x ≤ M x) : Follows a M where
  possible := by
    obtain ⟨x, w, hw⟩ := h.possible
    exact ⟨x, w, hle x hw⟩
  keeps ht := (h.keeps ht).mono hle

theorem bind {f : α → Action β} {M : α → β → Language Event} (ha : Follows a L)
    (hf : ∀ x, Follows (f x) (M x)) : Follows (a >>= f) fun y => ⨆ x, L x * M x y where
  possible := by
    obtain ⟨x, u, hu⟩ := ha.possible
    obtain ⟨y, v, hv⟩ := (hf x).possible
    exact ⟨y, u ++ v, Language.mem_iSup.2 ⟨x, Language.append_mem_mul hu hv⟩⟩
  keeps := by
    intro t r ht
    rcases runs_bind_iff.1 ht with ⟨e, rfl, he⟩ | ⟨u, v, x, rfl, hu, hv⟩
    · obtain ⟨x, hx⟩ := BreaksOff.of_iSup (ha.keeps he)
      obtain ⟨y, w, hw⟩ := (hf x).possible
      exact (hx.mul_right hw).mono (le_iSup_of_le y (le_iSup (fun x => L x * M x y) x))
    · have hu' : calls u ∈ L x := ha.keeps hu
      exact (((hf x).keeps hv).mul_left hu').mono fun y => le_iSup (fun x => L x * M x y) x

theorem seq {a : Action Unit} {b : Action β} {L : Language Event} {M : β → Language Event}
    (ha : Follows a fun _ => L) (hb : Follows b M) : Follows (a >>= fun _ => b) fun y => L * M y :=
  (ha.bind fun _ => hb).mono fun _ => iSup_le fun _ => le_rfl

theorem onFailure {after : Program interface Unit} (ha : Follows a L) (hafter : Silent after) :
    Follows (onFailure a after) L where
  possible := ha.possible
  keeps := by
    intro t r ht
    rcases runs_onFailure_iff.1 ht with ⟨x, rfl, hx⟩ | ⟨e, u, v, rfl, rfl, hu, hv⟩
    · exact ha.keeps hx
    · refine (ha.keeps hu).of_calls_eq ?_
      rw [calls_append, calls_of_silent hafter hv, List.append_nil]

theorem lift {p : Program interface Unit} {K : Language Event} (hK : ∃ w, w ∈ K)
    (hp : ∀ t, Runs p t () → calls t ∈ K) : Follows (ExceptT.lift p) fun _ => K where
  possible := ⟨(), hK⟩
  keeps := by
    intro t r ht
    obtain ⟨u, v, x, rfl, hu, hv⟩ := Program.runs_bind_iff.1 ht
    obtain ⟨rfl, rfl⟩ := runs_pure_iff.1 hv
    rw [List.append_nil]
    exact hp u hu

theorem silent {p : Program interface Unit} (hp : Silent p) : Follows (ExceptT.lift p) fun _ => 1 :=
  lift ⟨[], rfl⟩ fun _ ht => calls_of_silent hp ht

theorem info (text : String) (fields : List (String × String)) : Follows (info text fields) fun _ => 1 :=
  silent (silent_log ..)

theorem pure_unit : Follows (pure () : Action Unit) fun _ => 1 where
  possible := ⟨(), [], rfl⟩
  keeps := by
    intro t r ht
    obtain ⟨rfl, rfl⟩ := runs_pure_iff.1 ht
    rfl

theorem single {P : α → Answer r → Prop} (hr : r.isCall = true) (hpossible : ∃ x y, P x y)
    (hruns : ∀ t x, Runs a.run t x → ∃ y, t = [⟨r, y⟩] ∧
      ((∃ z, x = .ok z ∧ P z y) ∨ ∃ e, x = .error e ∧ Fails ⟨r, y⟩)) :
    Follows a fun x => answered r (P x) where
  possible := by
    obtain ⟨x, y, hy⟩ := hpossible
    exact ⟨x, _, mem_answered hy⟩
  keeps := by
    intro t x ht
    obtain ⟨y, rfl, ⟨z, rfl, hz⟩ | ⟨e, rfl, he⟩⟩ := hruns t x ht
    · rw [Keeps, calls_cons_of_isCall hr]
      exact mem_answered hz
    · obtain ⟨z, y', hy'⟩ := hpossible
      rw [Keeps, calls_cons_of_isCall hr]
      exact (BreaksOff.single he (mem_answered hy')).iSup z

theorem call {c : Cluster.Call} (hc : c.isDiagnostic = false) (x : c.Answer) :
    Follows (call c) (replies c) := by
  refine single (by simp [Request.isCall, hc]) ⟨x, ⟨.zero, .ok x⟩, rfl⟩ fun t r ht => ?_
  obtain ⟨took, rfl⟩ := runs_call_iff.1 ht
  refine ⟨_, rfl, ?_⟩
  cases r with
  | ok x => exact .inl ⟨x, rfl, rfl⟩
  | error e => exact .inr ⟨e, rfl, rfl⟩

theorem render (part : Part) : Follows (render part) (rendered part) := by
  refine single rfl ⟨"", .ok "", rfl⟩ fun t r ht => ⟨r, runs_render_iff.1 ht, ?_⟩
  cases r with
  | ok text => exact .inl ⟨text, rfl, rfl⟩
  | error e => exact .inr ⟨e, rfl, rfl⟩

theorem record (key value : String) : Follows (record key value) fun _ => recorded key value := by
  refine single rfl ⟨(), .ok (), rfl⟩ fun t r ht => ⟨r, runs_record_iff.1 ht, ?_⟩
  cases r with
  | ok x => exact .inl ⟨x, rfl, rfl⟩
  | error e => exact .inr ⟨e, rfl, rfl⟩

theorem write (path text : String) : Follows (write path text) fun _ => written path text := by
  refine single rfl ⟨(), .ok (), rfl⟩ fun t r ht => ?_
  obtain ⟨x, rfl, rfl⟩ := runs_write_iff.1 ht
  refine ⟨x, rfl, ?_⟩
  cases x with
  | ok x => exact .inl ⟨x, rfl, rfl⟩
  | error c => exact .inr ⟨.io c, rfl, rfl⟩

end Follows

section Within

variable {P : Request → Prop}

/-- Only certain things are asked. -/
def Within (P : Request → Prop) (L : Language Event) : Prop := ∀ w ∈ L, ∀ e ∈ w, P e.1

theorem within_one : Within P 1 := by
  rintro w rfl e he
  cases he

theorem within_answered {r : Request} {A : Answer r → Prop} (hr : P r) : Within P (answered r A) := by
  rintro w ⟨x, _, rfl⟩ e he
  obtain rfl := List.mem_singleton.1 he
  exact hr

theorem Within.iSup {L : α → Language Event} (h : ∀ x, Within P (L x)) : Within P (⨆ x, L x) := by
  intro w hw
  obtain ⟨x, hx⟩ := Language.mem_iSup.1 hw
  exact h x w hx

theorem Within.mul (hL : Within P L) (hM : Within P M) : Within P (L * M) := by
  intro w hw e he
  obtain ⟨u, hu, v, hv, rfl⟩ := Language.mem_mul.1 hw
  rcases List.mem_append.1 he with he | he
  · exact hL u hu e he
  · exact hM v hv e he

theorem Within.add (hL : Within P L) (hM : Within P M) : Within P (L + M) := by
  intro w hw
  rcases (Language.mem_add ..).1 hw with hw | hw
  · exact hL w hw
  · exact hM w hw

theorem Within.kstar (hL : Within P L) : Within P (KStar.kstar L) := by
  intro w hw e he
  obtain ⟨ws, rfl, hws⟩ := Language.mem_kstar.1 hw
  obtain ⟨v, hv, he⟩ := List.mem_flatten.1 he
  exact hL v (hws v hv) e he

theorem within_granted {c : Cluster.Call} (hc : P (.cluster c)) : Within P (granted c) :=
  .iSup fun _ => within_answered hc

theorem within_appears {r : Cluster.Resource} (hr : ∀ limit, P (.poll r limit)) : Within P (appears r) :=
  have hquery (found : Bool) : Within P (query r found) := .iSup fun limit => within_answered (hr limit)
  (hquery false).kstar.mul (hquery true)

end Within

/-- The calls of the course occur in this order, among others. -/
def Includes (t : List Event) (L : Language Event) : Prop := ∃ w ∈ L, w.Sublist t

theorem Includes.sublist (h : Includes t L) (ht : t.Sublist u) : Includes u L := by
  obtain ⟨w, hw, hsub⟩ := h
  exact ⟨w, hw, hsub.trans ht⟩

theorem includes_self : ∀ w ∈ L, Includes w L := fun w hw => ⟨w, hw, List.Sublist.refl w⟩

theorem includes_left {K : Language Event} (h : ∀ w ∈ L, Includes w K) : ∀ w ∈ L * M, Includes w K := by
  intro w hw
  obtain ⟨u, hu, v, _, rfl⟩ := Language.mem_mul.1 hw
  exact (h u hu).sublist (List.sublist_append_left u v)

theorem includes_right {K : Language Event} (h : ∀ w ∈ M, Includes w K) : ∀ w ∈ L * M, Includes w K := by
  intro w hw
  obtain ⟨u, _, v, hv, rfl⟩ := Language.mem_mul.1 hw
  exact (h v hv).sublist (List.sublist_append_right u v)

end Rollout.Site
