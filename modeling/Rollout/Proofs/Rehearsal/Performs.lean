import Rollout.Proofs.Site.Calls
import Rollout.Rehearsal.MemoryCluster

namespace Rollout.Rehearsal.MemoryCluster

open Cluster Program Site

variable {α β : Type} {w w' w'' : MemoryCluster} {labels : List String}

/-- What the outcome of a run depends on is the same, the queries on certain resources apart. -/
structure SameBut (labels : List String) (w w' : MemoryCluster) : Prop where
  behaviour : w'.behaviour = w.behaviour
  tlsFiles : w'.tlsFiles = w.tlsFiles
  disk : w'.station.disk = w.station.disk
  pollsOf : ∀ r : Resource, r.label ∉ labels → w'.pollsOf r = w.pollsOf r

theorem SameBut.refl (labels : List String) (w : MemoryCluster) : SameBut labels w w :=
  ⟨rfl, rfl, rfl, fun _ _ => rfl⟩

theorem SameBut.trans (h : SameBut labels w w') (h' : SameBut labels w' w'') : SameBut labels w w'' where
  behaviour := h'.behaviour.trans h.behaviour
  tlsFiles := h'.tlsFiles.trans h.tlsFiles
  disk := h'.disk.trans h.disk
  pollsOf r hr := (h'.pollsOf r hr).trans (h.pollsOf r hr)

theorem SameBut.of_nil (h : SameBut [] w w') : SameBut labels w w' :=
  ⟨h.behaviour, h.tlsFiles, h.disk, fun r _ => h.pollsOf r List.not_mem_nil⟩

theorem sameBut_record (w : MemoryCluster) (text : String) : SameBut [] w (w.record text) :=
  ⟨rfl, rfl, rfl, fun _ _ => rfl⟩

def atTime (w : MemoryCluster) (n : Nat) : MemoryCluster := { w with station := { w.station with clock := n } }

theorem pass_eq_atTime (w : MemoryCluster) (d : Duration) :
    w.pass d = w.atTime (w.station.clock + d.timed.nanos) := rfl

theorem clock_pass (w : MemoryCluster) (d : Duration) :
    (w.pass d).station.clock = w.station.clock + d.timed.nanos := by
  rw [pass_eq_atTime]
  rfl

theorem sameBut_atTime (w : MemoryCluster) (n : Nat) : SameBut [] w (w.atTime n) :=
  ⟨rfl, rfl, rfl, fun _ _ => rfl⟩

theorem sameBut_pass (w : MemoryCluster) (d : Duration) : SameBut [] w (w.pass d) := by
  rw [pass_eq_atTime]
  exact sameBut_atTime ..

def logged (w : MemoryCluster) (e : LogEntry) : MemoryCluster :=
  { w with station := { w.station with journal := e :: w.station.journal } }

theorem clock_logged (w : MemoryCluster) (e : LogEntry) : (w.logged e).station.clock = w.station.clock := rfl

theorem sameBut_logged (w : MemoryCluster) (e : LogEntry) : SameBut [] w (w.logged e) :=
  ⟨rfl, rfl, rfl, fun _ _ => rfl⟩

theorem answer_machine (w : MemoryCluster) (r : Machine.Request) :
    answer (.machine r) w = ((Workstation.answer r w.station).1,
      { w with station := (Workstation.answer r w.station).2 }) := rfl

theorem answer_pause (w : MemoryCluster) (d : Duration) : answer (.machine (.pause d)) w = ((), w.pass d) := by
  rw [answer_machine, show Workstation.answer (.pause d) w.station = ((), w.station.pass d) from rfl]
  rfl

theorem run_machine_bind (r : Machine.Request) (f : Machine.Answer r → Program interface α)
    (w : MemoryCluster) :
    ((HasMachine.machine r : Program interface (Machine.Answer r)) >>= f).run answer w =
      (f (answer (.machine r) w).1).run answer (answer (.machine r) w).2 := rfl

theorem run_log_bind (level : Level) (text : String) (fields : List (String × String))
    (f : Unit → Program interface α) (w : MemoryCluster) :
    (Machine.log level text fields >>= f).run answer w = (f ()).run answer (w.logged ⟨level, text, fields⟩) :=
  rfl

theorem run_cluster_bind (c : Call) (f : Reply c.Answer → Program interface α) (w : MemoryCluster) :
    (perform (I := Site.interface) (.cluster c) >>= f).run answer w =
      (f (w.answerCall c).1).run answer (w.answerCall c).2 := rfl

theorem run_pause_bind (d : Duration) (f : Unit → Program interface α) (w : MemoryCluster) :
    (Machine.pause d >>= f).run answer w = (f ()).run answer (w.pass d) := by
  rw [Machine.pause, run_machine_bind, answer_pause]

theorem run_program_bind (a : Program interface α) (f : α → Program interface β) (w : MemoryCluster) :
    (a >>= f).run answer w = (f (a.run answer w).1).run answer (a.run answer w).2 := Program.run_bind ..

theorem run_pure (a : α) (w : MemoryCluster) : (pure a : Program interface α).run answer w = (a, w) := rfl

theorem pollsOf_countPoll (w : MemoryCluster) (r r' : Resource) :
    (w.countPoll r).pollsOf r' = if r.label = r'.label then w.pollsOf r + 1 else w.pollsOf r' := by
  rw [countPoll, pollsOf, Sorted.get?_insert]
  split <;> rfl

theorem sameBut_countPoll (w : MemoryCluster) (r : Resource) : SameBut [r.label] w (w.countPoll r) := by
  refine ⟨rfl, rfl, rfl, fun r' hr' => ?_⟩
  have hne : r.label ≠ r'.label := fun heq => hr' (heq ▸ List.mem_singleton_self _)
  rw [pollsOf_countPoll, if_neg hne]

theorem sameBut_query (w : MemoryCluster) (r : Resource) (text : String) (d : Duration) :
    SameBut [r.label] w (((w.record text).countPoll r).pass d) := by
  refine (sameBut_record w text).of_nil.trans ?_
  exact (sameBut_countPoll _ r).trans (sameBut_pass ..).of_nil

theorem sameBut_answerCall (w : MemoryCluster) {c : Call} (hc : ∀ r, c ≠ .present r) :
    SameBut [] w (w.answerCall c).2 := by
  cases c with
  | present r => exact absurd rfl (hc r)
  | apply manifest ns =>
      rw [answerCall, effect]
      split <;> exact ⟨rfl, rfl, rfl, fun _ _ => rfl⟩
  | createNamespace name =>
      rw [answerCall, effect]
      split <;> exact ⟨rfl, rfl, rfl, fun _ _ => rfl⟩
  | createSecret s =>
      rw [answerCall, effect]
      split <;> exact ⟨rfl, rfl, rfl, fun _ _ => rfl⟩
  | delete r =>
      rw [answerCall, effect]
      split <;> exact ⟨rfl, rfl, rfl, fun _ _ => rfl⟩
  | _ => exact ⟨rfl, rfl, rfl, fun _ _ => rfl⟩

/-- Only the machine and the manifest of the operator change more than queries do. -/
theorem sameBut_answer {r : Request} (hmachine : ∀ m, r ≠ .machine m) (hrender : r ≠ .render .operator)
    (w : MemoryCluster) : ∃ labels, SameBut labels w (answer r w).2 := by
  match r with
  | .machine m => exact absurd rfl (hmachine m)
  | .render .operator => exact absurd rfl hrender
  | .render .database | .render .objectStore | .record .. => exact ⟨[], rfl, rfl, rfl, fun _ _ => rfl⟩
  | .poll r limit => exact ⟨_, sameBut_query w r _ _⟩
  | .cluster c =>
      by_cases hc : ∃ r, c = .present r
      · obtain ⟨r, rfl⟩ := hc
        exact ⟨_, sameBut_query w r _ _⟩
      · exact ⟨_, sameBut_answerCall w (not_exists.1 hc)⟩

theorem run_bind_action (a : Action α) (f : α → Action β) (w : MemoryCluster) :
    (a >>= f).run.run answer w = match a.run.run answer w with
      | (.ok x, w') => (f x).run.run answer w'
      | (.error e, w') => (.error e, w') := by
  rw [ExceptT.run_bind, run_program_bind]
  rcases a.run.run answer w with ⟨e | x, w'⟩
  · rfl
  · rfl

/-- From this state the action succeeds on exactly this condition, and leaves a state of this kind if it
does. -/
structure Performs (a : Action α) (w : MemoryCluster) (ok : Prop) (post : MemoryCluster → Prop) : Prop where
  isOk_iff : (a.run.run answer w).1.isOk = true ↔ ok
  post_of_ok : ok → post (a.run.run answer w).2

namespace Performs

variable {a a' : Action α} {ok ok' : Prop} {post post' : MemoryCluster → Prop}

theorem mono (h : Performs a w ok post) (hok : ok ↔ ok') (hpost : ∀ w', post w' → post' w') :
    Performs a w ok' post' where
  isOk_iff := h.isOk_iff.trans hok
  post_of_ok h' := hpost _ (h.post_of_ok (hok.2 h'))

theorem of_run_ok {x : α} (hrun : a.run.run answer w = (.ok x, w')) (hpost : post w') : Performs a w True post where
  isOk_iff := by
    rw [hrun]
    exact iff_of_true rfl trivial
  post_of_ok _ := by
    rw [hrun]
    exact hpost

theorem of_run_error {e : Failure} (hrun : a.run.run answer w = (.error e, w')) : Performs a w False post where
  isOk_iff := by
    rw [hrun]
    exact iff_of_false Bool.noConfusion id
  post_of_ok h := h.elim

theorem of_run_eq (hrun : a.run.run answer w = a'.run.run answer w') (h : Performs a' w' ok post) :
    Performs a w ok post where
  isOk_iff := by
    rw [hrun]
    exact h.isOk_iff
  post_of_ok hok := by
    rw [hrun]
    exact h.post_of_ok hok

theorem run_cases (h : Performs a w ok post) :
    (¬ok ∧ ∃ e w', a.run.run answer w = (.error e, w')) ∨
      (ok ∧ ∃ x w', a.run.run answer w = (.ok x, w') ∧ post w') := by
  have hiff := h.isOk_iff
  have hpost := h.post_of_ok
  rcases hrun : a.run.run answer w with ⟨e | x, w'⟩
  · rw [hrun] at hiff
    exact .inl ⟨fun hok => Bool.noConfusion (hiff.2 hok), e, w', rfl⟩
  · rw [hrun] at hiff hpost
    exact .inr ⟨hiff.1 rfl, x, w', rfl, hpost (hiff.1 rfl)⟩

theorem bind {f : α → Action β} (ha : Performs a w ok post)
    (hf : ∀ x w', post w' → Performs (f x) w' ok' post') : Performs (a >>= f) w (ok ∧ ok') post' := by
  have hbind := run_bind_action a f w
  rcases ha.run_cases with ⟨hfail, e, w', hrun⟩ | ⟨hok, x, w', hrun, hpost⟩
  · rw [hrun] at hbind
    exact (of_run_error hbind).mono (by simp [hfail]) fun _ => id
  · rw [hrun] at hbind
    exact (of_run_eq hbind (hf x w' hpost)).mono (by simp [hok]) fun _ => id

theorem next {f : α → Action β} (ha : Performs a w True post)
    (hf : ∀ x w', post w' → Performs (f x) w' ok' post') : Performs (a >>= f) w ok' post' :=
  (ha.bind hf).mono (by simp) fun _ => id

theorem onFailure {after : Program interface Unit} (ha : Performs a w ok post) :
    Performs (onFailure a after) w ok post := by
  have hbind : (Site.onFailure a after).run.run answer w = match a.run.run answer w with
      | (.ok x, w') => (.ok x, w')
      | (.error e, w') => (.error e, (after.run answer w').2) := by
    change (Program.bind _ _).run answer w = _
    rw [Program.run_bind]
    rcases a.run.run answer w with ⟨e | x, w'⟩
    · change (Program.bind _ _).run answer w' = _
      rw [Program.run_bind]
      rfl
    · rfl
  rcases ha.run_cases with ⟨hfail, e, w', hrun⟩ | ⟨hok, x, w', hrun, hpost⟩
  · rw [hrun] at hbind
    exact (of_run_error hbind).mono (by simp [hfail]) fun _ => id
  · rw [hrun] at hbind
    exact (of_run_ok hbind hpost).mono (by simp [hok]) fun _ => id

theorem lift (p : Program interface α) (w : MemoryCluster) :
    Performs (ExceptT.lift p) w True fun w' => w' = (p.run answer w).2 := by
  have hrun : (ExceptT.lift p : Action α).run.run answer w = (.ok (p.run answer w).1, (p.run answer w).2) := by
    change (Program.bind _ _).run answer w = _
    rw [Program.run_bind]
    rfl
  exact of_run_ok hrun rfl

theorem info (text : String) (fields : List (String × String)) (w : MemoryCluster) :
    Performs (info text fields) w True (SameBut [] w) :=
  (lift _ w).mono Iff.rfl fun _ h => h ▸ ⟨rfl, rfl, rfl, fun _ _ => rfl⟩

theorem call (c : Call) (w : MemoryCluster) :
    Performs (call c) w ((w.outcome c).isOk = true) fun w' => w' = (w.answerCall c).2 where
  isOk_iff := Iff.rfl
  post_of_ok _ := rfl

theorem call_same {c : Call} (hc : ∀ r, c ≠ .present r) (hok : (w.outcome c).isOk = true ↔ ok) :
    Performs (Site.call c) w ok (SameBut [] w) :=
  (call c w).mono hok fun _ h => h ▸ sameBut_answerCall w hc

end Performs

theorem outcome_apply (w : MemoryCluster) (manifest : String) (ns : Option String) :
    (w.outcome (.apply manifest ns)).isOk = true ↔ w.behaviour.failingApplies = false := by
  rw [outcome]
  split <;> simp_all [Except.isOk, Except.toBool]

theorem outcome_createSecret {s : Secret} (hs : w.secrets.get? s.name = none) :
    (w.outcome (.createSecret s)).isOk = true := by
  rw [outcome, hs]
  rfl

theorem get?_effect_delete (w : MemoryCluster) (name ns : String) :
    (w.effect (.delete ⟨.secret, name, ns⟩)).secrets.get? name = none := by
  rw [effect, if_pos rfl]
  simp [Sorted.get?]

end Rollout.Rehearsal.MemoryCluster

