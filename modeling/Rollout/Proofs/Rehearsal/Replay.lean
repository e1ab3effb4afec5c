import Mathlib.Data.List.Induction
import Mathlib.Logic.Relation
import Rollout.Proofs.Rehearsal.CallTexts
import Rollout.Proofs.Rehearsal.Frame
import Rollout.Proofs.Rehearsal.History
import Rollout.Proofs.Rehearsal.Performs

namespace Rollout

theorem Sorted.get?_filter_ne {α : Type} (t : Sorted α) (k x : String) :
    Sorted.get? (t.filter fun e => e.1 != k) x = if k = x then none else t.get? x := by
  rw [get?, List.find?_filter]
  split
  case isTrue h =>
    subst h
    simp
  case isFalse h =>
    refine congrArg (Option.map _) (congrFun (congrArg List.find? (funext fun e => ?_)) t)
    by_cases hx : e.1 = x
    · simp [hx, Ne.symm h]
    · simp [hx]

namespace Rehearsal

open Cluster Program Site

namespace MemoryCluster

variable {w w' w'' : MemoryCluster} {α : Type}

/-- What a client does at one go: a request, which may give up on a query, or what comes before a
deployment. -/
inductive Advances : MemoryCluster → MemoryCluster → Prop
  | asked (r : Request) (w : MemoryCluster) : Advances w (answer r w).2
  | prepared (o : Operation) (w : MemoryCluster) : Advances w (o.prepare w)

/-- What clients bring about, however many of them and in the middle of whatever they do. -/
abbrev Reaches : MemoryCluster → MemoryCluster → Prop := Relation.ReflTransGen Advances

theorem reaches_run (p : Program interface α) (w : MemoryCluster) : Reaches w (p.run answer w).2 := by
  induction p generalizing w with
  | done a => exact .refl
  | ask r next ih => exact (ih _ _).head (.asked r w)

theorem reaches_next (o : Operation) (w : MemoryCluster) : Reaches w (o.next w) :=
  (reaches_run o.program (o.prepare w)).head (.prepared o w)

theorem reaches_after (w : MemoryCluster) (ops : List Operation) : Reaches w (w.after ops) := by
  induction ops generalizing w with
  | nil => exact .refl
  | cons o ops ih => exact (reaches_next o w).trans (ih _)

/-- How the cluster behaves, the manifests of who deploys on it aside. -/
def rules (w : MemoryCluster) : Behaviour := { w.behaviour with failingOperator := false }

/-- The calls as they were written down, the first of them first. -/
def callLog (w : MemoryCluster) : List String := w.calls.reverse

/-- Whether there is a secret of this name, once a call has been written down that may have been about it. -/
def stored (name : String) (was : Bool) (text : String) : Bool :=
  if text = "create_secret " ++ name then true
  else if text = "delete secret/" ++ name then false
  else was

/-- What a call that is written down as an application leads to, unless such calls fail. -/
def countApplied (w : MemoryCluster) (texts : List String) : Nat :=
  if w.behaviour.failingApplies then 0 else texts.countP fun text => firstWord text == "apply"

section Effects

variable (w) {c : Call}

theorem calls_effect (c : Call) : (w.effect c).calls = w.calls := by
  cases c with
  | apply _ _ | createNamespace _ | createSecret _ | delete _ =>
      rw [effect]
      split
      · rfl
      · rfl
  | present r => rw [effect, pass, countPoll]
  | _ => rfl

theorem behaviour_effect (c : Call) : (w.effect c).behaviour = w.behaviour := by
  cases c with
  | apply _ _ | createNamespace _ | createSecret _ | delete _ =>
      rw [effect]
      split
      · rfl
      · rfl
  | present r => rw [effect, pass, countPoll]
  | _ => rfl

theorem polls_effect (h : ∀ r, c ≠ .present r) : (w.effect c).polls = w.polls := by
  cases c with
  | apply _ _ | createNamespace _ | createSecret _ | delete _ =>
      rw [effect]
      split
      · rfl
      · rfl
  | present r => exact absurd rfl (h r)
  | _ => rfl

theorem namespaces_effect (h : ∀ name, c ≠ .createNamespace name) : (w.effect c).namespaces = w.namespaces := by
  cases c with
  | apply _ _ | createSecret _ | delete _ =>
      rw [effect]
      split
      · rfl
      · rfl
  | createNamespace name => exact absurd rfl (h name)
  | present r => rw [effect, pass, countPoll]
  | _ => rfl

theorem applied_effect (h : ∀ manifest ns, c ≠ .apply manifest ns) : (w.effect c).applied = w.applied := by
  cases c with
  | createNamespace _ | createSecret _ | delete _ =>
      rw [effect]
      split
      · rfl
      · rfl
  | apply manifest ns => exact absurd rfl (h manifest ns)
  | present r => rw [effect, pass, countPoll]
  | _ => rfl

/-! What a call does to each part, by the text that it is written down with. -/

theorem pollsOf_effect (c : Call) (r : Resource) :
    (w.effect c).pollsOf r = w.pollsOf r + [callText c].count ("exists " ++ r.label) := by
  rw [List.count_singleton]
  by_cases h : ∃ r', c = .present r'
  · obtain ⟨r', rfl⟩ := h
    have hpass : (w.effect (.present r')).pollsOf r = (w.countPoll r').pollsOf r :=
      (sameBut_pass ..).pollsOf r List.not_mem_nil
    rw [hpass, pollsOf_countPoll]
    by_cases hlabel : r'.label = r.label
    · have htext : callText (.present r') = "exists " ++ r.label := congrArg ("exists " ++ ·) hlabel
      rw [if_pos hlabel, if_pos (beq_iff_eq.2 htext), pollsOf, pollsOf, hlabel]
    · have htext : callText (.present r') ≠ "exists " ++ r.label := fun h =>
        hlabel ((String.append_right_inj _).1 h)
      rw [if_neg hlabel, if_neg fun h => htext (beq_iff_eq.1 h)]
      rfl
  · have htext : ¬(callText c == "exists " ++ r.label) = true := by
      intro ht
      obtain ⟨r', hr, -⟩ := callText_eq_present_iff.1 (beq_iff_eq.1 ht)
      exact h ⟨r', hr⟩
    rw [if_neg htext, pollsOf, polls_effect w fun r' hr => h ⟨r', hr⟩]
    rfl

theorem mem_namespaces_effect (c : Call) (name : String) :
    name ∈ (w.effect c).namespaces ↔ name ∈ w.namespaces ∨ "create_namespace " ++ name ∈ [callText c] := by
  rw [List.mem_singleton, eq_comm (b := callText c), callText_eq_createNamespace_iff]
  by_cases h : ∃ n, c = .createNamespace n
  · obtain ⟨n, rfl⟩ := h
    rw [effect, Call.createNamespace.injEq, eq_comm (a := n)]
    split
    case isTrue hn => exact (or_iff_left_of_imp fun h => h ▸ List.contains_iff_mem.1 hn).symm
    case isFalse => exact List.mem_cons.trans or_comm
  · rw [namespaces_effect w fun n hn => h ⟨n, hn⟩, or_iff_left fun hn => h ⟨name, hn⟩]

theorem length_applied_effect (c : Call) :
    (w.effect c).applied.length = w.applied.length + w.countApplied [callText c] := by
  rw [countApplied, List.countP_singleton]
  by_cases h : ∃ manifest ns, c = .apply manifest ns
  · rw [if_pos (beq_iff_eq.2 (firstWord_callText_eq_apply_iff.2 h))]
    obtain ⟨manifest, ns, rfl⟩ := h
    rw [effect]
    split
    · rfl
    · rfl
  · rw [if_neg fun ht => h (firstWord_callText_eq_apply_iff.1 (beq_iff_eq.1 ht)), ite_self,
      applied_effect w fun manifest ns hc => h ⟨manifest, ns, hc⟩]
    rfl

/-- A secret is there by its name. -/
def SecretsNamed (w : MemoryCluster) : Prop := ∀ name s, w.secrets.get? name = some s → s.name = name

theorem stored_createSecret (s : Secret) (name : String) (was : Bool) :
    stored name was (callText (.createSecret s)) = if s.name = name then true else was := by
  have hdelete : callText (.createSecret s) ≠ "delete secret/" ++ name := fun h =>
    have ⟨_, hs⟩ := callText_eq_delete_secret_iff.1 h
    nomatch hs
  have hcreate : callText (.createSecret s) = "create_secret " ++ name ↔ s.name = name := String.append_right_inj _
  rw [stored, if_neg hdelete]
  exact ite_congr (propext hcreate) (fun _ => rfl) fun _ => rfl

theorem stored_delete {r : Resource} (h : r.kind = .secret) (name : String) (was : Bool) :
    stored name was (callText (.delete r)) = if r.name = name then false else was := by
  have hcreate : callText (.delete r) ≠ "create_secret " ++ name := fun h =>
    have ⟨_, hs, _⟩ := callText_eq_createSecret_iff.1 h
    nomatch hs
  obtain ⟨kind, n, ns⟩ := r
  obtain rfl : kind = .secret := h
  rw [stored, if_neg hcreate]
  refine ite_congr (propext (callText_eq_delete_secret_iff.trans ?_)) (fun _ => rfl) fun _ => rfl
  simp

theorem stored_of_sparesSecrets (h : Request.sparesSecrets (.cluster c) = true) (name : String) (was : Bool) :
    stored name was (callText c) = was := by
  rw [stored, if_neg, if_neg]
  · intro hc
    obtain ⟨ns, rfl⟩ := callText_eq_delete_secret_iff.1 hc
    cases h
  · intro hc
    obtain ⟨s, rfl, rfl⟩ := callText_eq_createSecret_iff.1 hc
    cases h

theorem secrets_effect_of_text (c : Call) :
    (w.SecretsNamed → (w.effect c).SecretsNamed) ∧ ∀ name,
      ((w.effect c).secrets.get? name).isSome = stored name (w.secrets.get? name).isSome (callText c) := by
  by_cases h : Request.sparesSecrets (.cluster c) = true
  · rw [SecretsNamed, SecretsNamed, secrets_effect w h]
    exact ⟨id, fun name => (stored_of_sparesSecrets h name _).symm⟩
  · obtain ⟨s, hs⟩ | ⟨r, hr, hc⟩ := Request.of_sparesSecrets_eq_false (Bool.eq_false_iff.2 h)
    · cases hs
      rw [effect]
      split
      case isTrue hthere =>
        refine ⟨id, fun name => ?_⟩
        rw [stored_createSecret]
        split
        case isTrue hname => rw [← hname, hthere]
        case isFalse => rfl
      case isFalse =>
        refine ⟨fun hw name s' hs' => ?_, fun name => ?_⟩
        · rw [Sorted.get?_insert] at hs'
          split at hs'
          case isTrue hname => exact Option.some.inj hs' ▸ hname
          case isFalse => exact hw name s' hs'
        · rw [stored_createSecret, Sorted.get?_insert, apply_ite Option.isSome]
          rfl
    · cases hc
      rw [effect, if_pos hr]
      refine ⟨fun hw name s' hs' => ?_, fun name => ?_⟩
      · rw [Sorted.get?_filter_ne] at hs'
        split at hs'
        case isTrue => cases hs'
        case isFalse => exact hw name s' hs'
      · rw [stored_delete hr, Sorted.get?_filter_ne, apply_ite Option.isSome]
        rfl

end Effects

/-- The later state is the earlier one with these calls carried out on it. -/
structure Replays (w : MemoryCluster) (texts : List String) (w' : MemoryCluster) : Prop where
  callLog : w'.callLog = w.callLog ++ texts
  rules : w'.rules = w.rules
  pollsOf : ∀ r : Resource, w'.pollsOf r = w.pollsOf r + texts.count ("exists " ++ r.label)
  mem_namespaces : ∀ name, name ∈ w'.namespaces ↔ name ∈ w.namespaces ∨ "create_namespace " ++ name ∈ texts
  isSome_secret : ∀ name, (w'.secrets.get? name).isSome = texts.foldl (stored name) (w.secrets.get? name).isSome
  secretsNamed : w.SecretsNamed → w'.SecretsNamed
  length_applied : w'.applied.length = w.applied.length + w.countApplied texts

namespace Replays

variable {texts texts' : List String}

theorem behaviour_eq {β : Type} {f : Behaviour → β} (hf : ∀ b : Behaviour, f { b with failingOperator := false } = f b)
    (h : Replays w texts w') : f w'.behaviour = f w.behaviour := by
  rw [← hf w'.behaviour, ← hf w.behaviour]
  exact congrArg f h.rules

theorem failingApplies (h : Replays w texts w') : w'.behaviour.failingApplies = w.behaviour.failingApplies :=
  h.behaviour_eq (f := Behaviour.failingApplies) fun _ => rfl

theorem trans (h : Replays w texts w') (h' : Replays w' texts' w'') : Replays w (texts ++ texts') w'' where
  callLog := by rw [h'.callLog, h.callLog, List.append_assoc]
  rules := h'.rules.trans h.rules
  pollsOf r := by rw [h'.pollsOf, h.pollsOf, List.count_append, Nat.add_assoc]
  mem_namespaces name := by rw [h'.mem_namespaces, h.mem_namespaces, List.mem_append, or_assoc]
  isSome_secret name := by rw [h'.isSome_secret, h.isSome_secret, List.foldl_append]
  secretsNamed hw := h'.secretsNamed (h.secretsNamed hw)
  length_applied := by
    have hcount : w'.countApplied texts' = w.countApplied texts' := by
      rw [countApplied, countApplied, h.failingApplies]
    have happend : w.countApplied (texts ++ texts') = w.countApplied texts + w.countApplied texts' := by
      simp only [countApplied, List.countP_append]
      split
      · rfl
      · rfl
    rw [h'.length_applied, h.length_applied, hcount, happend, Nat.add_assoc]

theorem of_eq (hrules : w'.rules = w.rules) (hcalls : w'.calls = w.calls) (hpolls : w'.polls = w.polls)
    (hnamespaces : w'.namespaces = w.namespaces) (hsecrets : w'.secrets = w.secrets)
    (happlied : w'.applied = w.applied) : Replays w [] w' where
  callLog := by rw [MemoryCluster.callLog, hcalls, List.append_nil]; rfl
  rules := hrules
  pollsOf r := by rw [MemoryCluster.pollsOf, hpolls]; rfl
  mem_namespaces name := by simp [hnamespaces]
  isSome_secret name := by rw [hsecrets]; rfl
  secretsNamed h := by rwa [SecretsNamed, hsecrets]
  length_applied := by simp [happlied, countApplied]

theorem refl (w : MemoryCluster) : Replays w [] w := of_eq rfl rfl rfl rfl rfl rfl

theorem withStation (h : Replays w texts w') (station : Workstation) :
    Replays w texts { w' with station := station } := by
  have hstation : Replays w' [] { w' with station := station } := of_eq rfl rfl rfl rfl rfl rfl
  exact List.append_nil texts ▸ h.trans hstation

theorem record_effect (w : MemoryCluster) (c : Call) :
    Replays w [callText c] ((w.record (callText c)).effect c) where
  callLog := by
    rw [MemoryCluster.callLog, calls_effect]
    exact List.reverse_cons
  rules := congrArg (fun b : Behaviour => { b with failingOperator := false }) (behaviour_effect _ c)
  pollsOf := pollsOf_effect _ c
  mem_namespaces := mem_namespaces_effect _ c
  isSome_secret := (secrets_effect_of_text _ c).2
  secretsNamed := (secrets_effect_of_text (w.record (callText c)) c).1
  length_applied := length_applied_effect _ c

theorem answerRender (w : MemoryCluster) (part : Part) : Replays w [] (w.answerRender part).2 := by
  cases part with
  | operator =>
      rw [show w.answerRender .operator = _ from answer_operator w]
      exact of_eq rfl rfl rfl rfl rfl rfl
  | _ => exact of_eq rfl rfl rfl rfl rfl rfl

end Replays

def textsOf : Request → List String
  | .cluster c => [callText c]
  | .poll r _ => [callText (.present r)]
  | _ => []

theorem replays_answer (r : Request) (w : MemoryCluster) : Replays w (textsOf r) (answer r w).2 := by
  cases r with
  | cluster c => exact .record_effect w c
  | poll r limit =>
      -- A query that is given up on leaves what one that is not does, the clock apart.
      let counted := (w.record (callText (.present r))).countPoll r
      exact (Replays.record_effect w (.present r)).withStation
        (counted.station.pass (w.behaviour.existsDelay.shorter limit))
  | render part => exact .answerRender w part
  | record key value => exact .of_eq rfl rfl rfl rfl rfl rfl
  | machine m => exact .of_eq rfl rfl rfl rfl rfl rfl

theorem Replays.prepare (o : Operation) (w : MemoryCluster) : Replays w [] (o.prepare w) := by
  cases o with
  | _ => exact .of_eq rfl rfl rfl rfl rfl rfl

theorem Advances.replays (h : Advances w w') : ∃ texts, Replays w texts w' := by
  cases h with
  | asked r => exact ⟨_, replays_answer r w⟩
  | prepared o => exact ⟨_, .prepare o w⟩

/-- Whatever clients do comes to calls that are carried out on the state before. -/
theorem Reaches.replays (h : Reaches w w') : ∃ texts, Replays w texts w' := by
  induction h with
  | refl => exact ⟨[], .refl w⟩
  | tail _ hstep ih =>
      obtain ⟨texts, htexts⟩ := ih
      obtain ⟨texts', htexts'⟩ := hstep.replays
      exact ⟨texts ++ texts', htexts.trans htexts'⟩

/-- The last call in a log that puts a secret of this name in place or removes it. -/
def lastOn (name : String) (log : List String) : Option String :=
  (log.filter fun text => text == "create_secret " ++ name || text == "delete secret/" ++ name).getLast?

theorem foldl_stored_iff (name : String) (log : List String) :
    log.foldl (stored name) false = true ↔ lastOn name log = some ("create_secret " ++ name) := by
  induction log using List.reverseRecOn with
  | nil => simp [lastOn]
  | append_singleton log text ih =>
      have hne : "delete secret/" ++ name ≠ "create_secret " ++ name := fun h =>
        absurd ((String.append_left_inj name).1 h) (by decide)
      rw [List.foldl_append, List.foldl_cons, List.foldl_nil, lastOn, List.filter_append, stored]
      by_cases hcreate : text = "create_secret " ++ name
      · simp [hcreate]
      by_cases hdelete : text = "delete secret/" ++ name
      · simp [hdelete, hne]
      · have hother : [text].filter (fun text => text == "create_secret " ++ name || text == "delete secret/" ++ name) =
            [] := by
          simp [hcreate, hdelete]
        rw [hother, List.append_nil, if_neg hcreate, if_neg hdelete]
        exact ih

/-- The state is the replay of its log on namespaces that were there from the start. -/
structure IsReplay (namespaces : List String) (w : MemoryCluster) : Prop where
  pollsOf : ∀ r : Resource, w.pollsOf r = w.callLog.count ("exists " ++ r.label)
  namespaces : ∀ name, name ∈ w.namespaces ↔ name ∈ namespaces ∨ "create_namespace " ++ name ∈ w.callLog
  secrets : ∀ name, (w.secrets.get? name).isSome ↔ lastOn name w.callLog = some ("create_secret " ++ name)
  secretsNamed : w.SecretsNamed
  applied : w.applied.length =
    if w.behaviour.failingApplies then 0 else w.callLog.countP fun text => firstWord text == "apply"

theorem Replays.isReplay {behaviour : Behaviour} {disk : Disk} {namespaces texts : List String}
    (h : Replays (start behaviour disk namespaces) texts w) : IsReplay namespaces w := by
  obtain rfl : w.callLog = texts := h.callLog
  constructor
  case pollsOf =>
    intro r
    rw [h.pollsOf]
    exact Nat.zero_add _
  case namespaces => exact h.mem_namespaces
  case secrets =>
    intro name
    rw [h.isSome_secret]
    exact foldl_stored_iff name _
  case secretsNamed => exact h.secretsNamed fun name s hs => nomatch hs
  case applied =>
    rw [h.length_applied, countApplied, h.failingApplies]
    exact Nat.zero_add _

/-- Whatever has been done on a cluster, whose clients may be in the middle of anything, its state is the replay
of its log, and whatever is done next only adds to the end of the log. -/
theorem replay_of_reaches (behaviour : Behaviour) (disk : Disk) (namespaces : List String)
    (h : Reaches (start behaviour disk namespaces) w) :
    IsReplay namespaces w ∧ (∀ w', Reaches w w' → w.callLog <+: w'.callLog) ∧ ∀ ops, Reaches w (w.after ops) := by
  obtain ⟨texts, htexts⟩ := h.replays
  refine ⟨htexts.isReplay, fun w' h' => ?_, reaches_after w⟩
  obtain ⟨news, hnews⟩ := h'.replays
  exact ⟨news, hnews.callLog.symm⟩

def slow : MemoryCluster :=
  start ⟨[], false, Duration.ofSecs 60, [], false, false, false, [], []⟩ (Disk.emptyAt []) ["default"]

def waitedFor : Resource := ⟨.deployment, Stack.instanceName, "default"⟩

def abandoned : MemoryCluster := (answer (.poll waitedFor (Duration.ofSecs 1)) slow).2

theorem abandoned_is_replay :
    Reaches slow abandoned ∧ abandoned.callLog = ["exists " ++ waitedFor.label] ∧ abandoned.pollsOf waitedFor = 1 ∧
      IsReplay ["default"] abandoned := by
  have hreaches : Reaches slow abandoned := .single (.asked _ slow)
  have hreplay : IsReplay ["default"] abandoned := (replay_of_reaches _ _ _ hreaches).1
  have hlog : abandoned.callLog = ["exists " ++ waitedFor.label] := rfl
  refine ⟨hreaches, hlog, ?_, hreplay⟩
  rw [hreplay.pollsOf, hlog, List.count_singleton_self]

end MemoryCluster

end Rehearsal

end Rollout
