import Rollout.Rehearsal.MemoryCluster

namespace Rollout

open Cluster

theorem Cluster.Resource.label_eq_iff {r r' : Resource} :
    r.label = r'.label ↔ r.kind = r'.kind ∧ r.name = r'.name := by
  have hkind (r : Resource) : r.label.toList.takeWhile (· != '/') = r.kind.text.toList := by
    have hslash : "/".toList = ['/'] := rfl
    have hplain : ∀ c ∈ r.kind.text.toList, (c != '/') = true := by
      cases r.kind with
      | _ => simp [Kind.text]
    rw [label, String.toList_append, String.toList_append, hslash, List.append_assoc,
      List.takeWhile_append_of_pos hplain]
    simp
  constructor
  · intro h
    have htext : r.kind.text = r'.kind.text := by
      rw [← String.toList_inj, ← hkind, ← hkind, h]
    refine ⟨Kind.text_injective htext, ?_⟩
    rw [label, label, htext] at h
    exact (String.append_right_inj _).1 h
  · rintro ⟨hk, hn⟩
    rw [label, label, hk, hn]

namespace Rehearsal.MemoryCluster

def firstWord (text : String) : String := String.ofList (text.toList.takeWhile (· != ' '))

def word : Call → String
  | .apply .. => "apply"
  | .namespaceExists _ => "namespace_exists"
  | .createNamespace _ => "create_namespace"
  | .createSecret _ => "create_secret"
  | .delete _ => "delete"
  | .present _ => "exists"
  | .describe _ => "describe"
  | .get .. => "get"
  | .await .. => "wait"
  | .pods .. => "pods"
  | .podPhase .. => "phase"
  | .podAddress .. => "pod_ip"
  | .podLogs .. => "logs"
  | .events .. => "events"
  | .podTable _ => "list_pods"
  | .probe _ => "run_probe"

theorem firstWord_append (word rest : String) (h : word.toList.all (· != ' ') = true) :
    firstWord (word ++ " " ++ rest) = word := by
  have hspace : " ".toList = [' '] := rfl
  rw [firstWord, String.toList_append, String.toList_append, hspace, List.append_assoc,
    List.takeWhile_append_of_pos (List.all_eq_true.1 h)]
  simp

theorem exists_callText_eq (c : Call) : ∃ rest, callText c = word c ++ " " ++ rest := by
  have hsplit (a b c : String) : a ++ b ++ " " ++ c = a ++ (b ++ " " ++ c) := by simp only [String.append_assoc]
  cases c with
  | get r f => exact ⟨_, hsplit "get " r.label f.text⟩
  | await r c limit => exact ⟨_, hsplit "wait " r.label c.text⟩
  | podLogs pod ns tail => exact ⟨_, hsplit "logs " pod (toString tail)⟩
  | probe p =>
      have himage := congrArg (· ++ " " ++ " ".intercalate p.words) (hsplit "run_probe " p.name p.image)
      exact ⟨_, himage.trans (hsplit "run_probe " _ _)⟩
  | _ => exact ⟨_, rfl⟩

theorem firstWord_callText (c : Call) : firstWord (callText c) = word c := by
  have hplain : (word c).toList.all (· != ' ') = true := by
    cases c with
    | _ => simp [word]
  obtain ⟨rest, hrest⟩ := exists_callText_eq c
  rw [hrest]
  exact firstWord_append (word c) rest hplain

theorem word_eq_of_callText_eq {c d : Call} (h : callText c = callText d) : word c = word d := by
  rw [← firstWord_callText, h, firstWord_callText]

section

variable {c : Call} {name : String}

theorem firstWord_callText_eq_apply_iff :
    firstWord (callText c) = "apply" ↔ ∃ manifest ns, c = .apply manifest ns := by
  rw [firstWord_callText]
  constructor
  · intro h
    cases c with
    | apply manifest ns => exact ⟨manifest, ns, rfl⟩
    | _ => simp [word] at h
  · rintro ⟨manifest, ns, rfl⟩
    rfl

theorem callText_eq_createNamespace_iff :
    callText c = "create_namespace " ++ name ↔ c = .createNamespace name := by
  refine ⟨fun h => ?_, congrArg callText⟩
  have hword := word_eq_of_callText_eq (d := .createNamespace name) h
  cases c with
  | createNamespace n => rw [(String.append_right_inj _).1 h]
  | _ => simp [word] at hword

theorem callText_eq_createSecret_iff :
    callText c = "create_secret " ++ name ↔ ∃ s : Secret, c = .createSecret s ∧ s.name = name := by
  constructor
  · intro h
    have hword := word_eq_of_callText_eq (d := .createSecret ⟨name, "", []⟩) h
    cases c with
    | createSecret s => exact ⟨s, rfl, (String.append_right_inj _).1 h⟩
    | _ => simp [word] at hword
  · rintro ⟨s, rfl, rfl⟩
    rfl

theorem callText_eq_delete_secret_iff :
    callText c = "delete secret/" ++ name ↔ ∃ ns, c = .delete ⟨.secret, name, ns⟩ := by
  have htext (ns : String) : callText (.delete ⟨.secret, name, ns⟩) = "delete secret/" ++ name := by
    have hdelete : "delete secret/" = "delete " ++ ("secret" ++ "/") := rfl
    rw [hdelete, String.append_assoc]
    rfl
  constructor
  · intro h
    rw [← htext ""] at h
    have hword := word_eq_of_callText_eq h
    cases c with
    | delete r =>
        obtain ⟨hkind, hname⟩ := Resource.label_eq_iff.1 ((String.append_right_inj _).1 h)
        obtain ⟨kind, n, ns⟩ := r
        cases hkind
        cases hname
        exact ⟨ns, rfl⟩
    | _ => simp [word] at hword
  · rintro ⟨ns, rfl⟩
    exact htext ns

theorem callText_eq_present_iff {r : Resource} :
    callText c = "exists " ++ r.label ↔ ∃ r' : Resource, c = .present r' ∧ r'.label = r.label := by
  constructor
  · intro h
    have hword := word_eq_of_callText_eq (d := .present r) h
    cases c with
    | present r' => exact ⟨r', rfl, (String.append_right_inj _).1 h⟩
    | _ => simp [word] at hword
  · rintro ⟨r', rfl, h⟩
    exact congrArg ("exists " ++ ·) h

end

end Rehearsal.MemoryCluster

end Rollout
