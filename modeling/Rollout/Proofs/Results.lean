import Rollout.Proofs.Rehearsal.Disk
import Rollout.Proofs.Text.Entries
import Rollout.Proofs.Transcript
import Rollout.Rehearsal.Workstation
import Rollout.Results

namespace Rollout

namespace Text

variable {cs l : List Char}

/-- The lines of a text, each with a line feed after it. What follows the last line feed is none of them. -/
def endedLines (cs : List Char) : List (List Char) := (cs.splitOn '\n').dropLast

def IsEnded (cs : List Char) : Prop := cs = [] ∨ cs.getLast? = some '\n'

instance (cs : List Char) : Decidable (IsEnded cs) := inferInstanceAs (Decidable (_ ∨ _))

theorem endedLines_append_newline (h : '\n' ∉ l) (r : List Char) :
    endedLines (l ++ '\n' :: r) = l :: endedLines r := by
  rw [endedLines, List.splitOn_append_cons_self_of_not_mem h, List.dropLast_cons_of_ne_nil (List.splitOn_ne_nil _ _),
    endedLines]

theorem endedLines_append (h : IsEnded cs) (r : List Char) : endedLines (cs ++ r) = endedLines cs ++ endedLines r := by
  rcases h with rfl | h
  · rfl
  · obtain ⟨before, rfl⟩ := List.getLast?_eq_some_iff.1 h
    rw [List.append_assoc, List.singleton_append, endedLines, endedLines, endedLines, List.splitOn_append_cons_self,
      List.splitOn_append_cons_self, List.dropLast_append_of_ne_nil (List.splitOn_ne_nil _ _),
      List.dropLast_append_of_ne_nil (List.splitOn_ne_nil _ _)]
    simp

theorem IsEnded.append_newline {r : List Char} (h : IsEnded r) (l : List Char) : IsEnded (l ++ '\n' :: r) := by
  refine .inr ?_
  rcases h with rfl | h
  · simp
  · simp [List.getLast?_append, List.getLast?_cons, h]

end Text

open Text

namespace Ledger

variable {l l' : Ledger} {key value text prior after : String}

/-- What a line says. The name is all that stands before the first equals sign. -/
def assigned? (line : List Char) : Option (String × String) :=
  (cutAt? '=' line).map fun cut => (String.ofList cut.1, String.ofList cut.2)

def ofText (text : String) : Ledger := (endedLines text.toList).filterMap assigned?

/-- The text is the ledger, entry by entry and line by line. -/
structure Written (l : Ledger) (text : String) : Prop where
  ended : IsEnded text.toList
  lines : (endedLines text.toList).map assigned? = l.map some

/-- The text of a file before the entries were recorded and after that. -/
structure Agrees (l : Ledger) (prior after : String) : Prop where
  added : ∃ text, after = prior ++ text ∧ l.Written text
  kept : endedLines prior.toList <+: endedLines after.toList
  latest : ∀ key ∈ l.map Prod.fst, (ofText after).get? key = l.get? key
  earlier : ∀ key ∉ l.map Prod.fst, (ofText after).get? key = (ofText prior).get? key

/-- An entry that is read off its line. -/
structure IsEntry (e : String × String) : Prop where
  no_equals : '=' ∉ e.1.toList
  key_no_newline : '\n' ∉ e.1.toList
  value_no_newline : '\n' ∉ e.2.toList

instance (e : String × String) : Decidable (IsEntry e) :=
  decidable_of_iff ('=' ∉ e.1.toList ∧ '\n' ∉ e.1.toList ∧ '\n' ∉ e.2.toList)
    ⟨fun ⟨h₁, h₂, h₃⟩ => ⟨h₁, h₂, h₃⟩, fun h => ⟨h.1, h.2, h.3⟩⟩

theorem toList_line (key value : String) :
    (ResultsPlace.line key value).toList = (key.toList ++ '=' :: value.toList) ++ ['\n'] := by
  have hequals : "=".toList = ['='] := rfl
  have hnewline : "\n".toList = ['\n'] := rfl
  rw [ResultsPlace.line, String.toList_append, String.toList_append, String.toList_append, hequals, hnewline,
    List.append_assoc key.toList, List.singleton_append]

theorem assigned?_append (h : '=' ∉ key.toList) : assigned? (key.toList ++ '=' :: value.toList) = some (key, value) := by
  rw [assigned?, cutAt?_append h, Option.map_some, String.ofList_toList, String.ofList_toList]

theorem written_nil : Written [] "" := ⟨.inl rfl, rfl⟩

theorem Written.cons {e : String × String} (he : IsEntry e) (h : l.Written text) :
    Written (e :: l) (ResultsPlace.line e.1 e.2 ++ text) := by
  have htext : (ResultsPlace.line e.1 e.2 ++ text).toList = (e.1.toList ++ '=' :: e.2.toList) ++ '\n' :: text.toList := by
    rw [String.toList_append, toList_line, List.append_assoc _ ['\n'], List.singleton_append]
  have hline : '\n' ∉ e.1.toList ++ '=' :: e.2.toList := by
    simp [he.key_no_newline, he.value_no_newline]
  constructor
  case ended =>
    rw [htext]
    exact h.ended.append_newline _
  case lines =>
    rw [htext, endedLines_append_newline hline, List.map_cons, List.map_cons, assigned?_append he.no_equals, h.lines]

theorem Written.ofText_eq (h : l.Written text) : ofText text = l := by
  have hmap : (endedLines text.toList).filterMap assigned? = ((endedLines text.toList).map assigned?).filterMap id := by
    rw [List.filterMap_map]
    rfl
  rw [ofText, hmap, h.lines, List.filterMap_map]
  exact List.filterMap_some

theorem ofText_append (h : IsEnded prior.toList) (text : String) :
    ofText (prior ++ text) = ofText prior ++ ofText text := by
  rw [ofText, String.toList_append, endedLines_append h, List.filterMap_append]
  rfl

theorem get?_append_of_mem (h : key ∈ l'.map Prod.fst) : get? (l ++ l') key = get? l' key := by
  obtain ⟨e, he, rfl⟩ := List.mem_map.1 h
  have hfound : (l'.reverse.find? fun e' => e'.1 == e.1).isSome = true :=
    List.find?_isSome.2 ⟨e, List.mem_reverse.2 he, by simp⟩
  rw [get?, List.reverse_append, List.find?_append, Option.or_of_isSome hfound, get?]

theorem get?_append_of_not_mem (h : key ∉ l'.map Prod.fst) : get? (l ++ l') key = get? l key := by
  have hnone : l'.reverse.find? (fun e => e.1 == key) = none := by
    refine List.find?_eq_none.2 fun e he hkey => h ?_
    rw [← eq_of_beq hkey]
    exact List.mem_map_of_mem (List.mem_reverse.1 he)
  rw [get?, List.reverse_append, List.find?_append, hnone, Option.none_or, get?]

theorem Written.agrees (h : l.Written text) (hprior : IsEnded prior.toList) : l.Agrees prior (prior ++ text) where
  added := ⟨text, rfl, h⟩
  kept := by
    rw [String.toList_append, endedLines_append hprior]
    exact List.prefix_append _ _
  latest key hkey := by rw [ofText_append hprior, h.ofText_eq, get?_append_of_mem hkey]
  earlier key hkey := by rw [ofText_append hprior, h.ofText_eq, get?_append_of_not_mem hkey]

def recordAll (l : Ledger) (calls : List (String × String)) : Ledger := calls.foldl (fun l e => l.record e.1 e.2) l

theorem recordAll_eq (l : Ledger) (calls : List (String × String)) : l.recordAll calls = l ++ calls := by
  induction calls generalizing l with
  | nil => simp [recordAll]
  | cons e calls ih =>
      have hstep : l.recordAll (e :: calls) = (l.record e.1 e.2).recordAll calls := rfl
      rw [hstep, ih, record, List.append_assoc, List.singleton_append]

end Ledger

namespace ResultsPlace

open Program Rehearsal

variable {I : Interface} [HasMachine I] {w : Workstation} {path : String} {calls : List (String × String)}

def recordAll (place : ResultsPlace) : List (String × String) → Program I (List (Except Failure Unit))
  | [] => return []
  | e :: calls => do
    let r ← place.record e.1 e.2
    let rs ← place.recordAll calls
    return r :: rs

theorem run_record_file (h : w.disk.Opens path) (key value : String) :
    ∃ d, ((file path).record key value : Program Machine.interface (Except Failure Unit)).run Workstation.answer w =
      (.ok (), { w with disk := d }) ∧ d.Opens path ∧ d.content path = w.disk.content path ++ line key value := by
  obtain ⟨d, happend, hopens, hcontent⟩ := h.append (line key value)
  have hanswer : Workstation.answer (.append path (line key value)) w = (.ok (), { w with disk := d }) := by
    rw [Workstation.answer, happend, Workstation.change]
  have hrun : (Machine.append path (line key value) : Program Machine.interface (Except IoCause Unit)).run
      Workstation.answer w = (.ok (), { w with disk := d }) := hanswer
  refine ⟨d, ?_, hopens, hcontent⟩
  rw [record, run_seq, hrun]
  rfl

/-- While the file can be opened every entry is recorded, and their lines come after what was there. -/
theorem run_recordAll_file (h : w.disk.Opens path) (hcalls : ∀ e ∈ calls, Ledger.IsEntry e) :
    let ran := ((file path).recordAll calls : Program Machine.interface (List (Except Failure Unit))).run
      Workstation.answer w
    ran.1 = calls.map (fun _ => .ok ()) ∧
      ∃ text, ran.2.disk.content path = w.disk.content path ++ text ∧ Ledger.Written calls text := by
  induction calls generalizing w with
  | nil => exact ⟨rfl, "", String.append_empty.symm, Ledger.written_nil⟩
  | cons e calls ih =>
      obtain ⟨he, hcalls⟩ := List.forall_mem_cons.1 hcalls
      obtain ⟨d, hrun, hopens, hcontent⟩ := run_record_file h e.1 e.2
      obtain ⟨hrest, text, htext, hwritten⟩ := ih (w := { w with disk := d }) hopens hcalls
      rw [recordAll, run_seq, hrun, run_seq]
      refine ⟨congrArg _ hrest, line e.1 e.2 ++ text, ?_, hwritten.cons he⟩
      rw [← String.append_assoc, ← hcontent]
      exact htext

/-- A file, if it can be opened, and a ledger in memory come to the same entries, and none that were in the file
before are lost. -/
theorem file_agrees_with_ledger {w : Workstation} {path : String} (hopens : w.disk.Opens path)
    (hprior : IsEnded (w.disk.content path).toList) {calls : List (String × String)}
    (hcalls : ∀ e ∈ calls, Ledger.IsEntry e) :
    let ran := ((file path).recordAll calls : Program Machine.interface (List (Except Failure Unit))).run
      Workstation.answer w
    let ledger := Ledger.recordAll [] calls
    ran.1 = calls.map (fun _ => .ok ()) ∧ ledger = calls ∧
      ledger.Agrees (w.disk.content path) (ran.2.disk.content path) := by
  intro ran ledger
  obtain ⟨hran, text, htext, hwritten⟩ := run_recordAll_file hopens hcalls
  have hledger : ledger = calls := Ledger.recordAll_eq [] calls
  refine ⟨hran, hledger, ?_⟩
  have hafter : ran.2.disk.content path = w.disk.content path ++ text := htext
  rw [hledger, hafter]
  exact hwritten.agrees hprior

def noted : Workstation :=
  .start ⟨[(["out"], .folder), (["out", "results"], .file "url=old\n# note\nrun=7\n")], []⟩

/-- A file that assigns one of the keys before, and is assigned that key twice. -/
theorem output_file_agrees_with_ledger :
    let calls := [("url", "http://a?x=1"), ("note", ""), ("url", "b=\r")]
    let ran := ((file "out/results").recordAll calls : Program Machine.interface (List (Except Failure Unit))).run
      Workstation.answer noted
    (noted.disk.Opens "out/results" ∧ IsEnded (noted.disk.content "out/results").toList ∧
      ∀ e ∈ calls, Ledger.IsEntry e) ∧
      (Ledger.recordAll [] calls).Agrees (noted.disk.content "out/results") (ran.2.disk.content "out/results") ∧
      ran.2.disk.content "out/results" = "url=old\n# note\nrun=7\nurl=http://a?x=1\nnote=\nurl=b=\r\n" ∧
      (Ledger.recordAll [] calls).get? "url" = some "b=\r" :=
  have hopens : noted.disk.Opens "out/results" := Disk.opens_of_isOk (by decide +kernel)
  have hprior : IsEnded (noted.disk.content "out/results").toList := by decide +kernel
  have hcalls : ∀ e ∈ [("url", "http://a?x=1"), ("note", ""), ("url", "b=\r")], Ledger.IsEntry e := by
    decide +kernel
  ⟨⟨hopens, hprior, hcalls⟩, (file_agrees_with_ledger hopens hprior hcalls).2.2, by decide +kernel, by decide +kernel⟩

end ResultsPlace

end Rollout
