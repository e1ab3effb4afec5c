import Rollout.Rehearsal.Disk

namespace Rollout.Rehearsal.Disk

/-- A step that names an entry. -/
structure IsName (s : String) : Prop where
  not_dots : isDots s = false
  size : s.utf8ByteSize ≤ nameLimit

/-- Steps that lead somewhere from a folder, with no more than so many links on the way. -/
inductive Leads (d : Disk) : Nat → Bool → List String → List String → Lead → Prop
  | stop (m : Nat) (slash : Bool) (place : List String) : Leads d m slash place [] (.folder place)
  | here {m : Nat} {slash : Bool} {place ss : List String} {l : Lead} (h : Leads d m slash place ss l) :
      Leads d m slash place ("." :: ss) l
  | up {m : Nat} {slash : Bool} {place ss : List String} {l : Lead} (h : Leads d m slash place.dropLast ss l) :
      Leads d m slash place (".." :: ss) l
  | down {m : Nat} {slash : Bool} {place ss : List String} {s : String} {l : Lead} (hs : IsName s)
      (hnode : d.node? (place ++ [s]) = some .folder) (h : Leads d m slash (place ++ [s]) ss l) :
      Leads d m slash place (s :: ss) l
  | through {m : Nat} {slash : Bool} {place ss : List String} {s : String} {l : Lead} (target : String) (hs : IsName s)
      (hnode : d.node? (place ++ [s]) = some (.link target))
      (h : Leads d m (slash || ss.isEmpty && Path.endsInSlash target) (if Path.isAbsolute target then [] else place)
        (Path.steps target ++ ss) l) : Leads d (m + 1) slash place (s :: ss) l
  | file {place : List String} {s : String} {text? : Option String} (m : Nat) (slash : Bool) (hs : IsName s)
      (hnode : d.node? (place ++ [s]) = text?.map .file) :
      Leads d m slash place [s] (.file (place ++ [s]) text? slash)

variable {d d' : Disk} {place q x start steps ss : List String} {s : String} {n : Node} {m k : Nat} {slash b : Bool}
  {l l' : Lead} {text? : Option String}

theorem node?_erase_of_ne (d : Disk) (h : x ≠ q) : (d.erase q).node? x = d.node? x := by
  rw [node?, node?, erase, List.find?_filter]
  refine ite_congr rfl (fun _ => rfl) fun _ => congrArg (Option.map _) ?_
  refine congrFun (congrArg List.find? (funext fun e => ?_)) d.entries
  by_cases hx : e.1 = x
  · simp [hx, h]
  · simp [hx]

theorem node?_erase_self (d : Disk) (h : q ≠ []) : (d.erase q).node? q = none := by
  rw [node?, if_neg (by simpa using h), erase, List.find?_filter]
  simp

theorem node?_of_erase (h : (d.erase q).node? x = some n) : d.node? x = some n := by
  by_cases hx : x = q
  · subst hx
    by_cases hnil : x = []
    · subst hnil
      exact h
    · rw [node?_erase_self d hnil] at h
      cases h
  · rwa [node?_erase_of_ne d hx] at h

theorem node?_put_of_ne (d : Disk) (n : Node) (h : x ≠ q) : (d.put q n).node? x = d.node? x := by
  have hx : (q == x) = false := by simpa using Ne.symm h
  rw [put]
  split
  · rw [node?, node?]
    refine ite_congr rfl (fun _ => rfl) fun _ => ?_
    induction d.entries with
    | nil => rfl
    | cons e es ih =>
        rw [List.map_cons, List.find?_cons, List.find?_cons]
        by_cases he : e.1 = q
        · rw [if_pos (by simpa using he), hx, he, hx]
          exact ih
        · rw [if_neg (by simpa using he)]
          split
          · rfl
          · exact ih
  · rw [node?, node?, List.find?_append]
    refine ite_congr rfl (fun _ => rfl) fun _ => congrArg (Option.map _) ?_
    simp [hx]

theorem node?_put_self (d : Disk) (n : Node) (h : q ≠ []) : (d.put q n).node? q = some n := by
  rw [put]
  split
  case isTrue hany =>
    have hsame : ((fun e => e.1 == q) ∘ fun e : List String × Node => if e.1 == q then (q, n) else e) =
        fun e => e.1 == q := by
      funext e
      by_cases he : e.1 = q
      · simp [he]
      · simp [he]
    obtain ⟨e, he⟩ : ∃ e, d.entries.find? (fun e => e.1 == q) = some e :=
      Option.isSome_iff_exists.1 (List.find?_isSome.2 (List.any_eq_true.1 hany))
    rw [node?, if_neg (by simpa using h), List.find?_map, hsame, he, Option.map_some, Option.map_some,
      if_pos (List.find?_some he)]
  case isFalse hany =>
    have hnew : d.entries.find? (fun e => e.1 == q) = none :=
      List.find?_eq_none.2 fun e he heq => hany (List.any_eq_true.2 ⟨e, he, heq⟩)
    rw [node?, if_neg (by simpa using h), List.find?_append, hnew]
    simp

theorem here_put (d : Disk) (place : List String) (n : Node) : (d.put place n).here = d.here := by
  rw [put]
  split
  · rfl
  · rfl

theorem IsName.ne_dot (hs : IsName s) : s ≠ "." := by
  rintro rfl
  exact Bool.noConfusion hs.not_dots

theorem IsName.ne_dots (hs : IsName s) : s ≠ ".." := by
  rintro rfl
  exact Bool.noConfusion hs.not_dots

theorem entry_eq_ok_iff {m : Option Node} :
    d.entry place s = .ok m ↔ s.utf8ByteSize ≤ nameLimit ∧ d.node? (place ++ [s]) = m := by
  by_cases h : nameLimit < s.utf8ByteSize <;> simp [entry, h, Nat.not_le.2, Nat.le_of_not_lt]

theorem leads_of_leadWith {follow : Bool → List String → List String → Except IoCause Lead}
    (hfollow : ∀ slash start steps l, follow slash start steps = .ok l →
      ∃ k, m = k + 1 ∧ Leads d k slash start steps l)
    (h : d.leadWith follow slash place steps = .ok l) : Leads d m slash place steps l := by
  induction steps generalizing place with
  | nil =>
      obtain rfl := Except.ok.inj h
      exact .stop ..
  | cons s ss ih =>
      rw [leadWith] at h
      split at h
      case isTrue hs => exact hs ▸ .here (ih h)
      case isFalse hdot =>
        split at h
        case isTrue hs => exact hs ▸ .up (ih h)
        case isFalse hdots =>
          have hname : isDots s = false := by simp [isDots, hdot, hdots]
          split at h
          case h_1 => cases h
          case h_2 hentry =>
            obtain ⟨hsize, hnode⟩ := entry_eq_ok_iff.1 hentry
            exact .down ⟨hname, hsize⟩ hnode (ih h)
          case h_3 target hentry =>
            obtain ⟨hsize, hnode⟩ := entry_eq_ok_iff.1 hentry
            obtain ⟨k, rfl, hrest⟩ := hfollow _ _ _ _ h
            exact .through target ⟨hname, hsize⟩ hnode hrest
          case h_4 text hentry =>
            obtain ⟨hsize, hnode⟩ := entry_eq_ok_iff.1 hentry
            cases ss with
            | nil =>
                obtain rfl := Except.ok.inj h
                exact .file _ _ ⟨hname, hsize⟩ hnode
            | cons s' ss => cases h
          case h_5 hentry =>
            obtain ⟨hsize, hnode⟩ := entry_eq_ok_iff.1 hentry
            cases ss with
            | nil =>
                obtain rfl := Except.ok.inj h
                exact .file _ _ ⟨hname, hsize⟩ hnode
            | cons s' ss => cases h

def followed (d : Disk) : Nat → Bool → List String → List String → Except IoCause Lead
  | 0, _, _, _ => .error (.other "Too many levels of symbolic links (os error 40)")
  | m + 1, slash, start, steps => d.lead m slash start steps

theorem lead_eq (d : Disk) (m : Nat) : d.lead m = d.leadWith (d.followed m) := by
  cases m with
  | zero => rfl
  | succ m => rfl

theorem lead_of_name (hs : IsName s) {n? : Option Node} (hnode : d.node? (place ++ [s]) = n?) :
    d.lead m slash place (s :: ss) = match n? with
      | some .folder => d.lead m slash (place ++ [s]) ss
      | some (.link target) => d.followed m (slash || ss.isEmpty && Path.endsInSlash target)
          (if Path.isAbsolute target then [] else place) (Path.steps target ++ ss)
      | some (.file text) =>
        if ss.isEmpty then .ok (.file (place ++ [s]) (some text) slash) else .error .notDirectory
      | none => if ss.isEmpty then .ok (.file (place ++ [s]) none slash) else .error .notFound := by
  rw [lead_eq, leadWith, if_neg hs.ne_dot, if_neg hs.ne_dots, entry_eq_ok_iff.2 ⟨hs.size, hnode⟩]
  rcases n? with _ | _ | _ | _
  · rfl
  · rfl
  · rfl
  · rfl

theorem Leads.lead_eq (h : Leads d m slash place steps l) : d.lead m slash place steps = .ok l := by
  induction h with
  | stop => rw [Disk.lead_eq]; rfl
  | here h ih => rwa [Disk.lead_eq] at ih ⊢
  | up h ih => rwa [Disk.lead_eq] at ih ⊢
  | down hs hnode h ih => rwa [lead_of_name hs hnode]
  | through target hs hnode h ih => rwa [lead_of_name hs hnode]
  | @file place s text? m slash hs hnode =>
      rw [lead_of_name hs hnode]
      cases text? with
      | none => rfl
      | some text => rfl

theorem lead_eq_ok_iff : d.lead m slash place steps = .ok l ↔ Leads d m slash place steps l := by
  refine ⟨fun h => ?_, Leads.lead_eq⟩
  induction m generalizing slash place steps l with
  | zero => exact leads_of_leadWith (fun _ _ _ _ h => by cases h) h
  | succ m ih => exact leads_of_leadWith (fun _ _ _ _ h => ⟨m, rfl, ih h⟩) h

namespace Leads

theorem unique (h : Leads d m slash place steps l) (h' : Leads d m slash place steps l') : l = l' :=
  Except.ok.inj (h.lead_eq.symm.trans h'.lead_eq)

theorem node? {q : List String} (h : Leads d m slash place steps (.file q text? b)) : d.node? q = text?.map .file := by
  generalize hl : Lead.file q text? b = l at h
  induction h with
  | stop => cases hl
  | here h ih => exact ih hl
  | up h ih => exact ih hl
  | down hs hnode h ih => exact ih hl
  | through target hs hnode h ih => exact ih hl
  | file m slash hs hnode =>
      cases hl
      exact hnode

theorem asFolder (h : Leads d m slash place steps (.file q text? b)) (hslash : slash = true) : b = true := by
  generalize hl : Lead.file q text? b = l at h
  induction h with
  | stop => cases hl
  | here h ih => exact ih hslash hl
  | up h ih => exact ih hslash hl
  | down hs hnode h ih => exact ih hslash hl
  | through target hs hnode h ih => exact ih (by rw [hslash, Bool.true_or]) hl
  | file m slash hs hnode =>
      cases hl
      exact hslash

theorem slash_irrel (h : Leads d m slash place steps (.folder q)) (b : Bool) :
    Leads d m b place steps (.folder q) := by
  generalize hl : Lead.folder q = l at h
  induction h generalizing b with
  | stop => exact .stop ..
  | here h ih => exact .here (ih b hl)
  | up h ih => exact .up (ih b hl)
  | down hs hnode h ih => exact .down hs hnode (ih b hl)
  | through target hs hnode h ih => exact .through target hs hnode (ih _ hl)
  | file m slash hs hnode => cases hl

theorem split (h : Leads d m slash place steps l) (hsteps : steps = ss ++ start) (hne : start ≠ []) :
    ∃ folder k, Leads d m false place ss (.folder folder) ∧ Leads d k slash folder start l := by
  induction h generalizing ss with
  | stop => exact absurd (List.append_eq_nil_iff.1 hsteps.symm).2 hne
  | @here m slash place rest l h ih =>
      cases ss with
      | nil => exact ⟨place, m, (.stop ..), (show _ = start from hsteps) ▸ .here h⟩
      | cons s ss =>
          obtain ⟨rfl, hrest⟩ := List.cons.inj hsteps
          obtain ⟨folder, k, hss, hstart⟩ := ih hrest
          exact ⟨folder, k, .here hss, hstart⟩
  | @up m slash place rest l h ih =>
      cases ss with
      | nil => exact ⟨place, m, (.stop ..), (show _ = start from hsteps) ▸ .up h⟩
      | cons s ss =>
          obtain ⟨rfl, hrest⟩ := List.cons.inj hsteps
          obtain ⟨folder, k, hss, hstart⟩ := ih hrest
          exact ⟨folder, k, .up hss, hstart⟩
  | @down m slash place rest s l hs hnode h ih =>
      cases ss with
      | nil => exact ⟨place, m, (.stop ..), (show _ = start from hsteps) ▸ .down hs hnode h⟩
      | cons s ss =>
          obtain ⟨rfl, hrest⟩ := List.cons.inj hsteps
          obtain ⟨folder, k, hss, hstart⟩ := ih hrest
          exact ⟨folder, k, .down hs hnode hss, hstart⟩
  | @through m slash place rest s l target hs hnode h ih =>
      cases ss with
      | nil => exact ⟨place, m + 1, (.stop ..), (show _ = start from hsteps) ▸ .through target hs hnode h⟩
      | cons s ss =>
          obtain ⟨rfl, rfl⟩ := List.cons.inj hsteps
          obtain ⟨folder, k, hss, hstart⟩ := ih (List.append_assoc ..).symm
          have hslash : (slash || (ss ++ start).isEmpty && Path.endsInSlash target) = slash := by simp [hne]
          exact ⟨folder, k, .through target hs hnode (hss.slash_irrel _), hslash ▸ hstart⟩
  | @file place s text? m slash hs hnode =>
      cases ss with
      | nil => exact ⟨place, m, (.stop ..), (show _ = start from hsteps) ▸ .file m slash hs hnode⟩
      | cons s ss => exact absurd (List.append_eq_nil_iff.1 (List.cons.inj hsteps).2.symm).2 hne

theorem here_iff : Leads d m slash place ("." :: ss) l ↔ Leads d m slash place ss l := by
  rw [← lead_eq_ok_iff, ← lead_eq_ok_iff, Disk.lead_eq, leadWith, if_pos rfl]

theorem up_iff : Leads d m slash place (".." :: ss) l ↔ Leads d m slash place.dropLast ss l := by
  rw [← lead_eq_ok_iff, ← lead_eq_ok_iff, Disk.lead_eq, leadWith, if_neg (by decide), if_pos rfl]

theorem of_folder (hs : IsName s) (hnode : d.node? (place ++ [s]) = some .folder)
    (h : Leads d m slash place (s :: ss) l) : Leads d m slash (place ++ [s]) ss l := by
  rwa [← lead_eq_ok_iff, lead_of_name hs hnode, lead_eq_ok_iff] at h

theorem of_link {target : String} (hs : IsName s) (hnode : d.node? (place ++ [s]) = some (.link target))
    (h : Leads d (m + 1) slash place (s :: ss) l) :
    Leads d m (slash || ss.isEmpty && Path.endsInSlash target) (if Path.isAbsolute target then [] else place)
      (Path.steps target ++ ss) l := by
  rw [← lead_eq_ok_iff, lead_of_name hs hnode] at h
  exact lead_eq_ok_iff.1 h

theorem eq_of_none (hs : IsName s) (hnode : d.node? (place ++ [s]) = none) (h : Leads d m slash place (s :: ss) l) :
    l = .file (place ++ [s]) none slash := by
  rw [← lead_eq_ok_iff, lead_of_name hs hnode] at h
  dsimp only at h
  split at h
  · exact (Except.ok.inj h).symm
  · cases h

end Leads

def Found.lead : Found → Lead
  | .folder place => .folder place
  | .file place text => .file place (some text) false

/-- Every folder and every link is there in the other disk as well. -/
structure KeepsWays (d d' : Disk) : Prop where
  here : d'.here = d.here
  node? : ∀ x n, d.node? x = some n → (∀ text, n ≠ .file text) → d'.node? x = some n

/-- Everything that is there is there in the other disk as well. -/
structure Below (d d' : Disk) : Prop where
  here : d'.here = d.here
  node? : ∀ x n, d.node? x = some n → d'.node? x = some n

theorem Below.refl (d : Disk) : Below d d := ⟨rfl, fun _ _ h => h⟩

theorem below_erase (d : Disk) (q : List String) : Below (d.erase q) d := ⟨rfl, fun _ _ => node?_of_erase⟩

theorem Below.keepsWays (h : Below d d') : KeepsWays d d' := ⟨h.here, fun x n hx _ => h.node? x n hx⟩

namespace Leads

theorem folder_of_keepsWays (hk : KeepsWays d d') (h : Leads d m slash place steps (.folder q)) :
    Leads d' m slash place steps (.folder q) := by
  generalize hl : Lead.folder q = l at h
  induction h with
  | stop m slash place =>
      cases hl
      exact .stop ..
  | here h ih => exact .here (ih hl)
  | up h ih => exact .up (ih hl)
  | down hs hnode h ih => exact .down hs (hk.node? _ _ hnode nofun) (ih hl)
  | through target hs hnode h ih => exact .through target hs (hk.node? _ _ hnode nofun) (ih hl)
  | file m slash hs hnode => cases hl

theorem file_of_keepsWays (hk : KeepsWays d d') (h : Leads d m slash place steps (.file q text? b))
    {new? : Option String} (hq : d'.node? q = new?.map .file) : Leads d' m slash place steps (.file q new? b) := by
  generalize hl : Lead.file q text? b = l at h
  induction h with
  | stop => cases hl
  | here h ih => exact .here (ih hl)
  | up h ih => exact .up (ih hl)
  | down hs hnode h ih => exact .down hs (hk.node? _ _ hnode nofun) (ih hl)
  | through target hs hnode h ih => exact .through target hs (hk.node? _ _ hnode nofun) (ih hl)
  | file m slash hs hnode =>
      cases hl
      exact .file m b hs hq

theorem eq_of_file {text : String} (hs : IsName s) (hnode : d.node? (place ++ [s]) = some (.file text))
    (h : Leads d m slash place [s] l) : l = .file (place ++ [s]) (some text) slash :=
  h.unique (.file m slash hs hnode)

theorem isName_of_file (h : Leads d m slash place [s] (.file q text? b)) : IsName s := by
  cases h with
  | here h => cases h
  | up h => cases h
  | down hs => exact hs
  | through target hs => exact hs
  | file m slash hs => exact hs

theorem not_found (hs : IsName s) (hnode : d.node? (place ++ [s]) = none) {f : Found} :
    ¬Leads d m slash place (s :: ss) f.lead := by
  intro h
  have hnone := h.eq_of_none hs hnode
  cases f with
  | folder q => cases hnone
  | file q text => cases hnone

theorem mono (hle : Below d d') {f : Found} (h : Leads d m slash place steps f.lead) :
    Leads d' m slash place steps f.lead := by
  cases f with
  | folder q => exact h.folder_of_keepsWays hle.keepsWays
  | file q text => exact h.file_of_keepsWays hle.keepsWays (hle.node? _ _ h.node?)

/-- Where files and links are gone, steps lead where they did, or there is one among them without which they lead
nowhere: a link on the way, or the file at its end. -/
theorem stays_or_breaks (hle : Below d' d) (hfolder : ∀ x, d.node? x = some .folder → d'.node? x = some .folder)
    {f : Found} (h : Leads d m slash place steps f.lead) :
    Leads d' m slash place steps f.lead ∨ ∃ q n, d.node? q = some n ∧ d'.node? q = none ∧
      ((∃ target, n = .link target) ∨ ∃ text, f = .file q text) ∧ ∀ f', ¬Leads (d.erase q) m slash place steps (Found.lead f') := by
  generalize hl : f.lead = l at h
  induction h with
  | stop m slash place => exact .inl (.stop ..)
  | here h ih =>
      refine (ih hl).imp .here ?_
      rintro ⟨q, n, hq, hlost, hway, hbreaks⟩
      exact ⟨q, n, hq, hlost, hway, fun f' h' => hbreaks f' (here_iff.1 h')⟩
  | up h ih =>
      refine (ih hl).imp .up ?_
      rintro ⟨q, n, hq, hlost, hway, hbreaks⟩
      exact ⟨q, n, hq, hlost, hway, fun f' h' => hbreaks f' (up_iff.1 h')⟩
  | @down m slash place ss s l hs hnode h ih =>
      refine (ih hl).imp (.down hs (hfolder _ hnode)) ?_
      rintro ⟨q, n, hq, hlost, hway, hbreaks⟩
      have hne : place ++ [s] ≠ q := by
        rintro rfl
        rw [hfolder _ hnode] at hlost
        cases hlost
      exact ⟨q, n, hq, hlost, hway, fun f' h' => hbreaks f' (h'.of_folder hs ((node?_erase_of_ne d hne).trans hnode))⟩
  | @through m slash place ss s l target hs hnode h ih =>
      have hgone (f' : Found) : ¬Leads (d.erase (place ++ [s])) (m + 1) slash place (s :: ss) f'.lead :=
        not_found hs (node?_erase_self d (List.concat_ne_nil s place))
      cases hnode' : d'.node? (place ++ [s]) with
      | none => exact .inr ⟨_, _, hnode, hnode', .inl ⟨target, rfl⟩, hgone⟩
      | some n =>
          obtain rfl : n = .link target := Option.some.inj ((hle.node? _ _ hnode').symm.trans hnode)
          refine (ih hl).imp (.through target hs hnode') ?_
          rintro ⟨q, n, hq, hlost, hway, hbreaks⟩
          refine ⟨q, n, hq, hlost, hway, fun f' h' => ?_⟩
          by_cases hne : place ++ [s] = q
          · exact hgone f' (hne ▸ h')
          · exact hbreaks f' (h'.of_link hs ((node?_erase_of_ne d hne).trans hnode))
  | @file place s text? m slash hs hnode =>
      cases f with
      | folder q => cases hl
      | file q text =>
          cases hl
          cases hnode' : d'.node? (place ++ [s]) with
          | some n =>
              obtain rfl : n = .file text := Option.some.inj ((hle.node? _ _ hnode').symm.trans hnode)
              exact .inl (.file m false hs hnode')
          | none =>
              exact .inr ⟨_, _, hnode, hnode', .inr ⟨text, rfl⟩, fun f' =>
                not_found hs (node?_erase_self d (List.concat_ne_nil s place))⟩

end Leads

end Rollout.Rehearsal.Disk
