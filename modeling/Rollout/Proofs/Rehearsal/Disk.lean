import Rollout.Proofs.Rehearsal.Leads

namespace Rollout.Rehearsal.Disk

variable {d d' : Disk} {path text : String} {place q r start steps folder : List String} {s : String} {n : Node}
  {f : Found}

theorem bind_eq_ok_iff {ε α β : Type} {x : Except ε α} {f : α → Except ε β} {b : β} :
    (x >>= f) = .ok b ↔ ∃ a, x = .ok a ∧ f a = .ok b := by
  cases x with
  | error e =>
      constructor
      · intro h
        cases h
      · rintro ⟨_, h, _⟩
        cases h
  | ok a =>
      constructor
      · exact fun h => ⟨a, rfl, h⟩
      · rintro ⟨_, ⟨⟩, h⟩
        exact h

theorem walk_eq_ok_iff : d.walk place steps = .ok r ↔ Leads d linkLimit false place steps (.folder r) := by
  rw [walk, bind_eq_ok_iff]
  constructor
  · rintro ⟨l, hl, h⟩
    rcases l with q | ⟨q, _ | text, b⟩
    · cases h
      exact lead_eq_ok_iff.1 hl
    · cases h
    · cases h
  · exact fun h => ⟨_, h.lead_eq, rfl⟩

def Goes (d : Disk) (path : String) (l : Lead) : Prop :=
  checked path = .ok () ∧ Leads d linkLimit (Path.endsInSlash path) (d.origin path) (Path.steps path) l

theorem find_eq_ok_iff : d.find path = .ok f ↔ d.Goes path f.lead := by
  rw [find, bind_eq_ok_iff]
  constructor
  · rintro ⟨_, hchecked, h⟩
    obtain ⟨l, hl, h⟩ := bind_eq_ok_iff.1 h
    rcases l with q | ⟨q, _ | text, _ | _⟩
    · cases h
      exact ⟨hchecked, lead_eq_ok_iff.1 hl⟩
    · cases h
    · cases h
    · cases h
      exact ⟨hchecked, lead_eq_ok_iff.1 hl⟩
    · cases h
  · rintro ⟨hchecked, h⟩
    refine ⟨(), hchecked, bind_eq_ok_iff.2 ⟨_, h.lead_eq, ?_⟩⟩
    cases f with
    | folder q => rfl
    | file q text => rfl

theorem occupied_iff : d.occupied path = true ↔ ∃ f, d.find path = .ok f := by
  rw [occupied]
  cases d.find path with
  | ok f => simp [Except.isOk, Except.toBool]
  | error c => simp [Except.isOk, Except.toBool]

theorem origin_congr (h : d'.here = d.here) (path : String) : d'.origin path = d.origin path := by
  rw [origin, origin, h]

theorem find_mono (hle : Below d d') (h : d.find path = .ok f) : d'.find path = .ok f := by
  obtain ⟨hchecked, h⟩ := find_eq_ok_iff.1 h
  refine find_eq_ok_iff.2 ⟨hchecked, ?_⟩
  rw [origin_congr hle.here]
  exact h.mono hle

theorem occupied_mono (hle : Below d d') (h : d.occupied path = true) : d'.occupied path = true := by
  obtain ⟨f, h⟩ := occupied_iff.1 h
  exact occupied_iff.2 ⟨f, find_mono hle h⟩

/-- Where files and links are gone, a path leads where it did, or there is one among them without which it leads
nowhere: a link on the way, or the file at its end. -/
theorem find_stays_or_breaks (hle : Below d' d)
    (hfolder : ∀ x, d.node? x = some .folder → d'.node? x = some .folder) (h : d.find path = .ok f) :
    d'.find path = .ok f ∨ ∃ q n, d.node? q = some n ∧ d'.node? q = none ∧
      ((∃ target, n = .link target) ∨ ∃ text, f = .file q text) ∧ (d.erase q).occupied path = false := by
  obtain ⟨hchecked, h⟩ := find_eq_ok_iff.1 h
  rcases h.stays_or_breaks hle hfolder with hstays | ⟨q, n, hq, hlost, hway, hbreaks⟩
  · refine .inl (find_eq_ok_iff.2 ⟨hchecked, ?_⟩)
    rwa [← origin_congr hle.here]
  · refine .inr ⟨q, n, hq, hlost, hway, Bool.eq_false_iff.2 fun hoccupied => ?_⟩
    obtain ⟨f', hf'⟩ := occupied_iff.1 hoccupied
    exact hbreaks f' (find_eq_ok_iff.1 hf').2

/-- A path that names something in a folder. -/
structure Names (d : Disk) (path : String) (folder : List String) (s : String) : Prop where
  checked : checked path = .ok ()
  walk : Leads d linkLimit false (d.origin path) (Path.steps path).dropLast (.folder folder)
  last : (Path.steps path).getLast? = some s
  name : IsName s
  not_slash : Path.endsInSlash path = false

/-- The place of the entry that a path names, which may be a link. -/
def Entry (d : Disk) (path : String) (place : List String) : Prop :=
  ∃ folder s, d.Names path folder s ∧ place = folder ++ [s]

theorem Names.steps_eq (h : d.Names path folder s) : Path.steps path = (Path.steps path).dropLast ++ [s] := by
  obtain ⟨ss, hsteps⟩ := List.getLast?_eq_some_iff.1 h.last
  rw [hsteps, List.dropLast_concat]

theorem Names.mono (hk : KeepsWays d d') (h : d.Names path folder s) : d'.Names path folder s := by
  refine ⟨h.checked, ?_, h.last, h.name, h.not_slash⟩
  rw [origin_congr hk.here]
  exact h.walk.folder_of_keepsWays hk

theorem Entry.mono (hk : KeepsWays d d') (h : d.Entry path place) : d'.Entry path place := by
  obtain ⟨folder, s, hnames, hplace⟩ := h
  exact ⟨folder, s, hnames.mono hk, hplace⟩

theorem Entry.unique (h : d.Entry path place) (h' : d.Entry path q) : place = q := by
  obtain ⟨folder, s, h, rfl⟩ := h
  obtain ⟨folder', s', h', rfl⟩ := h'
  cases h.walk.unique h'.walk
  cases h.last.symm.trans h'.last
  rfl

theorem Entry.ne_nil (h : d.Entry path place) : place ≠ [] := by
  obtain ⟨folder, s, -, rfl⟩ := h
  exact List.concat_ne_nil s folder

/-- Whoever goes the way of a path comes to the entry that it names, unless the way is another one by now. -/
theorem Entry.of_goes (hk : KeepsWays d' d) (h : d.Entry path place) {l : Lead} (hl : d'.Goes path l) :
    d'.Entry path place ∧ ((∃ n, d'.node? place = some n) ∨ l = .file place none false) := by
  obtain ⟨folder, s, h, rfl⟩ := h
  obtain ⟨hchecked, hl⟩ := hl
  obtain ⟨folder', k, hwalk, hlast⟩ := hl.split h.steps_eq (by simp)
  have hwalk' := hwalk.folder_of_keepsWays hk
  rw [← origin_congr hk.here] at hwalk'
  cases hwalk'.unique h.walk
  refine ⟨⟨folder, s, ⟨hchecked, hwalk, h.last, h.name, h.not_slash⟩, rfl⟩, ?_⟩
  cases hnode : d'.node? (folder ++ [s]) with
  | some n => exact .inl ⟨n, rfl⟩
  | none => exact .inr (h.not_slash ▸ hlast.eq_of_none h.name hnode)

theorem Entry.eq_of_find {text' : String} (h : d.Entry path place) (hnode : d.node? place = some (.file text'))
    (hfind : d.find path = .ok (.file q text)) : q = place := by
  obtain ⟨folder, s, h, rfl⟩ := h
  obtain ⟨folder', k, hwalk, hend⟩ := (find_eq_ok_iff.1 hfind).2.split h.steps_eq (by simp)
  cases hwalk.unique h.walk
  exact (Lead.file.inj (hend.eq_of_file h.name hnode)).1

theorem names_of_goes {text? : Option String} (h : d.Goes path (.file place text? false)) :
    ∃ folder s, d.Names path folder s := by
  obtain ⟨hchecked, h⟩ := h
  cases hlast : (Path.steps path).getLast? with
  | none =>
      rw [List.getLast?_eq_none_iff.1 hlast] at h
      cases h
  | some s =>
      obtain ⟨ss, hsteps⟩ := List.getLast?_eq_some_iff.1 hlast
      obtain ⟨folder, k, hwalk, hend⟩ := h.split hsteps (by simp)
      refine ⟨folder, s, hchecked, ?_, hlast, hend.isName_of_file, ?_⟩
      · rwa [hsteps, List.dropLast_concat]
      · exact Bool.eq_false_iff.2 fun hslash => Bool.noConfusion (h.asFolder hslash)

theorem own_eq_some_iff : d.own start steps = .ok (some (folder, s)) ↔
    d.walk start steps.dropLast = .ok folder ∧ steps.getLast? = some s ∧ isDots s = false := by
  rw [own, bind_eq_ok_iff]
  constructor
  · rintro ⟨q, hwalk, h⟩
    obtain ⟨s', hlast, h⟩ := Option.bind_eq_some_iff.1 (Except.ok.inj h)
    split at h
    case isTrue => cases h
    case isFalse hdots =>
      cases h
      exact ⟨hwalk, hlast, by simpa using hdots⟩
  · rintro ⟨hwalk, hlast, hdots⟩
    refine ⟨folder, hwalk, ?_⟩
    rw [hlast, Option.bind_some, if_neg (by simp [hdots])]
    rfl

theorem Names.own_eq (h : d.Names path folder s) :
    d.own (d.origin path) (Path.steps path) = .ok (some (folder, s)) :=
  own_eq_some_iff.2 ⟨walk_eq_ok_iff.2 h.walk, h.last, h.name.not_dots⟩

theorem target_eq_ok_iff : d.target path = .ok place ↔ ∃ text?, d.Goes path (.file place text? false) := by
  rw [target, bind_eq_ok_iff]
  constructor
  · rintro ⟨_, hchecked, h⟩
    obtain ⟨named, -, h⟩ := bind_eq_ok_iff.1 h
    cases named with
    | none => cases h
    | some named =>
        dsimp only at h
        split at h
        case isTrue => cases h
        case isFalse hslash =>
          obtain ⟨l, hl, h⟩ := bind_eq_ok_iff.1 h
          rcases l with q | ⟨q, text?, _ | _⟩
          · cases h
          · cases h
            refine ⟨text?, hchecked, ?_⟩
            rw [Bool.eq_false_iff.2 hslash]
            exact lead_eq_ok_iff.1 hl
          · cases h
  · rintro ⟨text?, h⟩
    obtain ⟨folder, s, hnames⟩ := names_of_goes h
    obtain ⟨hchecked, h⟩ := h
    rw [hnames.not_slash] at h
    refine ⟨(), hchecked, bind_eq_ok_iff.2 ⟨_, hnames.own_eq, ?_⟩⟩
    dsimp only
    rw [hnames.not_slash, if_neg Bool.false_ne_true]
    exact bind_eq_ok_iff.2 ⟨_, h.lead_eq, rfl⟩

theorem remove_eq_ok_iff : d.remove path = .ok d' ↔
    ∃ place n, d.Entry path place ∧ d.node? place = some n ∧ n ≠ .folder ∧ d' = d.erase place := by
  rw [remove, bind_eq_ok_iff]
  constructor
  · rintro ⟨_, hchecked, h⟩
    obtain ⟨named, hown, h⟩ := bind_eq_ok_iff.1 h
    cases named with
    | none => cases h
    | some named =>
        obtain ⟨folder, s⟩ := named
        obtain ⟨hwalk, hlast, hdots⟩ := own_eq_some_iff.1 hown
        obtain ⟨n, hentry, h⟩ := bind_eq_ok_iff.1 h
        obtain ⟨hsize, hnode⟩ := entry_eq_ok_iff.1 hentry
        have hnames (hslash : ¬Path.endsInSlash path = true) : d.Names path folder s :=
          ⟨hchecked, walk_eq_ok_iff.1 hwalk, hlast, ⟨hdots, hsize⟩, Bool.eq_false_iff.2 hslash⟩
        rcases n with _ | _ | _ | _
        · cases h
        · cases h
        all_goals
          dsimp only at h
          split at h
          case isTrue => cases h
          case isFalse hslash =>
            cases h
            exact ⟨_, _, ⟨folder, s, hnames hslash, rfl⟩, hnode, nofun, rfl⟩
  · rintro ⟨place, n, ⟨folder, s, hnames, rfl⟩, hnode, hn, rfl⟩
    refine ⟨(), hnames.checked, bind_eq_ok_iff.2 ⟨_, hnames.own_eq, ?_⟩⟩
    refine bind_eq_ok_iff.2 ⟨_, entry_eq_ok_iff.2 ⟨hnames.name.size, hnode⟩, ?_⟩
    rcases n with _ | _ | _
    · exact absurd rfl hn
    all_goals
      dsimp only
      rw [hnames.not_slash, if_neg Bool.false_ne_true]
      rfl

theorem Entry.not_occupied (h : d.Entry path place) : (d.erase place).occupied path = false := by
  refine Bool.eq_false_iff.2 fun hoccupied => ?_
  obtain ⟨f, hf⟩ := occupied_iff.1 hoccupied
  obtain ⟨-, ⟨n, hn⟩ | hl⟩ := h.of_goes (below_erase d place).keepsWays (find_eq_ok_iff.1 hf)
  · rw [node?_erase_self d h.ne_nil] at hn
    cases hn
  · cases f with
    | folder q => cases hl
    | file q text => cases hl

def IsFile (d : Disk) (path : String) : Prop := ∃ place text, d.find path = .ok (.file place text)

theorem IsFile.mono (hle : Below d d') (h : d.IsFile path) : d'.IsFile path := by
  obtain ⟨place, text, h⟩ := h
  exact ⟨place, text, find_mono hle h⟩

theorem IsFile.occupied (h : d.IsFile path) : d.occupied path = true := by
  obtain ⟨place, text, h⟩ := h
  exact occupied_iff.2 ⟨_, h⟩

theorem IsFile.exists_remove (h : d.IsFile path) : ∃ d', d.remove path = .ok d' := by
  obtain ⟨q, text, h⟩ := h
  have hgoes := find_eq_ok_iff.1 h
  obtain ⟨folder, s, hnames⟩ := names_of_goes hgoes
  obtain ⟨folder', k, hwalk, hend⟩ := hgoes.2.split hnames.steps_eq (by simp)
  cases hwalk.unique hnames.walk
  cases hnode : d.node? (folder ++ [s]) with
  | none => exact absurd hend (Leads.not_found hnames.name hnode)
  | some n =>
      refine ⟨_, remove_eq_ok_iff.2 ⟨_, n, ⟨folder, s, hnames, rfl⟩, hnode, ?_, rfl⟩⟩
      rintro rfl
      cases hend.of_folder hnames.name hnode

theorem below_of_remove (h : d.remove path = .ok d') : Below d' d := by
  obtain ⟨place, n, -, -, -, rfl⟩ := remove_eq_ok_iff.1 h
  exact below_erase d place

/-- A file can be opened there to be written to, be it there or not. -/
def Opens (d : Disk) (path : String) : Prop := ∃ place, d.target path = .ok place

theorem opens_of_isOk (h : (d.target path).isOk = true) : d.Opens path := by
  cases htarget : d.target path with
  | ok place => exact ⟨place, htarget⟩
  | error c =>
      rw [htarget] at h
      cases h

def content (d : Disk) (path : String) : String := (d.read path).toOption.getD ""

theorem read_eq_ok_iff : d.read path = .ok text ↔ ∃ place, d.find path = .ok (.file place text) := by
  rw [read, bind_eq_ok_iff]
  constructor
  · rintro ⟨f, hfind, h⟩
    cases f with
    | folder q => cases h
    | file q text' =>
        cases h
        exact ⟨q, hfind⟩
  · rintro ⟨place, hfind⟩
    exact ⟨_, hfind, rfl⟩

theorem read_of_target (h : d.target path = .ok place) : d.read path = .ok text ↔ d.node? place = some (.file text) := by
  obtain ⟨text?, hgoes⟩ := target_eq_ok_iff.1 h
  rw [read_eq_ok_iff]
  constructor
  · rintro ⟨q, hfind⟩
    have hfile := (find_eq_ok_iff.1 hfind).2
    cases hfile.unique hgoes.2
    exact hfile.node?
  · intro hnode
    have hwas := hgoes.2.node?
    rw [hnode] at hwas
    cases text? with
    | none => cases hwas
    | some old =>
        cases hwas
        exact ⟨place, find_eq_ok_iff.2 hgoes⟩

theorem append_of_target (h : d.target path = .ok place) :
    d.append path text = .ok (d.put place (.file (d.content path ++ text))) := by
  refine bind_eq_ok_iff.2 ⟨place, h, ?_⟩
  split
  case h_1 old hnode =>
    rw [content, (read_of_target h).2 hnode]
    rfl
  case h_2 hnone =>
    have hcontent : d.content path = "" := by
      rw [content]
      cases hread : d.read path with
      | error c => rfl
      | ok old => exact absurd ((read_of_target h).1 hread) (hnone old)
    rw [hcontent, String.empty_append]
    rfl

theorem target_ne_nil (h : d.target path = .ok place) : place ≠ [] := by
  obtain ⟨text?, hgoes⟩ := target_eq_ok_iff.1 h
  rintro rfl
  have hroot := hgoes.2.node?
  cases text? with
  | none => cases hroot
  | some text => cases hroot

theorem target_put (h : d.target path = .ok place) (text : String) :
    (d.put place (.file text)).target path = .ok place := by
  obtain ⟨text?, hchecked, hgoes⟩ := target_eq_ok_iff.1 h
  -- At most a file was at the place, so no folder and no link is lost.
  have hk : KeepsWays d (d.put place (.file text)) := by
    refine ⟨here_put .., fun x n hx hn => ?_⟩
    rwa [node?_put_of_ne]
    rintro rfl
    rw [hgoes.node?] at hx
    obtain ⟨old, -, rfl⟩ := Option.map_eq_some_iff.1 hx
    exact hn old rfl
  have hself := node?_put_self d (.file text) (target_ne_nil h)
  refine target_eq_ok_iff.2 ⟨some text, hchecked, ?_⟩
  rw [origin_congr hk.here]
  exact hgoes.file_of_keepsWays hk hself

theorem Opens.append (h : d.Opens path) (text : String) : ∃ d', d.append path text = .ok d' ∧ d'.Opens path ∧
    d'.content path = d.content path ++ text := by
  obtain ⟨place, h⟩ := h
  have hput := target_put h (d.content path ++ text)
  refine ⟨_, append_of_target h, ⟨place, hput⟩, ?_⟩
  rw [content, (read_of_target hput).2 (node?_put_self _ _ (target_ne_nil h))]
  rfl

theorem here_write (h : d.write path text = .ok d') : d'.here = d.here := by
  obtain ⟨place, -, h⟩ := bind_eq_ok_iff.1 h
  rw [← Except.ok.inj h]
  exact here_put ..

theorem here_append (h : d.append path text = .ok d') : d'.here = d.here := by
  obtain ⟨place, -, h⟩ := bind_eq_ok_iff.1 h
  split at h
  · rw [← Except.ok.inj h]
    exact here_put ..
  · rw [← Except.ok.inj h]
    exact here_put ..

theorem here_makeFolder (h : d.makeFolder start steps = .ok d') : d'.here = d.here := by
  obtain ⟨named, -, h⟩ := bind_eq_ok_iff.1 h
  cases named with
  | none => cases h
  | some named =>
      obtain ⟨n, -, h⟩ := bind_eq_ok_iff.1 h
      cases n with
      | some n => cases h
      | none =>
          rw [← Except.ok.inj h]
          exact here_put ..

/-- Work that leaves relative paths to begin where they do. -/
def Stays {α : Type} (a : Work α) : Prop := ∀ d, (a.run.run d).2.here = d.here

namespace Stays

variable {α β : Type}

theorem pure (a : α) : Stays (pure a) := fun _ => rfl

theorem throw (c : IoCause) : Stays (throw c : Work α) := fun _ => rfl

theorem bind {a : Work α} {f : α → Work β} (ha : Stays a) (hf : ∀ x, Stays (f x)) : Stays (a >>= f) := by
  intro d
  have hd := ha d
  rw [ExceptT.run_bind, StateT.run_bind]
  generalize a.run.run d = x at hd ⊢
  obtain ⟨x | x, d'⟩ := x
  · exact hd
  · exact (hf x d').trans hd

theorem get_bind {f : Disk → Work β} (hf : ∀ d, ((f d).run.run d).2.here = d.here) : Stays (get >>= f) := fun d => hf d

end Stays

theorem stays_ensureFolder (start steps : List String) : Stays (ensureFolder start steps) := by
  refine .get_bind fun d => ?_
  cases h : d.makeFolder start steps with
  | ok d' => exact here_makeFolder h
  | error c =>
      dsimp only
      split
      · rfl
      · rfl

theorem stays_ensureFolders (start steps : List String) : Stays (ensureFolders start steps) := by
  induction steps with
  | nil => exact .pure _
  | cons s before ih =>
      refine .get_bind fun d => ?_
      dsimp only
      split
      · exact ih.bind (fun _ => stays_ensureFolder start _) d
      · exact stays_ensureFolder start _ d

theorem stays_plant (path text : String) : Stays (plant path text) := by
  refine .bind ?_ fun _ => .get_bind fun d => ?_
  · rw [makeFolders]
    split
    · exact .pure _
    · refine .bind ?_ fun _ => .get_bind fun d => stays_ensureFolders _ _ d
      intro d
      cases checked (Path.parent path) with
      | ok => rfl
      | error c => rfl
  · cases h : d.write path text with
    | ok d' => exact here_write h
    | error c => rfl

end Rollout.Rehearsal.Disk
