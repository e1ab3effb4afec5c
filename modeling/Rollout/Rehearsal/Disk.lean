import Rollout.Failure
import Rollout.Path

namespace Rollout.Rehearsal

/-- What stands at a place. To come to a symbolic link is to go on to its target. -/
inductive Node
  | folder
  | file (text : String)
  | link (target : String)
  deriving DecidableEq

/-- Files, folders and links, each at its place, that is, the names that lead to it from the root. Relative
paths begin at `here`. -/
structure Disk where
  entries : List (List String × Node)
  here : List String
  deriving DecidableEq

namespace Disk

def node? (d : Disk) (place : List String) : Option Node :=
  if place.isEmpty then some .folder
  else (d.entries.find? fun e => e.1 == place).map (·.2)

/-- What stands at a place is replaced, and a new place comes last. -/
def put (d : Disk) (place : List String) (n : Node) : Disk :=
  if d.entries.any fun e => e.1 == place then
    { d with entries := d.entries.map fun e => if e.1 == place then (place, n) else e }
  else { d with entries := d.entries ++ [(place, n)] }

def erase (d : Disk) (place : List String) : Disk :=
  { d with entries := d.entries.filter fun e => e.1 != place }

def emptyAt (here : List String) : Disk :=
  ⟨(List.range here.length).map fun k => (here.take (k + 1), .folder), here⟩

def nameLimit : Nat := 255

def pathLimit : Nat := 4095

/-- What stands under a name in a folder. A name that is too long stands nowhere. -/
def entry (d : Disk) (folder : List String) (name : String) : Except IoCause (Option Node) :=
  if nameLimit < name.utf8ByteSize then .error .nameTooLong else .ok (d.node? (folder ++ [name]))

/-- Where steps lead: to a folder, or to where a file may be, with its text if there is one. A slash at the end asks
for a folder. -/
inductive Lead
  | folder (place : List String)
  | file (place : List String) (text? : Option String) (asFolder : Bool)
  deriving DecidableEq

/-- Goes on step by step, and at a link as `follow` does. -/
def leadWith (d : Disk) (follow : Bool → List String → List String → Except IoCause Lead) (slash : Bool)
    (place : List String) : List String → Except IoCause Lead
  | [] => .ok (.folder place)
  | s :: ss =>
    if s = "." then leadWith d follow slash place ss
    else if s = ".." then leadWith d follow slash place.dropLast ss
    else match d.entry place s with
      | .error c => .error c
      | .ok (some .folder) => leadWith d follow slash (place ++ [s]) ss
      | .ok (some (.link target)) =>
        follow (slash || ss.isEmpty && Path.endsInSlash target) (if Path.isAbsolute target then [] else place)
          (Path.steps target ++ ss)
      | .ok (some (.file text)) =>
        if ss.isEmpty then .ok (.file (place ++ [s]) (some text) slash) else .error .notDirectory
      | .ok none => if ss.isEmpty then .ok (.file (place ++ [s]) none slash) else .error .notFound

def linkLimit : Nat := 40

/-- Where steps lead when so many links may still be followed. -/
def lead (d : Disk) : Nat → Bool → List String → List String → Except IoCause Lead
  | 0 => d.leadWith fun _ _ _ => .error (.other "Too many levels of symbolic links (os error 40)")
  | n + 1 => d.leadWith fun slash place steps => d.lead n slash place steps

def walk (d : Disk) (place steps : List String) : Except IoCause (List String) := do
  match ← d.lead linkLimit false place steps with
  | .folder place => return place
  | .file _ (some _) _ => .error .notDirectory
  | .file _ none _ => .error .notFound

/-- A path that may be looked up at all. -/
def checked (path : String) : Except IoCause Unit :=
  if path.toList.contains '\x00' then
    .error (.invalidInput "file name contained an unexpected NUL byte")
  else if path = "" then .error .notFound
  else if pathLimit < path.utf8ByteSize then .error .nameTooLong
  else .ok ()

def origin (d : Disk) (path : String) : List String := if Path.isAbsolute path then [] else d.here

def isDots (s : String) : Bool := s = "." ∨ s = ".."

/-- The folder and the name of the entry that steps end with, be it a link or not there at all. They need not end with
one. -/
def own (d : Disk) (start steps : List String) : Except IoCause (Option (List String × String)) := do
  let folder ← d.walk start steps.dropLast
  return steps.getLast?.bind fun s => if isDots s then none else some (folder, s)

inductive Found
  | folder (place : List String)
  | file (place : List String) (text : String)
  deriving DecidableEq

def Found.place : Found → List String
  | .folder place | .file place _ => place

def find (d : Disk) (path : String) : Except IoCause Found := do
  checked path
  match ← d.lead linkLimit (Path.endsInSlash path) (d.origin path) (Path.steps path) with
  | .folder place => return .folder place
  | .file place (some text) false => return .file place text
  | .file _ (some _) true => .error .notDirectory
  | .file _ none _ => .error .notFound

def target (d : Disk) (path : String) : Except IoCause (List String) := do
  checked path
  match ← d.own (d.origin path) (Path.steps path) with
  | none => .error .isDirectory
  | some _ =>
    if Path.endsInSlash path then .error .isDirectory
    else match ← d.lead linkLimit false (d.origin path) (Path.steps path) with
      | .file place _ false => return place
      | _ => .error .isDirectory

def read (d : Disk) (path : String) : Except IoCause String := do
  match ← d.find path with
  | .file _ text => return text
  | .folder _ => .error .isDirectory

def write (d : Disk) (path text : String) : Except IoCause Disk :=
  return d.put (← d.target path) (.file text)

def append (d : Disk) (path text : String) : Except IoCause Disk := do
  let place ← d.target path
  match d.node? place with
  | some (.file old) => return d.put place (.file (old ++ text))
  | _ => return d.put place (.file text)

def occupied (d : Disk) (path : String) : Bool := (d.find path).isOk

/-- Removes a file, or a link and not what it leads to. -/
def remove (d : Disk) (path : String) : Except IoCause Disk := do
  checked path
  match ← d.own (d.origin path) (Path.steps path) with
  | none => .error .isDirectory
  | some (folder, s) => match ← d.entry folder s with
    | none => .error .notFound
    | some .folder => .error .isDirectory
    | some _ => if Path.endsInSlash path then .error .notDirectory else return d.erase (folder ++ [s])

def makeFolder (d : Disk) (start steps : List String) : Except IoCause Disk := do
  match ← d.own start steps with
  | none => .error .alreadyExists
  | some (folder, s) => match ← d.entry folder s with
    | some _ => .error .alreadyExists
    | none => return d.put (folder ++ [s]) .folder

def isFolder (d : Disk) (start steps : List String) : Bool := (d.walk start steps).isOk

/-- Work on a disk. What was done before a fault stays. -/
abbrev Work := ExceptT IoCause (StateM Disk)

def ensureFolder (start steps : List String) : Work Unit := do
  let d ← get
  match d.makeFolder start steps with
  | .ok d => set d
  | .error c => if d.isFolder start steps then return () else throw c

/-- Makes the folder to which these steps lead, the last one first. The folders on the way are made before
it where one of them is missing. -/
def ensureFolders (start : List String) : List String → Work Unit
  | [] => return ()
  | s :: before => do
    match (← get).makeFolder start (s :: before).reverse with
    | .error .notFound => ensureFolders start before
    | _ => pure ()
    ensureFolder start (s :: before).reverse

def makeFolders (path : String) : Work Unit := do
  if path = "" then return ()
  else do
    checked path
    ensureFolders ((← get).origin path) (Path.steps path).reverse

def plant (path text : String) : Work Unit := do
  makeFolders (Path.parent path)
  set (← (← get).write path text)

def pathFrom (folder place : List String) : Option String :=
  if folder.isPrefixOf place && folder != place then
    some ("/".intercalate (place.drop folder.length))
  else none

def isEmptyFolder (d : Disk) (place : List String) : Bool :=
  !d.entries.any fun e => place.isPrefixOf e.1 && e.1 != place

def listing (d : Disk) : List (String × Option String) :=
  d.entries.filterMap fun e => (pathFrom d.here e.1).bind fun path =>
    match e.2 with
    | .file text => some (path, some text)
    | .folder => if d.isEmptyFolder e.1 then some (path ++ "/", none) else none
    | .link _ => none

end Disk

end Rollout.Rehearsal
