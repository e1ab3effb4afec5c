import Mathlib.Data.List.Basic
import Rollout.Data

namespace Rollout.Data

variable {α : Type} {kvs : List (String × Data)} {name key : String} {d : Data}

/-- No record in the tree has two fields of one name. -/
inductive Unambiguous : Data → Prop
  | null : Unambiguous .null
  | flag (b : Bool) : Unambiguous (.flag b)
  | number (literal : String) : Unambiguous (.number literal)
  | text (s : String) : Unambiguous (.text s)
  | items {ds : List Data} (h : ∀ d ∈ ds, Unambiguous d) : Unambiguous (.items ds)
  | fields {kvs : List (String × Data)} (hnames : (kvs.map Prod.fst).Nodup) (h : ∀ kv ∈ kvs, Unambiguous kv.2) :
    Unambiguous (.fields kvs)

@[simp]
theorem unambiguous_items_map_iff {xs : List α} {write : α → Data} :
    (items (xs.map write)).Unambiguous ↔ ∀ x ∈ xs, (write x).Unambiguous := by
  refine ⟨fun h => ?_, fun h => .items (List.forall_mem_map.2 h)⟩
  cases h with
  | items h => exact List.forall_mem_map.1 h

@[simp]
theorem unambiguous_fields_iff :
    (fields kvs).Unambiguous ↔ (kvs.map Prod.fst).Nodup ∧ ∀ kv ∈ kvs, kv.2.Unambiguous := by
  refine ⟨fun h => ?_, fun h => .fields h.1 h.2⟩
  cases h with
  | fields hnames h => exact ⟨hnames, h⟩

attribute [simp] Unambiguous.null Unambiguous.flag Unambiguous.number Unambiguous.text

def Has (d : Data) (name : String) : Prop := (d.field? name).isSome = true

@[simp]
theorem field?_nil : (fields []).field? name = none := rfl

@[simp]
theorem field?_cons (kv : String × Data) (kvs : List (String × Data)) :
    (fields (kv :: kvs)).field? name = ((fields kvs).field? name).or (if kv.1 = name then some kv.2 else none) := by
  by_cases h : kv.1 = name
  · cases hfind : kvs.reverse.find? fun kv => kv.1 == name <;> simp [field?, List.find?_append, h, hfind]
  · simp [field?, List.find?_append, h]

@[simp]
theorem field?_append (kvs kvs' : List (String × Data)) :
    (fields (kvs ++ kvs')).field? name = ((fields kvs').field? name).or ((fields kvs).field? name) := by
  simp [field?, List.find?_append, Option.map_or]

@[simp]
theorem field?_toList (o : Option α) (write : α → Data) :
    (fields (o.map fun x => (key, write x)).toList).field? name = if key = name then o.map write else none := by
  cases o <;> simp

@[simp]
theorem field?_ite {p : Prop} [Decidable p] :
    (fields (if p then [] else [(key, d)])).field? name = if ¬p ∧ key = name then some d else none := by
  by_cases h : p <;> simp [h]

def flag? : Data → Option Bool
  | .flag b => some b
  | _ => none

@[simp]
theorem text?_text (s : String) : (text s).text? = some s := rfl

@[simp]
theorem flag?_flag (b : Bool) : (flag b).flag? = some b := rfl

def textField? (name : String) (d : Data) : Option String := (d.field? name).bind text?

def list? (read : Data → Option α) (d : Data) : Option (List α) := do (← d.items?).mapM read

def optional? (name : String) (absent : α) (read : Data → Option α) (d : Data) : Option α :=
  match d.field? name with
  | some x => read x
  | none => some absent

variable {read : Data → Option α} {write : α → Data}

theorem bind_of_eq_some {β : Type} {x : Option α} {a : α} (h : x = some a) (f : α → Option β) : x >>= f = f a := by
  rw [h]
  rfl

theorem list?_map (h : ∀ x, read (write x) = some x) (xs : List α) :
    list? read (.items (xs.map write)) = some xs := by
  change (xs.map write).mapM read = some xs
  induction xs with
  | nil => rfl
  | cons x xs ih => simp [h, ih]

theorem optional?_list (h : ∀ x, read (write x) = some x) {xs : List α}
    (hfield : d.field? name = if xs = [] then none else some (.items (xs.map write))) :
    d.optional? name [] (list? read) = some xs := by
  by_cases hnil : xs = []
  · simp [optional?, hfield, hnil]
  · simp [optional?, hfield, hnil, list?_map h]

theorem optional?_option (h : ∀ x, read (write x) = some x) {o : Option α} (hfield : d.field? name = o.map write) :
    (d.optional? name none fun d => (read d).map some) = some o := by
  cases o with
  | none => simp [optional?, hfield]
  | some x => simp [optional?, hfield, h]

end Rollout.Data
