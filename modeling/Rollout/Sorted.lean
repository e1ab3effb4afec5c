namespace Rollout

/-- A table with one value for each key, in the order of the keys. -/
abbrev Sorted (α : Type) := List (String × α)

namespace Sorted

variable {α : Type}

/-- A key that is there keeps its place and takes the new value. -/
def insert (k : String) (v : α) : Sorted α → Sorted α
  | [] => [(k, v)]
  | (k', v') :: r =>
    if k = k' then (k, v) :: r
    else if k < k' then (k, v) :: (k', v') :: r
    else (k', v') :: insert k v r

def get? (t : Sorted α) (k : String) : Option α := (t.find? fun e => e.1 == k).map (·.2)

def keys (t : Sorted α) : List String := t.map (·.1)

def ofList (es : List (String × α)) : Sorted α := es.foldl (fun t e => t.insert e.1 e.2) []

@[simp]
theorem get?_nil (x : String) : get? ([] : Sorted α) x = none := rfl

@[simp]
theorem get?_cons (k : String) (v : α) (t : Sorted α) (x : String) :
    get? ((k, v) :: t) x = if k = x then some v else get? t x := by
  by_cases h : k = x <;> simp [get?, h]

@[simp]
theorem get?_insert (t : Sorted α) (k : String) (v : α) (x : String) :
    (t.insert k v).get? x = if k = x then some v else t.get? x := by
  induction t with
  | nil => simp [insert]
  | cons e r ih =>
    obtain ⟨k', v'⟩ := e
    unfold insert
    split
    · simp_all
    · split
      · simp
      · by_cases hx : k' = x <;> simp_all

end Sorted

end Rollout
