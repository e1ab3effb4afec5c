namespace Rollout

/-- A tree of plain data: what a manifest or an answer in a structured format holds. A number is kept
as it was written. -/
inductive Data
  | null
  | flag (b : Bool)
  | number (literal : String)
  | text (s : String)
  | items (ds : List Data)
  | fields (kvs : List (String × Data))
  deriving Inhabited

namespace Data

/-- The last field of that name. Nothing but a record has fields. -/
def field? (name : String) : Data → Option Data
  | .fields kvs => (kvs.reverse.find? fun kv => kv.1 == name).map (·.2)
  | _ => none

def items? : Data → Option (List Data)
  | .items ds => some ds
  | _ => none

def text? : Data → Option String
  | .text s => some s
  | _ => none

end Data

end Rollout
