namespace Rollout.Path

/-- What `right` names when it is read in the folder `left`. An absolute path stands for itself, and a
slash is added only where `left` does not end in one. -/
def join (left right : String) : String :=
  if right.toList.head? = some '/' then right
  else if left = "" ∨ left.toList.getLast? = some '/' then left ++ right
  else left ++ "/" ++ right

def split : List Char → List (List Char)
  | [] => [[]]
  | '/' :: r => [] :: split r
  | c :: r => match split r with
    | [] => [[c]]
    | s :: ss => (c :: s) :: ss

def steps (path : String) : List String :=
  ((split path.toList).filter fun s => !s.isEmpty).map String.ofList

/-- The pieces of a path from its end, without those at the end that lead nowhere. The first piece of a path
always counts. -/
def dropIdle : List (List Char) → List (List Char)
  | [] => []
  | [p] => [p]
  | p :: ps => if p = [] ∨ p = ['.'] then dropIdle ps else p :: ps

def parent (path : String) : String :=
  match dropIdle (dropIdle (split path.toList).reverse).tail with
  | [] => ""
  | [[]] => "/"
  | ps => "/".intercalate (ps.reverse.map String.ofList)

def isAbsolute (path : String) : Bool := path.toList.head? == some '/'

def endsInSlash (path : String) : Bool := path.toList.getLast? == some '/'

end Rollout.Path
