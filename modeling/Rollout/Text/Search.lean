namespace Rollout.Text

def occurs (part : List Char) : List Char → Bool
  | [] => part.isEmpty
  | c :: r => part.isPrefixOf (c :: r) || occurs part r

def contains (s part : String) : Bool := occurs part.toList s.toList

end Rollout.Text
