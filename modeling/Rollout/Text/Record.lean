import Rollout.Text.Quoted

namespace Rollout.Text.Record

def commas : List String → String
  | [] => ""
  | [s] => s
  | s :: ss => s ++ ", " ++ commas ss

def list (items : List String) : String := "[" ++ commas items ++ "]"

def write (name : String) (fields : List (String × String)) : String :=
  name ++ " \x7b " ++ commas (fields.map fun f => f.1 ++ ": " ++ f.2) ++ " \x7d"

def option : Option String → String
  | some s => "Some(" ++ s ++ ")"
  | none => "None"

end Rollout.Text.Record
