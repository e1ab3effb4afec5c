import Rollout.Text.Blank
import Rollout.Text.Lines

namespace Rollout.Text.Assignments

def keyOf? (line : List Char) : Option (List Char) :=
  if line.contains '=' then some (trim (line.takeWhile (· != '='))) else none

def write (param : List Char × List Char) : List Char := param.1 ++ '=' :: param.2

def updateLine (params : List (List Char × List Char)) (line : List Char) : List Char :=
  match params.find? fun p => keyOf? line == some p.1 with
  | some p => write p
  | none => line

/-- The parameters that no line stands for: their key is assigned nowhere, or an earlier parameter has
it. -/
def missing (ls : List (List Char)) : List (List Char) → List (List Char × List Char) →
    List (List Char × List Char)
  | _, [] => []
  | earlier, p :: ps =>
    if earlier.contains p.1 || !ls.any (fun l => keyOf? l == some p.1) then
      p :: missing ls (p.1 :: earlier) ps
    else missing ls (p.1 :: earlier) ps

/-- Sets parameters in a file of `key=value` lines: in place where a key is assigned, else at the end. -/
def updateChars (params : List (List Char × List Char)) (content : List Char) : List Char :=
  let ls := lines content
  unlines (ls.map (updateLine params) ++ (missing ls [] params).map write) ++ ['\n']

def update (params : List (String × String)) (content : String) : String :=
  String.ofList (updateChars (params.map fun p => (p.1.toList, p.2.toList)) content.toList)

end Rollout.Text.Assignments
