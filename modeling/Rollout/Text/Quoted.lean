import Rollout.Text.Quoted.Table
import Rollout.Text.Case

namespace Rollout.Text.Quoted

/-- A character that cannot be told apart in print: hidden, or drawn onto the one before it. -/
def needsCode (c : Char) : Bool :=
  Case.inRanges extendingRanges c.toNat || Case.inRanges hiddenRanges c.toNat

def escape (c : Char) : List Char :=
  if c == '\x00' then ['\\', '0']
  else if c == '\t' then ['\\', 't']
  else if c == '\r' then ['\\', 'r']
  else if c == '\n' then ['\\', 'n']
  else if c == '\\' || c == '"' then ['\\', c]
  else if needsCode c then '\\' :: 'u' :: '\x7b' :: Nat.toDigits 16 c.toNat ++ ['\x7d']
  else [c]

def quote (s : String) : String := String.ofList ('"' :: s.toList.flatMap escape ++ ['"'])

end Rollout.Text.Quoted
