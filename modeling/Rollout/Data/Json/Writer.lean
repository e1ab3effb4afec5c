import Rollout.Data

namespace Rollout.Data.Json

def lowerHex (n : Nat) : Char := if n < 10 then Char.ofNat (48 + n) else Char.ofNat (87 + n)

def escape (c : Char) : List Char :=
  if c == '"' || c == '\\' then ['\\', c]
  else if c == '\x08' then ['\\', 'b']
  else if c == '\x0c' then ['\\', 'f']
  else if c == '\n' then ['\\', 'n']
  else if c == '\r' then ['\\', 'r']
  else if c == '\t' then ['\\', 't']
  else if c.toNat < 0x20 then
    ['\\', 'u', '0', '0', lowerHex (c.toNat / 16), lowerHex (c.toNat % 16)]
  else [c]

def quoted (s : String) : List Char := '"' :: s.toList.flatMap escape ++ ['"']

mutual

def chars : Data → List Char
  | .null => "null".toList
  | .flag true => "true".toList
  | .flag false => "false".toList
  | .number literal => literal.toList
  | .text s => quoted s
  | .items ds => '[' :: itemChars ds ++ [']']
  | .fields kvs => '\x7b' :: fieldChars kvs ++ ['\x7d']

def itemChars : List Data → List Char
  | [] => []
  | [d] => chars d
  | d :: ds => chars d ++ ',' :: itemChars ds

def fieldChars : List (String × Data) → List Char
  | [] => []
  | [(k, d)] => quoted k ++ ':' :: chars d
  | (k, d) :: kvs => quoted k ++ ':' :: chars d ++ ',' :: fieldChars kvs

end

def write (d : Data) : String := String.ofList (chars d)

end Rollout.Data.Json
