import Rollout.Failure

namespace Rollout.Rehearsal.Shell

def letters : List Char := "abcefilmnpsuvxCEIV".toList

/-- What is wrong with letters. After `o` the next word is a name, and no script has an argument that is one
of the names. -/
def unknown? (next : List String) : List Char → Option (List UInt8)
  | [] => none
  | c :: cs =>
    if c = 'o' then next.head?.map fun name => ("-o " ++ name).toUTF8.toList
    else if letters.contains c then unknown? next cs
    else some ("-".toUTF8.toList ++ (String.utf8EncodeChar c).take 1)

def badOption? : List String → Option (List UInt8)
  | [] => none
  | word :: next => match word.toList with
    | ['-'] | ['-', '-'] => none
    | '-' :: cs | '+' :: cs => unknown? next cs
    | _ => none

def complaint (text : List UInt8) : List UInt8 :=
  "sh: 0: ".toUTF8.toList ++ text ++ "\n".toUTF8.toList

def illegalOption (text : List UInt8) : List UInt8 :=
  complaint ("Illegal option ".toUTF8.toList ++ text)

def cannotOpen (path : String) (c : IoCause) : List UInt8 :=
  let reason := match c with
    | .notFound | .notDirectory => "No such file"
    | c => c.reason
  complaint ("cannot open " ++ path ++ ": " ++ reason).toUTF8.toList

end Rollout.Rehearsal.Shell
