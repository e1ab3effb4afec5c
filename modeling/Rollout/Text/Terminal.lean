namespace Rollout.Text.Terminal

inductive Style
  | error
  | literal
  | invalid

def escapeChar : Char := '\x1b'

/-- Sets a rendition: bold is 1, red is 31, yellow is 33. -/
def rendition (number : Nat) : String := String.ofList [escapeChar, '['] ++ toString number ++ "m"

def Style.start : Style → String
  | .error => rendition 1 ++ rendition 31
  | .literal => rendition 1
  | .invalid => rendition 33

def styled (s : Style) (text : String) : String := s.start ++ text ++ rendition 0

/-- Whether a character is shown, and inside of what sequence of control characters the text is. A device
string has a head, in which a character of one of four kinds may come next. -/
inductive Mode
  | ground
  | escape
  | escapeTail
  | control
  | command
  | deviceStart
  | deviceNumbers
  | deviceMarks
  | device
  deriving DecidableEq

def isCancel (c : Char) : Bool := c == '\x18' || c == '\x1a'

def isControl (c : Char) : Bool := c.toNat < 0x20

def isLayout (c : Char) : Bool := c == '\t' || c == '\n' || c == '\x0c' || c == '\r'

def isBetween (low high : Nat) (c : Char) : Bool := low ≤ c.toNat && c.toNat ≤ high

/-- One of the bytes of the character is 9C, which ends a device string. -/
def isTerminator (c : Char) : Bool := (String.utf8EncodeChar c).contains 0x9C

def afterEscape (c : Char) : Mode :=
  if c == '[' then .control
  else if c == ']' then .command
  else if c == 'P' then .deviceStart
  else if c == 'X' || c == '^' || c == '_' then .device
  else if isBetween 0x20 0x2F c then .escapeTail
  else if isBetween 0x30 0x7E c then .ground
  else .escape

def afterDevice (m : Mode) (c : Char) : Mode :=
  if isBetween 0x20 0x2F c then .deviceMarks
  else if isBetween 0x30 0x3F c then
    match m with
    | .deviceStart => .deviceNumbers
    | .deviceNumbers => if isBetween 0x3C 0x3F c then .device else m
    | _ => .device
  else if isBetween 0x40 0x7E c then .device
  else m

/-- Whether this character is shown, and the mode after it. Layout characters are shown even in the
midst of a sequence, except where the sequence takes any text. -/
def advance (m : Mode) (c : Char) : Bool × Mode :=
  if c == escapeChar then (false, .escape)
  else if isCancel c then (false, .ground)
  else match m with
    | .ground => (isLayout c || !(isControl c || c == '\x7f'), .ground)
    | .escape =>
      if isLayout c then (true, .ground) else if isControl c then (false, .escape)
      else (false, afterEscape c)
    | .escapeTail =>
      if isLayout c then (true, .ground) else (false, if isBetween 0x30 0x7E c then .ground else .escapeTail)
    | .control =>
      if isLayout c then (true, .ground) else (false, if isBetween 0x40 0x7E c then .ground else .control)
    | .command => (false, if c == '\x07' then .ground else .command)
    | .device => (false, if isTerminator c then .ground else .device)
    | .deviceStart | .deviceNumbers | .deviceMarks => (false, afterDevice m c)

def visibleFrom (m : Mode) : List Char → List Char
  | [] => []
  | c :: r =>
    let (shown, next) := advance m c
    if shown then c :: visibleFrom next r else visibleFrom next r

def visible (s : String) : String := String.ofList (visibleFrom .ground s.toList)

end Rollout.Text.Terminal
