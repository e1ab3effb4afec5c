import Rollout.Text.Decimal
import Rollout.Text.Integer

namespace Rollout.Data.Yaml

inductive Style
  | plain
  | single
  | double
  | literal
  deriving DecidableEq

def isBreak (c : Char) : Bool :=
  c == '\n' || c == '\r' || c == '\u0085' || c == '\u2028' || c == '\u2029'

def isBlankOrBreak (c : Char) : Bool := c == ' ' || c == '\t' || isBreak c || c == '\x00'

def isPrintable (c : Char) : Bool :=
  let n := c.toNat
  n == 0x0A || (0x20 ≤ n && n ≤ 0x7E) || (0xA0 ≤ n && n ≤ 0xD7FF) ||
    (0xE000 ≤ n && n ≤ 0xFFFD && n != 0xFEFF) || 0x10000 ≤ n

def isNullWord (s : String) : Bool := ["", "~", "null", "Null", "NULL"].contains s

def isFlagWord (s : String) : Bool :=
  ["true", "True", "TRUE", "false", "False", "FALSE"].contains s

def radixOf? : Char → Option Nat
  | 'x' => some 16
  | 'o' => some 8
  | 'b' => some 2
  | _ => none

/-- A whole number with a mark for its radix: unsigned or with a plus sign below 2^128, with a minus
sign down to -2^127. -/
def isRadixInteger (cs : List Char) : Bool :=
  let digitsFit (radix bound : Nat) (r : List Char) : Bool :=
    !r.isEmpty && (Text.Integer.magnitude radix bound .tooLarge 0 r).isOk
  let unsigned (cs : List Char) : Bool := match cs with
    | '0' :: x :: r => match radixOf? x with
      | some radix => digitsFit radix (Nat.pow 2 128 - 1) r
      | none => false
    | _ => false
  match cs with
  | '+' :: r => unsigned r
  | '-' :: '0' :: x :: r => match radixOf? x with
    | some radix => digitsFit radix (Nat.pow 2 127) r
    | none => false
  | _ => unsigned cs

/-- Digits after a zero that counts for nothing: some readers take it for a text, some for a number. -/
def isZeroLed (cs : List Char) : Bool :=
  let ds := match cs with
    | '+' :: r | '-' :: r => r
    | r => r
  1 < ds.length && ds.head? == some '0' && ds.all Text.Decimal.isDigit

def isInfinityWord (s : String) : Bool := [".inf", ".Inf", ".INF"].contains s

def isNanWord (s : String) : Bool := [".nan", ".NaN", ".NAN"].contains s

def isReal (cs : List Char) : Bool :=
  let decimal (r : List Char) : Bool := match Text.Decimal.read? r with
    | some d => d.fitsDouble
    | none => false
  isNanWord (String.ofList cs) || match cs with
    | '+' :: r | '-' :: r => isInfinityWord (String.ofList r) || decimal r
    | _ => isInfinityWord (String.ofList cs) || decimal cs

/-- A text that would read back as something else if it stood without quotes. -/
def isAmbiguous (s : String) : Bool :=
  isNullWord s || isFlagWord s || isRadixInteger s.toList || isZeroLed s.toList || isReal s.toList

structure Traits where
  indicator : Bool
  special : Bool
  breaks : Bool
  spaceFirst : Bool
  breakFirst : Bool
  spaceLast : Bool
  breakLast : Bool
  breakThenSpace : Bool
  spaceThenBreak : Bool

def leadingIndicators : List Char :=
  ['#', ',', '[', ']', '\x7b', '\x7d', '&', '*', '!', '|', '>', '\'', '"', '%', '@', '\x60']

def startsIndicator : List Char → Bool
  | [] => false
  | c :: r =>
    let open? := (r.head?.map isBlankOrBreak).getD true
    leadingIndicators.contains c || ((c == '?' || c == ':' || c == '-') && open?)

/-- Some character after the first one ends the text: a colon before a blank, a number sign after
one. -/
def innerIndicator : List Char → Bool
  | [] | [_] => false
  | a :: b :: r =>
    (b == ':' && (r.head?.map isBlankOrBreak).getD true) || (b == '#' && isBlankOrBreak a) ||
      innerIndicator (b :: r)

def anyAdjacent (p q : Char → Bool) : List Char → Bool
  | [] | [_] => false
  | a :: b :: r => (p a && q b) || anyAdjacent p q (b :: r)

def traits (cs : List Char) : Traits where
  indicator := ['-', '-', '-'].isPrefixOf cs || ['.', '.', '.'].isPrefixOf cs ||
    startsIndicator cs || innerIndicator cs
  special := cs.any fun c => !isPrintable c
  breaks := cs.any isBreak
  spaceFirst := cs.head? == some ' '
  breakFirst := (cs.head?.map isBreak).getD false
  spaceLast := cs.getLast? == some ' '
  breakLast := (cs.getLast?.map isBreak).getD false
  breakThenSpace := anyAdjacent isBreak (· == ' ') cs
  spaceThenBreak := anyAdjacent (· == ' ') isBreak cs

namespace Traits

def noLiteral (t : Traits) : Bool := t.spaceLast || t.spaceThenBreak || t.special

def noSingle (t : Traits) : Bool := t.breakThenSpace || t.spaceThenBreak || t.special

def noPlain (t : Traits) : Bool :=
  t.noSingle || t.indicator || t.breaks || t.spaceFirst || t.spaceLast || t.breakFirst || t.breakLast

end Traits

/-- A text of several lines is written literally, an ambiguous one in single quotes, any other one
plainly; what its characters forbid gives way to quotes, at last to double ones. -/
def styleOf (s : String) : Style :=
  let t := traits s.toList
  if s.toList.contains '\n' then if t.noLiteral then .double else .literal
  else if isAmbiguous s || t.noPlain then if t.noSingle then .double else .single
  else .plain

end Rollout.Data.Yaml
