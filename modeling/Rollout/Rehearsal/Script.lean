namespace Rollout.Rehearsal

structure Entry (α : Type) where
  start : String
  times : Option Nat
  reply : α

namespace Entry

variable {α : Type}

def isFor (e : Entry α) (call : String) : Bool :=
  e.start.toList.isPrefixOf call.toList && e.times != some 0

def used (e : Entry α) : Entry α := { e with times := e.times.map (· - 1) }

end Entry

abbrev Script (α : Type) := List (Entry α)

namespace Script

variable {α : Type}

def choose (call : String) : Script α → Option α × Script α
  | [] => (none, [])
  | e :: es =>
    if e.isFor call then (some e.reply, e.used :: es)
    else
      let (r, es) := choose call es
      (r, e :: es)

end Script

end Rollout.Rehearsal
