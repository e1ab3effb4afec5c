namespace Rollout

structure Duration where
  nanos : Nat
  deriving DecidableEq

namespace Duration

def zero : Duration := ⟨0⟩

def ofSecs (n : Nat) : Duration := ⟨n * 1000000000⟩

def ofMillis (n : Nat) : Duration := ⟨n * 1000000⟩

def secs (d : Duration) : Nat := d.nanos / 1000000000

def millis (d : Duration) : Nat := d.nanos / 1000000

/-- The sum, be it too long to be held or not. -/
def add (a b : Duration) : Duration := ⟨a.nanos + b.nanos⟩

/-- The longest duration that can be held, with seconds in 64 bits. -/
def longest : Duration := ⟨18446744073709551615 * 1000000000 + 999999999⟩

def shorter (a b : Duration) : Duration := ⟨min a.nanos b.nanos⟩

/-- The longest time that a timer runs: thirty years of 365 days. -/
def timerLimit : Duration := .ofSecs (30 * 365 * 86400)

/-- How long a timer runs that is set to `d` when a whole number of milliseconds has passed. It ends with the
first one that is not before its time. -/
def timed (d : Duration) : Duration := .ofMillis (((d.shorter timerLimit).nanos + 999999) / 1000000)

/-- How long it runs when `now` nanoseconds have passed. -/
def timedFrom (now : Nat) (d : Duration) : Duration :=
  ⟨(now + (d.shorter timerLimit).nanos + 999999) / 1000000 * 1000000 - now⟩

theorem timedFrom_of_dvd {now : Nat} (h : 1000000 ∣ now) (d : Duration) : d.timedFrom now = d.timed := by
  obtain ⟨n, rfl⟩ := h
  simp only [timedFrom, timed, ofMillis, Duration.mk.injEq]
  omega

theorem shorter_timerLimit_le_timedFrom (now : Nat) (d : Duration) :
    (d.shorter timerLimit).nanos ≤ (d.timedFrom now).nanos := by
  simp only [timedFrom]
  omega

theorem one_le_timedFrom (now : Nat) {d : Duration} (h : 1 ≤ d.nanos) : 1 ≤ (d.timedFrom now).nanos := by
  have hshorter : 1 ≤ (d.shorter timerLimit).nanos := Nat.le_min.2 ⟨h, by decide⟩
  exact Nat.le_trans hshorter (shorter_timerLimit_le_timedFrom now d)

theorem add_timedFrom_le {now finish : Nat} {d : Duration} (h : now + d.nanos ≤ finish)
    (hfinish : 1000000 ∣ finish) : now + (d.timedFrom now).nanos ≤ finish := by
  obtain ⟨n, rfl⟩ := hfinish
  have hle : (d.shorter timerLimit).nanos ≤ d.nanos := Nat.min_le_left ..
  simp only [timedFrom]
  omega

theorem dvd_timed (d : Duration) : 1000000 ∣ d.timed.nanos := Nat.dvd_mul_left ..

theorem timed_of_dvd {d : Duration} (h : 1000000 ∣ d.nanos) : d.timed = d.shorter timerLimit := by
  obtain ⟨n, hn⟩ := h
  simp only [timed, ofMillis, shorter, timerLimit, ofSecs, hn, Duration.mk.injEq]
  omega

def fraction (width n : Nat) : List Char :=
  let digits := Nat.toDigits 10 n
  let padded := List.replicate (width - digits.length) '0' ++ digits
  (padded.reverse.dropWhile (· == '0')).reverse

def inUnit (unit : String) (width n : Nat) : String :=
  let whole := toString (n / Nat.pow 10 width)
  let rest := n % Nat.pow 10 width
  if rest == 0 then whole ++ unit else whole ++ "." ++ String.ofList (fraction width rest) ++ unit

/-- In the largest of `s`, `ms`, `µs` and `ns` of which there is at least one, exactly. -/
def text (d : Duration) : String :=
  if 1000000000 ≤ d.nanos then inUnit "s" 9 d.nanos
  else if 1000000 ≤ d.nanos then inUnit "ms" 6 d.nanos
  else if 1000 ≤ d.nanos then inUnit "µs" 3 d.nanos
  else inUnit "ns" 0 d.nanos

end Duration

end Rollout
