import Provision.Session.Basic

/-!
# Repeated attempts

A computation is attempted again after a failure that promises something of another attempt, after a pause that grows
from attempt to attempt, as long as the pause fits in the time that is allowed for all attempts. The clock may stand
while attempts are made and judged, but it moves in the end, so the attempts end.
-/

namespace Provision

/-- The time for all attempts together, the first and the longest pause, in nanoseconds, and how pauses grow. -/
structure Budget where
  timeout : Nat
  initialDelay : Nat := 500 * Time.millisecond
  maxDelay : Nat := 10 * Time.second
  multiplier : Rat := 2
deriving DecidableEq

namespace Budget

/-- The time for a change, unless the settings say otherwise. -/
def writeTimeout : Nat := 300 * Time.second

/-- The time for a question, unless the settings say otherwise. -/
def readTimeout : Nat := 180 * Time.second

/-- A budget with another first pause; no pause has to be shorter than it. -/
def withInitialDelay (b : Budget) (delay : Nat) : Budget :=
  { b with initialDelay := delay, maxDelay := max b.maxDelay delay }

/-- The pause that follows one of length `delay`, before it is stretched. -/
def nextDelay (b : Budget) (delay : Rat) : Rat :=
  if delay * b.multiplier ≤ b.maxDelay then delay * b.multiplier else b.maxDelay

end Budget

/-- A stretched pause in whole nanoseconds, rounded up: a whole time fits in what is left together with the exact pause
if and only if it does with the rounded one. Rounded to the nearest it would be at most one nanosecond shorter. -/
def Jitter.stretch (j : Jitter) (delay : Rat) : Nat := (delay * j.factor).ceil.toNat

/-- A session that has come to a time, unless it is later there already. -/
def Session.notBefore (s : Session) (time : Nat) : Session := { s with now := max s.now time }

/-- A session in which more time has passed. -/
def Session.later (s : Session) (span : Nat) : Session := { s with now := s.now + span }

/-- A session in which a pause was made. -/
def Session.pause (s : Session) (span : Nat) : Session := { s with now := s.now + span, pauses := s.pauses + 1 }

namespace Run

variable {α : Type}

/-- The values in a line of the log about an attempt. -/
def attemptValues (operation : String) (number : Nat) (e : Failure) : List (String × String) :=
  [("operation", operation), ("attempt", Text.Decimal.text number), ("error", e.message)]

/-- The line of the log for a failure after which another attempt is made, with the pause in whole milliseconds. -/
def again (operation : String) (number : Nat) (e : Failure) (pause : Nat) : LogLine :=
  ⟨.warn, "Retryable error, retrying",
    attemptValues operation number e ++ [("delay_ms", Text.Decimal.text (pause / Time.millisecond))]⟩

/-- The line of the log for a failure after which the time is over. -/
def exhausted (operation : String) (number : Nat) (e : Failure) : LogLine :=
  ⟨.error, "Retry budget exhausted", attemptValues operation number e⟩

/-- The attempts from the one of a given number on, with the pause that follows it if it fails. The first attempt
began at time `start`. -/
def attempts (out : Surroundings) (b : Budget) (operation : String) (act : Run α) (start : Nat) (number : Nat)
    (delay : Rat) (s : Session) : Except Failure α × Session :=
  match act s with
  | (.ok a, t) => (.ok a, t)
  | (.error e, t) =>
    if e.retryable then
      let u := (t.notBefore s.now).later (out.clock.tick t.pauses number)
      let pause := (out.jitter t.pauses).stretch delay
      if b.timeout < u.now - start + pause then
        (.error (.timedOut operation (u.now - start) e), u.logged (exhausted operation number e))
      else
        attempts out b operation act start (number + 1) (b.nextDelay delay)
          ((u.logged (again operation number e pause)).pause pause)
    else (.error e, t)
-- While the clock may stand, attempts are counted; then each of them takes some of the time that is left.
termination_by (start + b.timeout + 1 - s.now) + (out.clock.standing - number)
decreasing_by
  rename_i fits
  have hu : u.now = max t.now s.now + out.clock.tick t.pauses number := rfl
  have hmoves := out.clock.moves t.pauses number
  show start + b.timeout + 1 - (u.now + pause) + (out.clock.standing - (number + 1)) <
    start + b.timeout + 1 - s.now + (out.clock.standing - number)
  omega

/-- A computation that is attempted until it succeeds, fails for good, or its time is over. -/
def retried (out : Surroundings) (b : Budget) (operation : String) (act : Run α) : Run α := fun s =>
  attempts out b operation act s.now 1 b.initialDelay s

end Run

end Provision
