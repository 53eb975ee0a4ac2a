import Provision.Failure
import Provision.Files
import Provision.Session.Exchange
import Provision.Session.Pacing

/-!
# Sessions

What has happened so far while the program ran, what is around it, and computations between the two. A session counts
time from its start in nanoseconds. The surroundings answer each request as they like, in view of all that was
exchanged before; they also decide by how much each pause is stretched and what the clock shows. A computation (`Run`)
passes a session on, also when it fails.
-/

namespace Provision

/-! ## The log -/

/-- How grave a line of the log is. -/
inductive Level where
  | debug
  | warn
  | error
deriving DecidableEq, Repr

/-- The name of a level. -/
def Level.name : Level → String
  | .debug => "DEBUG"
  | .warn => "WARN"
  | .error => "ERROR"

/-- A line of the log: a message, and values with names. -/
structure LogLine where
  level : Level
  message : String
  values : List (String × String) := []
deriving DecidableEq, Repr

/-- The text of a line. -/
def LogLine.text (l : LogLine) : String :=
  l.values.foldl (fun acc v => acc ++ " " ++ v.1 ++ "=" ++ v.2) (l.level.name ++ " " ++ l.message)

/-! ## Sessions and surroundings -/

/-- What has happened so far. -/
structure Session where
  /-- The time since the start. -/
  now : Nat := 0
  slots : Slots := []
  /-- What was sent and came back, the latest first. -/
  exchanges : List Exchange := []
  /-- The log, the latest line first. -/
  log : List LogLine := []
  files : Files := default
  /-- How often a pause was made before another attempt. -/
  pauses : Nat := 0

/-- A session with one more line in the log. -/
def Session.logged (s : Session) (line : LogLine) : Session := { s with log := line :: s.log }

/-- By how much a pause is stretched: at least a half, and less than one and a half. -/
structure Jitter where
  factor : Rat
  half_le : 1 / 2 ≤ factor
  lt_three_halves : factor < 3 / 2

/-- Pauses that are as long as they should be. -/
def Jitter.none : Jitter := ⟨1, by decide +kernel, by decide +kernel⟩

/-- How time passes beside the requests and the pauses. The clock never goes back. It may stand for any number of
attempts, but in the end it moves. -/
structure Clock where
  /-- How much time passes before the attempt with a number is judged, by the pauses made so far and the number. -/
  tick : Nat → Nat → Nat
  /-- The number of the attempt from which on the clock moves each time. -/
  standing : Nat
  moves : ∀ pauses number, standing ≤ number → 0 < tick pauses number

namespace Clock

/-- A clock that lets given times pass before the attempts up to a number, and moves from then on. -/
def following (ticks : Nat → Nat → Nat) (standing : Nat) : Clock where
  tick pauses number := if number < standing then ticks pauses number else 1
  standing := standing
  moves _ number h := by
    rw [if_neg (Nat.not_lt.2 h)]
    exact Nat.one_pos

/-- Whatever a clock shows before finitely many attempts, there is such a clock. -/
theorem tick_following (ticks : Nat → Nat → Nat) {standing number : Nat} (h : number < standing) (pauses : Nat) :
    (following ticks standing).tick pauses number = ticks pauses number := if_pos h

/-- A clock that moves by a nanosecond with each attempt. -/
def steady : Clock := following (fun _ _ => 1) 0

end Clock

/-- What is around the program. -/
structure Surroundings where
  /-- The second at which the session starts, counted from the first of January 1970. -/
  epoch : Int
  /-- What comes back for a request, after the exchanges before it. -/
  reply : List Exchange → Posting → Reply
  /-- How long it takes until something comes back. -/
  latency : List Exchange → Posting → Nat
  /-- By how much each pause is stretched. -/
  jitter : Nat → Jitter
  clock : Clock
  /-- Which of the calls in flight is served next. -/
  pick : List Exchange → Nat

/-- The second of the present time, counted from the first of January 1970. -/
def Session.second (s : Session) (out : Surroundings) : Int := out.epoch + (s.now / Time.second : Nat)

/-! ## Computations -/

/-- A computation: it fails or has a result, and passes on the session. -/
def Run (α : Type) : Type := Session → Except Failure α × Session

namespace Run

variable {α β γ : Type}

/-- The computation that does nothing. -/
protected def pure (a : α) : Run α := fun s => (.ok a, s)

/-- One computation after another; a failure ends both. -/
protected def bind (x : Run α) (f : α → Run β) : Run β := fun s =>
  match x s with
  | (.ok a, s) => f a s
  | (.error e, s) => (.error e, s)

instance : Monad Run where
  pure := Run.pure
  bind := Run.bind

/-- The computation that fails. -/
def fail (e : Failure) : Run α := fun s => (.error e, s)

/-- A result or failure as a computation. -/
def ofExcept (x : Except Failure α) : Run α := fun s => (x, s)

/-- The computation that only changes the session. -/
def change (f : Session → Session) : Run Unit := fun s => (.ok (), f s)

/-- A value that the session has. -/
def look (f : Session → α) : Run α := fun s => (.ok (f s), s)

/-- Adds a line to the log. -/
def log (line : LogLine) : Run Unit := change (·.logged line)

theorem pure_apply (a : α) (s : Session) : (pure a : Run α) s = (.ok a, s) := rfl

theorem bind_apply (x : Run α) (f : α → Run β) (s : Session) :
    (x >>= f) s = match x s with
      | (.ok a, s) => f a s
      | (.error e, s) => (.error e, s) := rfl

theorem bind_ok {x : Run α} {f : α → Run β} {s t : Session} {a : α} (h : x s = (.ok a, t)) : (x >>= f) s = f a t := by
  rw [bind_apply, h]

theorem bind_error {x : Run α} {f : α → Run β} {s t : Session} {e : Failure} (h : x s = (.error e, t)) :
    (x >>= f) s = (.error e, t) := by
  rw [bind_apply, h]

instance : LawfulMonad Run :=
  LawfulMonad.mk' Run
    (fun x => by
      funext s
      show (Run.bind x fun a => Run.pure (id a)) s = x s
      simp only [Run.bind]
      split <;> simp_all [Run.pure])
    (fun a f => rfl)
    (fun x f g => by
      funext s
      show Run.bind (Run.bind x f) g s = Run.bind x (fun a => Run.bind (f a) g) s
      simp only [Run.bind]
      split <;> split <;> simp_all)

end Run

end Provision
