import CommandShell.Decimal
import CommandShell.Failure
import CommandShell.Moment

/-!
The two clocks of a session: the time of day with its date, and a count of seconds that measures
how long a session has lasted.

The count is a floating-point number and may leave the range of finite ones; then there is no time
to tell (`truncate`). `elapsedText` splits a span of seconds so that the minutes are never negative.
-/

namespace CommandShell

/-- A number of seconds as it is given: a floating-point number, or a whole number that is too large
to be one. -/
inductive Seconds where
  | float (x : Float)
  | tooLarge

namespace Seconds

/-- A whole number of seconds. -/
def ofInt (n : Int) : Seconds :=
  let x := Float.ofInt n
  if (Binary.ofFloat? x).isSome then .float x else .tooLarge

def toFloat : Seconds → Except ClockFault Float
  | .float x => .ok x
  | .tooLarge => .error .tooLarge

end Seconds

/-- The clocks at one instant. Neither moves while a line is executed. -/
structure Clock where
  now : Moment
  seconds : Float

namespace Clock

/-- Moves the count of seconds; the time of day stands. -/
def advance (c : Clock) (step : Seconds) : Except ClockFault Clock :=
  step.toFloat.map fun x => { c with seconds := c.seconds + x }

/-- A floating-point number without its fraction. -/
def truncate (x : Float) : Except ClockFault Int :=
  match Binary.ofFloat? x with
  | some b => .ok (if b.negative then -(b.wholePart : Int) else b.wholePart)
  | none => .error (if x.isNaN then .undefined else .infinite)

/-- Whole seconds as hours and minutes, both rounded down. -/
def elapsedText (elapsed : Int) : String :=
  "up " ++ toString (Int.fdiv elapsed 3600) ++ "h "
    ++ toString (Int.fdiv (Int.fmod elapsed 3600) 60) ++ "m"

/-- The time since `started`, fractions of a second dropped. -/
def uptimeText (c : Clock) (started : Seconds) : Except ClockFault String := do
  let elapsed ← truncate (c.seconds - (← started.toFloat))
  return elapsedText elapsed

/-- The clock can tell how long something took. -/
def measures (c : Clock) : Bool := (Binary.ofFloat? c.seconds).isSome

end Clock

/-- One hour and a second before the start is two hours before it, with 59 minutes gone. -/
example : Clock.elapsedText (-3601) = "up -2h 59m" := by decide +kernel

end CommandShell
