import DeviceVerification.Verification.Basic

/-!
# Deadlines

A watchdog cancels a verification that takes too long. Under the fixed policy the whole verification
has to end within the timeout after its request; under the other one the request has to be answered
within that time, and from then on every step of the counterpart grants the timeout anew. Deadlines
are counted on a timer that only runs forward; the wall clock is read once, to find out how old the
request is.
-/

namespace DeviceVerification

/-- How the lifetime of a verification is bounded. -/
inductive TimeoutPolicy where
  | fixedFromRequest
  | requestThenInactivity
  deriving DecidableEq, Repr

/-- Milliseconds until a request of some time has timed out. -/
def remainingTime (timestamp timeout now : UInt64) : Nat :=
  min (timestamp.toNat + milliseconds timeout) Number.maxInteger - now.toNat

/-- Milliseconds of thirty years: the timer waits no longer than that. -/
def longestWait : Nat := 30 * 365 * 24 * 60 * 60 * 1000

/-- Milliseconds that the timer waits for a timeout. -/
def waitingTime (timeout : UInt64) : Nat := min (timeout.toNat * 1000) longestWait

/-- The watch over one verification. -/
structure Watchdog where
  policy : TimeoutPolicy
  timeout : UInt64
  /-- When the timer runs out. -/
  deadline : Nat
  /-- The number of steps that had come in when the timer was set; none until the request is
  answered. -/
  lastActivity : Option Nat
  deriving DecidableEq, Repr

namespace Watchdog

/-- The watch over the verification of a request. -/
def arm (policy : TimeoutPolicy) (timeout timestamp clock : UInt64) (timer : Nat) : Watchdog :=
  ⟨policy, timeout, timer + min (remainingTime timestamp timeout clock) longestWait, none⟩

/-- The watch after a step of the counterpart. -/
def rearm (w : Watchdog) (activity timer : Nat) : Watchdog :=
  { w with deadline := timer + waitingTime w.timeout, lastActivity := some activity }

/-- What a watchdog does next. -/
inductive Move where
  /-- The verification has ended. -/
  | finish
  /-- The timer is set anew. -/
  | rearm (w : Watchdog)
  /-- The verification has timed out. -/
  | expire
  deriving DecidableEq, Repr

/-- Expires once the timer has run out. -/
def await (w : Watchdog) (timer : Nat) : Option Move :=
  if w.deadline ≤ timer then some .expire else none

/-- What a watchdog does at some time, if anything. -/
def move? (w : Watchdog) (v : Verification) (timer : Nat) : Option Move :=
  if v.isTerminal then some .finish
  else
    match w.policy, w.lastActivity with
    | .fixedFromRequest, _ => w.await timer
    | .requestThenInactivity, none =>
      if v.state.isRequestPhase then w.await timer else some (.rearm (w.rearm v.activity timer))
    | .requestThenInactivity, some last =>
      if v.activity = last then w.await timer else some (.rearm (w.rearm v.activity timer))

/-- The cancellation of a verification that has timed out. -/
def timedOut : CancelContent := ⟨.timeout, "verification timed out"⟩

end Watchdog

end DeviceVerification
