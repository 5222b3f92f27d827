import DeviceVerification.Verification.Watchdog

/-!
# Requests that time out

A request may be answered while it is active, and its verification is watched for the time that it
has left. Both count from when the request was sent, each with a bound of its own at the end of 64
bits: the age of a request is compared with the timeout, while the time left is taken from a
deadline. `acceptance_and_watch_agree` says that they meet at the same millisecond all the same,
and `watch_runs_out_with_request` that the watch which was set once keeps to that.
-/

namespace DeviceVerification

variable {timestamp now later timeout skew : UInt64} {policy : TimeoutPolicy} {timer waited : Nat}

/-- A request is active until its timeout has passed, and before it was sent while it is not too far
ahead. -/
theorem isRequestActive_iff : isRequestActive timestamp now timeout skew = true ↔
    timestamp.toNat ≤ now.toNat ∧ now.toNat < timestamp.toNat + milliseconds timeout ∨
      now.toNat < timestamp.toNat ∧ timestamp.toNat ≤ now.toNat + milliseconds skew := by
  unfold isRequestActive
  split
  · rename_i ahead
    rw [UInt64.lt_iff_toNat_lt] at ahead
    rw [decide_eq_true_eq]
    omega
  · rename_i due
    rw [UInt64.lt_iff_toNat_lt] at due
    rw [decide_eq_true_eq]
    omega

/-- Before the last millisecond, time is left until the timeout has passed: where the deadline is
cut off, so is the clock. -/
theorem lt_remainingTime_iff (early : now.toNat + waited < Number.maxInteger) :
    waited < remainingTime timestamp timeout now ↔
      now.toNat + waited < timestamp.toNat + milliseconds timeout := by
  unfold remainingTime
  omega

theorem remainingTime_le : remainingTime timestamp timeout now ≤
    timestamp.toNat - now.toNat + milliseconds timeout := by
  unfold remainingTime
  omega

theorem await_eq_none_iff {w : Watchdog} : w.await timer = none ↔ timer < w.deadline := by
  unfold Watchdog.await
  split
  · rename_i passed
    simp only [reduceCtorEq, false_iff, Nat.not_lt]
    exact passed
  · rename_i left
    simp only [true_iff]
    exact Nat.lt_of_not_le left

/-- A watch that is set on a request runs out with the time that is left, or after the longest
wait. -/
theorem await_arm_eq_none_iff :
    (Watchdog.arm policy timeout timestamp now timer).await (timer + waited) = none ↔
      waited < remainingTime timestamp timeout now ∧ waited < longestWait := by
  have deadline : (Watchdog.arm policy timeout timestamp now timer).deadline =
      timer + min (remainingTime timestamp timeout now) longestWait := rfl
  rw [await_eq_none_iff, deadline]
  omega

/-- While the timer goes on with the clock, the watch that was set on a request runs out when the
request is no longer active. -/
theorem watch_runs_out_with_request (goes : later.toNat = now.toNat + waited)
    (early : later.toNat < Number.maxInteger) (due : timestamp ≤ later)
    (short : waited < longestWait) :
    (Watchdog.arm policy timeout timestamp now timer).await (timer + waited) = none ↔
      isRequestActive timestamp later timeout skew = true := by
  rw [UInt64.le_iff_toNat_le] at due
  rw [await_arm_eq_none_iff, isRequestActive_iff, lt_remainingTime_iff (goes ▸ early), goes]
  omega

/-- **Acceptance and the watch agree on time.** Once a request was sent, it is active just as long
as time is left, to the last millisecond that 64 bits count. A request from the future that is
active has time left, at most the timeout and the skew together. And a request that is too old is so
for good. -/
theorem acceptance_and_watch_agree (timestamp now timeout skew : UInt64) :
    (now.toNat < Number.maxInteger → timestamp ≤ now →
      (isRequestActive timestamp now timeout skew = true ↔
        0 < remainingTime timestamp timeout now)) ∧
    (now < timestamp → isRequestActive timestamp now timeout skew = true →
      0 < remainingTime timestamp timeout now ∧
        remainingTime timestamp timeout now ≤ milliseconds timeout + milliseconds skew) ∧
    (timestamp ≤ now → isRequestActive timestamp now timeout skew = false →
      ∀ later, now ≤ later → isRequestActive timestamp later timeout skew = false) := by
  refine ⟨?_, ?_, ?_⟩
  · intro early due
    rw [UInt64.le_iff_toNat_le] at due
    rw [isRequestActive_iff, lt_remainingTime_iff early]
    omega
  · intro ahead active
    rw [UInt64.lt_iff_toNat_lt] at ahead
    have bound : timestamp.toNat < UInt64.size := timestamp.toNat_lt_size
    have near : timestamp.toNat ≤ now.toNat + milliseconds skew := by
      rw [isRequestActive_iff] at active
      omega
    refine ⟨?_, ?_⟩
    · have early : now.toNat < Number.maxInteger := by
        unfold Number.maxInteger
        omega
      rw [lt_remainingTime_iff early]
      omega
    · have left : remainingTime timestamp timeout now ≤
          timestamp.toNat - now.toNat + milliseconds timeout := remainingTime_le
      omega
  · intro due stale later after
    rw [UInt64.le_iff_toNat_le] at due after
    rw [Bool.eq_false_iff, ne_eq, isRequestActive_iff] at stale ⊢
    omega

/-- In the last millisecond of its ten minutes a request is active and has that millisecond left,
and from then on it is stale. One that comes five minutes early has a quarter of an hour. Near the
end of the 64 bits the deadline is cut off, and the request is active for as long as the clock can
count. -/
theorem acceptance_and_watch_agree_sample :
    (isRequestActive 1000000 1599999 600 300 = true ∧ remainingTime 1000000 600 1599999 = 1) ∧
    (∀ later, 1600000 ≤ later → isRequestActive 1000000 later 600 300 = false) ∧
    (isRequestActive 1300000 1000000 600 300 = true ∧ remainingTime 1300000 600 1000000 = 900000 ∧
      0 < remainingTime 1300000 600 1000000 ∧
      remainingTime 1300000 600 1000000 ≤ milliseconds 600 + milliseconds 300) ∧
    (isRequestActive 18446744073709551000 18446744073709551614 600 300 = true ∧
      0 < remainingTime 18446744073709551000 600 18446744073709551614) := by
  obtain ⟨last, -, -⟩ := acceptance_and_watch_agree 1000000 1599999 600 300
  obtain ⟨-, -, stale⟩ := acceptance_and_watch_agree 1000000 1600000 600 300
  obtain ⟨-, ahead, -⟩ := acceptance_and_watch_agree 1300000 1000000 600 300
  obtain ⟨cut, -, -⟩ := acceptance_and_watch_agree 18446744073709551000 18446744073709551614 600 300
  refine ⟨⟨(last (by decide) (by decide)).2 (by decide), by decide⟩,
    stale (by decide) (by decide), ⟨by decide, by decide, ahead (by decide) (by decide)⟩, ?_⟩
  have active : isRequestActive 18446744073709551000 18446744073709551614 600 300 = true := by
    decide
  exact ⟨active, (cut (by decide) (by decide)).1 active⟩

end DeviceVerification
