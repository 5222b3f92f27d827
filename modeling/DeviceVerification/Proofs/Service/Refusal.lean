import DeviceVerification.Proofs.Service.Tenure

/-!
# Refused actions

An action checks several things one after the other: where the verification stands, what it offers,
which run is meant, what the trust store knows and what the machine expects. Whichever of them it is
refused for, nothing was done yet: the verification, the key source and the trust store are as
before, and nothing was sent (`refused_actions_are_atomic`). Actions that are refused can therefore
be struck from every run (`Run.steps_struck`). Not every error is a refusal in this sense: messages
that are not delivered are reported after everything is done, and a request without a method that
we support is cancelled.
-/

namespace DeviceVerification

namespace Verification

open Progress

/-- Whether an error of an action says that the action is not taken. -/
def Operation.declines : Operation → ActionError → Bool
  | .ready, .invalidState _ _ => true
  | .start _, .invalidState _ _ => true
  | .start _, .unsupportedMethod _ => true
  | .act _ _, .invalidState _ _ => true
  | .act _ _, .gone => true
  | .act _ _, .trustStore _ => true
  | _, _ => false

/-! ## Actions -/

/-- An action is refused before it does anything, or it goes to its end and reports. -/
inductive Resolved (p : Progress) : Outcome → Prop where
  | refused (e : ActionError) : Resolved p (p.refuse e)
  | reported (q : Progress) : Resolved p q.report

/-- What went to its end reports failed messages and nothing else. -/
theorem eq_transport_of_report {p : Progress} {e : ActionError} (h : p.report.reply = .refused e) :
    ∃ t, e = .transport t := by
  unfold report at h
  split at h
  · cases h
  · split at h
    · rename_i t failed
      cases h
      exact ⟨t, rfl⟩
    · cases h

theorem Resolved.eq_refuse {p : Progress} {o : Outcome} {e : ActionError} (h : Resolved p o)
    (reply : o.reply = .refused e) (undelivered : ∀ t, e ≠ .transport t) : o = p.refuse e := by
  cases h with
  | refused e' =>
    cases reply
    rfl
  | reported q =>
    obtain ⟨t, rfl⟩ := eq_transport_of_report reply
    exact absurd rfl (undelivered t)

section

variable (a : Answers) (p : Progress)

theorem resolved_start (method : Method) : Resolved p (p.start a method) := by
  unfold Progress.start
  simp only
  split
  · split
    · split
      · exact .refused _
      · exact .reported _
    · exact .refused _
  · exact .refused _

theorem resolved_act (generation : Nat) (action : SasAction) :
    Resolved p (p.act a generation action) := by
  unfold Progress.act
  split
  · split
    · split
      · unfold acceptStart
        split
        · exact .reported _
        · exact .refused _
      · unfold confirmCodes
        split
        · exact .refused _
        · split
          · exact .reported _
          · exact .refused _
      · unfold rejectCodes
        split
        · exact .reported _
        · exact .refused _
    · exact .refused _
  · exact .refused _
  · exact .refused _

/-- A request that is not there to be answered, is not answered. Where it is, and we support none of
its methods, it is cancelled, and the error says something else. -/
theorem ready_eq_refuse {action state : String}
    (reply : (p.ready a).reply = .refused (.invalidState action state)) :
    p.ready a = p.refuse (.invalidState action state) := by
  unfold Progress.ready at reply ⊢
  simp only at reply ⊢
  split at reply
  · split at reply
    · split at reply <;> cases reply
    · obtain ⟨t, other⟩ := eq_transport_of_report reply
      cases other
  · rename_i other
    rw [if_neg other]
    cases reply
    rfl

end

variable {a : Answers} {op : Operation} {v : Verification} {source : KeySource} {e : ActionError}

theorem Operation.ne_transport_of_declines (declined : op.declines e = true) (t : TransportError) :
    e ≠ .transport t := by
  rintro rfl
  cases op <;> cases declined

/-- An action that is declined does nothing. -/
theorem perform_of_declined (reply : (perform a op v source).reply = .refused e)
    (declined : op.declines e = true) :
    perform a op v source = ⟨v, source, [], .refused e⟩ := by
  cases held : v.held with
  | true =>
    rw [perform_of_held held] at reply
    cases reply
  | false =>
    have undelivered := Operation.ne_transport_of_declines declined
    unfold perform at reply ⊢
    simp only [held, Bool.false_eq_true, ↓reduceIte] at reply ⊢
    cases op with
    | ready =>
      cases e with
      | invalidState action state => exact ready_eq_refuse a _ reply
      | _ => cases declined
    | start method => exact (resolved_start a _ method).eq_refuse reply undelivered
    | act generation action =>
      exact (resolved_act a _ generation action).eq_refuse reply undelivered
    | cancel | abort | yieldToOtherDevice | receive | replay | finishReplay => cases declined

/-! ## Runs -/

/-- Whether a record is of an action that was declined. -/
def Record.isDeclined (r : Record) : Bool :=
  match r.outcome.reply with
  | .refused e => r.op.declines e
  | _ => false

theorem Record.isDeclined_iff {r : Record} : r.isDeclined = true ↔
    ∃ e, r.outcome.reply = .refused e ∧ r.op.declines e = true := by
  unfold isDeclined
  cases r.outcome.reply <;> simp

/-- What an operation of a run was, and what it was answered. -/
def Record.event (r : Record) : Operation × Answers := (r.op, r.answers)

/-- A run without the actions that were declined. -/
def Run.struck (r : Run) : Run := { r with log := r.log.filter fun record => !record.isDeclined }

namespace Run

/-- An action that is declined is written down, and nothing else. -/
theorem step_of_declined {r : Run} {event : Operation × Answers}
    (reply : (perform event.2 event.1 r.verification r.source).reply = .refused e)
    (declined : event.1.declines e = true) : (r.step event).struck = r.struck := by
  have same := perform_of_declined reply declined
  simp [step, extend, struck, same, Record.isDeclined, declined]

/-- An operation that is not an action that was declined stays. -/
theorem step_of_heeded {r : Run} {event : Operation × Answers}
    (heeded : Record.isDeclined ⟨r.verification, event.1, event.2,
      perform event.2 event.1 r.verification r.source⟩ = false) :
    (r.step event).struck = r.struck.step event := by
  simp [step, extend, struck, heeded]

/-- **Refused actions can be struck.** Without the actions that were declined, the operations of a
run lead to the same verification and the same key source, and each of the others finds and does
what it did. -/
theorem steps_struck (v : Verification) (source : KeySource)
    (events : List (Operation × Answers)) :
    (begin v source).steps (((begin v source).steps events).struck.log.map (·.event)) =
      ((begin v source).steps events).struck := by
  -- the induction is on the last operation, which is struck or performed once more
  induction events using List.reverseRecOn with
  | nil => rfl
  | append_singleton events event ih =>
    rw [steps_concat]
    generalize (begin v source).steps events = r at ih ⊢
    cases isDeclined : Record.isDeclined ⟨r.verification, event.1, event.2,
        perform event.2 event.1 r.verification r.source⟩ with
    | true =>
      obtain ⟨e, reply, declined⟩ := Record.isDeclined_iff.1 isDeclined
      rw [step_of_declined reply declined]
      exact ih
    | false =>
      have logged : (r.step event).struck.log = r.struck.log ++ [⟨r.verification, event.1, event.2,
          perform event.2 event.1 r.verification r.source⟩] := by
        rw [step_of_heeded isDeclined]
        rfl
      rw [logged, List.map_append, List.map_singleton, steps_concat, ih, step_of_heeded isDeclined]
      rfl

end Run

end Verification

/-! ## All verifications -/

open Verification

/-- **Refused actions are atomic.** Where an answer is refused for the state, a start for the state
or its method, and an action in a run for the state, the run or the trust store, the verification is
exactly as before, with its device, its methods, its flags, its machine and all secrets; no key pair
was drawn, no trust was asked for and nothing was sent. The same holds of all verifications together
with what their devices offer, trust stores and key sources included. -/
theorem refused_actions_are_atomic {op : Operation} {e : ActionError}
    (declined : op.declines e = true) :
    (∀ (a : Answers) (v : Verification) (source : KeySource),
      (perform a op v source).reply = .refused e →
        perform a op v source = ⟨v, source, [], .refused e⟩) ∧
    ∀ (p : Pool) (id : Nat), (p.perform id op).2.2 = .refused e →
      p.perform id op = (p, [], .refused e) := by
  refine ⟨fun a v source reply => perform_of_declined reply declined, ?_⟩
  intro p id reply
  obtain same | ⟨device, v, s, found, offered, same⟩ := p.perform_cases id op
  · rw [same] at reply ⊢
    cases reply
    rfl
  · rw [same] at reply ⊢
    have untouched := perform_of_declined reply declined
    have absorbed : s.absorb v.theirUser ⟨v, s.source, [], .refused e⟩ = s := rfl
    obtain ⟨inside, rfl⟩ := List.getElem?_eq_some_iff.1 offered
    obtain ⟨listed, known⟩ := List.getElem?_eq_some_iff.1 found
    rw [untouched, absorbed, ← known, List.set_getElem_self inside, List.set_getElem_self listed]
    rfl

/-- Bob says that the codes are the same while there are none yet. He keeps the key pair that he
drew. -/
theorem refused_actions_are_atomic_sample :
    let bob := sampleAccepted.verification
    let confirm : Operation := .act 1 .confirm
    let error : ActionError := .invalidState "confirm" "accept"
    confirm.declines error = true ∧
      (bob.machine.bind (·.keyPair)).isSome = true ∧
      (perform sampleAnswers confirm bob ⟨[]⟩).reply = .refused error ∧
      perform sampleAnswers confirm bob ⟨[]⟩ = ⟨bob, ⟨[]⟩, [], .refused error⟩ := by
  have reply : (perform sampleAnswers (.act 1 .confirm) sampleAccepted.verification ⟨[]⟩).reply =
      .refused (.invalidState "confirm" "accept") := by decide +kernel
  have declined : Operation.declines (.act 1 .confirm) (.invalidState "confirm" "accept") = true :=
    rfl
  exact ⟨declined, by decide +kernel, reply, (refused_actions_are_atomic declined).1 _ _ _ reply⟩

end DeviceVerification
