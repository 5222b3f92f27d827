import DeviceVerification.Proofs.Verification.Transition

/-!
# Turns of a run

A step of the counterpart or an action of the user is handed to the machine of the run, where there
is one that awaits it (`Feeds`). What the operation comes to is then what follows from the turn that
the machine makes: `perform_receive_of_take` and `perform_act_of_take` give it for a machine of
which no more is known than that it takes the input. A run can so be followed from turn to turn
without a look at its keys and its codes.
-/

namespace DeviceVerification.Verification

open Progress

variable {a : Answers} {v : Verification} {source : KeySource} {m : Sas.Machine}
  {input : Sas.Input} {d : Sas.Machine.Drawn} {sender : Option String} {step : Step}

/-- A step that is heard is counted and applied. -/
theorem perform_of_hears (free : v.held = false) (unended : v.isTerminal = false)
    (hears : v.Hears sender step) :
    perform a (.receive sender step) v source =
      ((Progress.begin (v.counted (.receive sender step)) source).apply a step).silent := by
  have counted : v.counted (.receive sender step) = { v with activity := v.activity + 1 } := by
    simp [Verification.counted, unended]
  have start : (Progress.begin v source).update (fun v => { v with activity := v.activity + 1 }) =
      begin (v.counted (.receive sender step)) source := by
    rw [counted]
    rfl
  have near : isStray { v with activity := v.activity + 1 } sender step = false := hears.near
  unfold perform receive
  simp only [free, Bool.false_eq_true, ↓reduceIte, begin_verification, unended]
  rw [start, begin_verification, counted, near]
  simp [hears.kept]

/-- A step that the machine of a run takes. -/
theorem perform_receive_of_take (running : v.state.isRunning = true) (free : v.held = false)
    (machine : v.machine = some m)
    (feeds : Feeds a v m.generation (.receive sender step) input)
    (took : m.take source input = .ok d) :
    perform a (.receive sender step) v source =
      ((Progress.begin (v.counted (.receive sender step)) source).runDrawn a d).silent := by
  have unended : v.isTerminal = false := State.isTerminal_of_isRunning running
  obtain ⟨method, device, generation, state⟩ := State.isRunning_iff.1 running
  have machine' : (v.counted (.receive sender step)).machine = some m := by simp [machine]
  have state' : (v.counted (.receive sender step)).state = .start method device generation := by
    simp [state]
  cases feeds with
  | accepted hears =>
    obtain rfl := Except.ok.inj took
    rw [perform_of_hears free unended hears]
    simp only [Progress.apply, begin, state', withMachine, machine']
  | key hears =>
    obtain rfl := Except.ok.inj took
    rw [perform_of_hears free unended hears]
    simp only [Progress.apply, begin, state', withMachine, machine']
    rfl
  | mac hears read =>
    obtain rfl := Except.ok.inj took
    rw [perform_of_hears free unended hears]
    have same (op : Operation) : theirKeys a (v.counted op) = theirKeys a v := by
      obtain ⟨n, counted⟩ := exists_counted v op
      rw [counted]
      rfl
    simp only [Progress.apply, begin, state', receiveMac, same, read, withMachine, machine']
    rfl

/-- An action of the user that the machine of a run takes. -/
theorem perform_act_of_take {action : SasAction} (running : v.state.isRunning = true)
    (free : v.held = false) (machine : v.machine = some m)
    (feeds : Feeds a v m.generation (.act m.generation action) input)
    (took : m.take source input = .ok d) :
    perform a (.act m.generation action) v source =
      ((Progress.begin v source).runDrawn a d).report := by
  obtain ⟨method, device, generation, state⟩ := State.isRunning_iff.1 running
  cases feeds with
  | accept =>
    have took : m.accept source = .ok d := took
    simp [perform, free, Progress.act, state, machine, begin, acceptStart, took]
  | confirm read =>
    simp only [Sas.Machine.take] at took
    cases confirmed : m.confirm _ _ with
    | error e =>
      rw [confirmed] at took
      cases took
    | ok turn =>
      rw [confirmed] at took
      obtain rfl := Except.ok.inj took
      simp [perform, free, Progress.act, state, machine, begin, confirmCodes, read, confirmed,
        runDrawn]
  | reject =>
    simp only [Sas.Machine.take] at took
    cases rejected : m.reject with
    | error e =>
      rw [rejected] at took
      cases took
    | ok turn =>
      rw [rejected] at took
      obtain rfl := Except.ok.inj took
      -- A rejection leaves the machine as it is.
      have same : { v with machine := some m } = v := by rw [← machine]
      have followed : (Progress.begin v source).runDrawn a ⟨m, source, turn⟩ =
          (Progress.begin v source).follow a turn := by
        simp only [runDrawn, run, begin, update, same]
      rw [followed]
      simp [perform, free, Progress.act, state, machine, begin, rejectCodes, rejected]

end DeviceVerification.Verification
