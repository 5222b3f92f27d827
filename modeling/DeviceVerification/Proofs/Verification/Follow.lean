import Mathlib.Data.List.Forall2
import DeviceVerification.Verification.Operation

/-!
# Following the machine

A turn of the machine asks for steps to go out and gives a verdict. `Followed` lists what a
verification makes of that: it goes on, has keys trusted and finishes, or cancels. `Reaches` is how
every part of an operation is described: the verification it leads to, and the effects it adds.
-/

namespace DeviceVerification.Verification

/-! ## Entering a state -/

section

variable (v : Verification) (s : State)

/-- Entering a state changes it, and a state at the end has the machine let go of its secrets. -/
theorem enter_eq : v.enter s = { v with
    state := s
    machine := if s.isTerminal then v.machine.map (·.release) else v.machine } := by
  unfold enter
  split <;> rfl

@[simp] theorem enter_state : (v.enter s).state = s := by
  rw [enter_eq]

@[simp] theorem enter_own : (v.enter s).own = v.own := by
  rw [enter_eq]

@[simp] theorem enter_request : (v.enter s).request = v.request := by
  rw [enter_eq]

@[simp] theorem enter_settings : (v.enter s).settings = v.settings := by
  rw [enter_eq]

@[simp] theorem enter_route : (v.enter s).route = v.route := by
  rw [enter_eq]

@[simp] theorem enter_theirDevice : (v.enter s).theirDevice = v.theirDevice := by
  rw [enter_eq]

@[simp] theorem enter_methods : (v.enter s).methods = v.methods := by
  rw [enter_eq]

@[simp] theorem enter_nextGeneration : (v.enter s).nextGeneration = v.nextGeneration := by
  rw [enter_eq]

@[simp] theorem enter_ownDone : (v.enter s).ownDone = v.ownDone := by
  rw [enter_eq]

@[simp] theorem enter_theirDone : (v.enter s).theirDone = v.theirDone := by
  rw [enter_eq]

@[simp] theorem enter_sasLost : (v.enter s).sasLost = v.sasLost := by
  rw [enter_eq]

@[simp] theorem enter_held : (v.enter s).held = v.held := by
  rw [enter_eq]

theorem enter_machine : (v.enter s).machine =
    if s.isTerminal then v.machine.map (·.release) else v.machine := by
  rw [enter_eq]

@[simp] theorem enter_isTerminal : (v.enter s).isTerminal = s.isTerminal :=
  congrArg State.isTerminal (enter_state v s)

end

/-! ## Effects -/

/-- Whether an effect is a request to trust keys. -/
def Effect.isTrust : Effect → Bool
  | .trust _ _ => true
  | _ => false

/-- Steps went out on a route in their order, delivered or not. -/
def Handed (route : Route) (steps : List Step) (effects : List Effect) : Prop :=
  List.Forall₂ (fun step e => ∃ failure, e = .send route step failure) steps effects

/-- The devices that are no longer meant were told, if there are any. -/
inductive Dismissed (devices : List String) : List Effect → Prop where
  | none (h : devices = []) : Dismissed devices []
  | told {failure : Option TransportError} (h : devices ≠ []) :
      Dismissed devices [.dismiss devices failure]

namespace Handed

variable {route : Route} {steps : List Step} {effects : List Effect}

/-- What went out is what the effects hand to the route. -/
theorem filterMap_step? (h : Handed route steps effects) : effects.filterMap (·.step?) = steps := by
  induction h with
  | nil => rfl
  | cons head _ ih =>
    obtain ⟨failure, rfl⟩ := head
    rw [List.filterMap_cons, ih]
    rfl

theorem isTrust_eq_false (h : Handed route steps effects) : ∀ e ∈ effects, e.isTrust = false := by
  induction h with
  | nil => simp
  | cons head _ ih =>
    obtain ⟨failure, rfl⟩ := head
    simpa [Effect.isTrust] using ih

end Handed

namespace Dismissed

variable {devices : List String} {effects : List Effect}

theorem filterMap_step? (h : Dismissed devices effects) : effects.filterMap (·.step?) = [] := by
  cases h <;> rfl

theorem isTrust_eq_false (h : Dismissed devices effects) : ∀ e ∈ effects, e.isTrust = false := by
  cases h <;> simp [Effect.isTrust]

end Dismissed

/-! ## Parts of an operation -/

namespace Progress

/-- A part of an operation leads to a verification and adds effects; it draws no key pair. -/
structure Reaches (p p' : Progress) (v : Verification) (effects : List Effect) : Prop where
  verification : p'.verification = v
  source : p'.source = p.source
  effects : p'.effects = p.effects ++ effects

variable {a : Answers} {p p' p'' : Progress} {v w : Verification} {e e' : List Effect}

@[simp] theorem begin_verification (v : Verification) (source : KeySource) :
    (begin v source).verification = v := rfl

theorem Reaches.refl (p : Progress) : Reaches p p p.verification [] :=
  ⟨rfl, rfl, (List.append_nil _).symm⟩

theorem Reaches.trans (h : Reaches p p' v e) (h' : Reaches p' p'' w e') :
    Reaches p p'' w (e ++ e') where
  verification := h'.verification
  source := h'.source.trans h.source
  effects := by rw [h'.effects, h.effects, List.append_assoc]

/-- Changing the verification on the way has no effects. -/
theorem Reaches.update (h : Reaches p p' v e) (f : Verification → Verification) :
    Reaches p (p'.update f) (f v) e where
  verification := congrArg f h.verification
  source := h.source
  effects := h.effects

theorem reaches_send (a : Answers) (step : Step) (p : Progress) :
    ∃ failure, Reaches p (p.send a step) p.verification
      [.send p.verification.route step failure] :=
  ⟨_, rfl, rfl, rfl⟩

theorem reaches_cancel (content : CancelContent) (running : p.verification.isTerminal = false) :
    ∃ failure, Reaches p (p.cancel a content) (p.verification.enter (.cancelled content true))
      [.send p.verification.route (.cancel content) failure] := by
  unfold cancel
  rw [if_neg (by simp [running])]
  obtain ⟨failure, sent⟩ := reaches_send a (.cancel content) (p.enter (.cancelled content true))
  refine ⟨failure, sent.verification, sent.source, ?_⟩
  rw [sent.effects]
  simp [enter, Progress.update]

/-- The device of the counterpart is chosen. -/
def chosen (device : String) (v : Verification) : Verification :=
  { v with theirDevice := some device, route := v.route.narrow device }

theorem reaches_choose (a : Answers) (device : String) (p : Progress) :
    ∃ effects, Reaches p (p.choose a device) (chosen device p.verification) effects ∧
      Dismissed (p.verification.route.others device) effects := by
  unfold choose
  simp only
  split
  · rename_i nobody
    exact ⟨[], ⟨rfl, rfl, (List.append_nil _).symm⟩, .none (List.isEmpty_iff.1 nobody)⟩
  · rename_i somebody
    exact ⟨_, ⟨rfl, rfl, rfl⟩, .told (by simpa using somebody)⟩

/-- The steps of a turn go out. -/
theorem reaches_sends (a : Answers) (steps : List Step) (p : Progress) :
    ∃ effects, Reaches p (steps.foldl (fun p step => p.send a step) p) p.verification effects ∧
      Handed p.verification.route steps effects := by
  induction steps generalizing p with
  | nil => exact ⟨[], .refl p, .nil⟩
  | cons step steps ih =>
    obtain ⟨failure, sent⟩ := reaches_send a step p
    obtain ⟨effects, reached, handed⟩ := ih (p.send a step)
    rw [sent.verification] at reached handed
    exact ⟨_, sent.trans reached, .cons ⟨failure, rfl⟩ handed⟩

end Progress

/-! ## Turns -/

/-- The cancellation for trust that is not recorded. -/
def untrusted (e : TrustError) : CancelContent :=
  ⟨.user, "failed to persist trust: " ++ e.message⟩

/-- What a running verification makes of a turn: the verification after it, and what it asked of the
surroundings. -/
inductive Followed (a : Answers) (v : Verification) (turn : Sas.Turn) :
    Verification → List Effect → Prop where
  | proceed {sent : List Effect} (handed : Handed v.route turn.outbound sent)
      (verdict : turn.verdict = .proceed) : Followed a v turn v sent
  | recorded {sent : List Effect} {keys : List VerifiableKey} {failure : Option TransportError}
      (handed : Handed v.route turn.outbound sent) (verdict : turn.verdict = .verified keys)
      (answer : a.trusting v.theirUser keys = .recorded) :
      Followed a v turn (Progress.completed v)
        (sent ++ [.trust keys .recorded, .send v.route .done failure])
  | refused {sent : List Effect} {keys : List VerifiableKey} {e : TrustError}
      {failure : Option TransportError} (handed : Handed v.route turn.outbound sent)
      (verdict : turn.verdict = .verified keys)
      (answer : a.trusting v.theirUser keys = .refused e) :
      Followed a v turn (v.enter (.cancelled (untrusted e) true))
        (sent ++ [.trust keys (.refused e), .send v.route (.cancel (untrusted e)) failure])
  | pending {sent : List Effect} {keys : List VerifiableKey}
      (handed : Handed v.route turn.outbound sent) (verdict : turn.verdict = .verified keys)
      (answer : a.trusting v.theirUser keys = .pending) :
      Followed a v turn { v with held := true } (sent ++ [.trust keys .pending])
  | cancelled {sent : List Effect} {content : CancelContent} {failure : Option TransportError}
      (handed : Handed v.route turn.outbound sent) (verdict : turn.verdict = .cancel content) :
      Followed a v turn (v.enter (.cancelled content true))
        (sent ++ [.send v.route (.cancel content) failure])

namespace Progress

variable {a : Answers} {p : Progress}

@[simp] theorem completed_route (v : Verification) : (completed v).route = v.route := by
  simp [completed, release]

/-- Everything that becomes of keys that are verified. -/
theorem reaches_complete (keys : List VerifiableKey)
    (running : p.verification.isTerminal = false) :
    ∃ v effects, Reaches p (p.complete a keys) v effects ∧
      ∀ sent turn, Handed p.verification.route turn.outbound sent →
        turn.verdict = .verified keys → Followed a p.verification turn v (sent ++ effects) := by
  unfold complete
  cases answer : a.trusting p.verification.theirUser keys with
  | recorded =>
    obtain ⟨failure, sent⟩ := reaches_send a .done
      (({ p with effects := p.effects ++ [.trust keys .recorded] } : Progress).update completed)
    refine ⟨_, [.trust keys .recorded, .send p.verification.route .done failure],
      ⟨sent.verification, sent.source, ?_⟩, fun _ _ handed verdict =>
        .recorded handed verdict answer⟩
    rw [sent.effects]
    simp [update]
  | refused e =>
    obtain ⟨failure, sent⟩ := reaches_cancel (a := a) (untrusted e)
      (p := { p with effects := p.effects ++ [.trust keys (.refused e)] }) running
    refine ⟨_, [.trust keys (.refused e), .send p.verification.route (.cancel (untrusted e))
      failure], ⟨sent.verification, sent.source, ?_⟩, fun _ _ handed verdict =>
        .refused handed verdict answer⟩
    exact sent.effects.trans (by simp)
  | pending =>
    exact ⟨_, _, ⟨rfl, rfl, rfl⟩, fun _ _ handed verdict => .pending handed verdict answer⟩

/-- Everything that becomes of a turn. -/
theorem reaches_follow (a : Answers) (turn : Sas.Turn) (p : Progress)
    (running : p.verification.isTerminal = false) :
    ∃ v effects, Reaches p (p.follow a turn) v effects ∧
      Followed a p.verification turn v effects := by
  obtain ⟨sent, handing, handed⟩ := reaches_sends a turn.outbound p
  unfold follow
  generalize turn.outbound.foldl (fun p step => p.send a step) p = q at handing ⊢
  have same : q.verification = p.verification := handing.verification
  cases verdict : turn.verdict with
  | proceed => exact ⟨_, _, handing, .proceed handed verdict⟩
  | verified keys =>
    obtain ⟨v, effects, reached, followed⟩ :=
      reaches_complete (a := a) (p := q) keys (by rw [same]; exact running)
    rw [same] at followed
    exact ⟨v, _, handing.trans reached, followed sent turn handed verdict⟩
  | cancel content =>
    obtain ⟨failure, reached⟩ :=
      reaches_cancel (a := a) (p := q) content (by rw [same]; exact running)
    rw [same] at reached
    exact ⟨_, _, handing.trans reached, .cancelled handed verdict⟩

end Progress

end DeviceVerification.Verification
