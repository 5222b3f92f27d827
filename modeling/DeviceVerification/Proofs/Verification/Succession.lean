import DeviceVerification.Proofs.Verification.Delivery
import DeviceVerification.Proofs.Verification.Frame
import DeviceVerification.Trust.Access

/-!
# Operations that follow each other

A run in which every message is delivered is a `Progress` that grows from one operation to the next
(`Progress.next`), and where other runs of the same operations lead is where this one does
(`Arranges.ends`). Two ways are `Akin` if they asked for the same and lead to the same verification,
or to two that are settled in one state and that nothing can tell apart any more.
-/

namespace DeviceVerification

/-- A trust store takes note of the keys that it is asked to trust, and not of the messages. -/
theorem TrustAccess.absorb_attempted (t : TrustAccess) (user : String)
    (effects : List Verification.Effect) :
    t.absorb user (effects.map (·.attempted)) = t.absorb user effects := by
  unfold absorb
  rw [List.foldl_map]
  congr 1
  funext t e
  cases e <;> rfl

namespace Verification

open Progress

/-! ## One operation after the other -/

namespace Progress

variable (a : Answers) (p : Progress) (earlier : List Effect)

/-- The progress of an operation, behind the effects of earlier ones. -/
def behind : Progress := { p with effects := earlier ++ p.effects }

theorem begin_behind (v : Verification) :
    (begin v p.source).behind p.effects = { p with verification := v } := by
  simp [begin, behind]

theorem send_behind (step : Step) :
    (p.send a.delivering step).behind earlier = (p.behind earlier).send a.delivering step := by
  simp [send, behind, Answers.delivering]

theorem cancel_behind (content : CancelContent) :
    (p.cancel a.delivering content).behind earlier =
      (p.behind earlier).cancel a.delivering content := by
  have same : (p.behind earlier).verification = p.verification := rfl
  unfold cancel
  rw [same]
  split
  · rfl
  · rw [send_behind]
    rfl

theorem complete_behind (keys : List VerifiableKey) :
    (p.complete a.delivering keys).behind earlier =
      (p.behind earlier).complete a.delivering keys := by
  have user : (p.behind earlier).verification = p.verification := rfl
  unfold complete
  rw [user]
  cases a.delivering.trusting p.verification.theirUser keys with
  | recorded =>
    simp only [send_behind]
    simp [behind, update]
  | refused e =>
    simp only [cancel_behind]
    simp [behind]
  | pending => simp [behind, update]

theorem sends_behind (steps : List Step) :
    (steps.foldl (fun p step => p.send a.delivering step) p).behind earlier =
      steps.foldl (fun p step => p.send a.delivering step) (p.behind earlier) := by
  induction steps generalizing p with
  | nil => rfl
  | cons step steps ih => rw [List.foldl_cons, List.foldl_cons, ih, send_behind]

theorem follow_behind (turn : Sas.Turn) :
    (p.follow a.delivering turn).behind earlier =
      (p.behind earlier).follow a.delivering turn := by
  unfold follow
  simp only [← sends_behind]
  split
  · rfl
  · rw [complete_behind]
  · rw [cancel_behind]

theorem run_behind (turn : Sas.Machine × Sas.Turn) :
    (p.run a.delivering turn).behind earlier = (p.behind earlier).run a.delivering turn :=
  follow_behind a _ earlier turn.2

/-- Performs an operation after earlier ones, where every message is delivered. -/
def next (op : Operation) : Progress :=
  let o := perform a.delivering op p.verification p.source
  ⟨o.verification, o.source, p.effects ++ o.effects⟩

section

variable {a p} {op : Operation} {q : Progress}

theorem next_of_refuse {e : ActionError}
    (h : perform a.delivering op p.verification p.source =
      (begin p.verification p.source).refuse e) : p.next a op = p := by
  simp [next, h, refuse, begin]

theorem next_of_report (h : perform a.delivering op p.verification p.source = q.report) :
    p.next a op = q.behind p.effects := by
  simp [next, h, report, behind]

theorem next_of_silent (h : perform a.delivering op p.verification p.source = q.silent) :
    p.next a op = q.behind p.effects := by
  simp [next, h, silent, behind]

end

/-- Nothing more happens to a verification that is settled. -/
theorem next_of_isSettled (settled : p.verification.IsSettled) (op : Operation) :
    p.next a op = p := by
  obtain ⟨reply, same⟩ := settled.perform_eq a.delivering op p.source
  simp [next, same]

theorem foldl_next_of_isSettled (settled : p.verification.IsSettled) (ops : List Operation) :
    ops.foldl (next a) p = p := by
  induction ops with
  | nil => rfl
  | cons op ops ih => rw [List.foldl_cons, next_of_isSettled a p settled, ih]

theorem isSettled_cancel (content : CancelContent) :
    (p.cancel a content).verification.IsSettled := by
  unfold cancel
  split
  · rename_i terminal
    exact .inl terminal
  · exact .inl (enter_isTerminal _ _)

/-- Two ways to the same progress, but for what is left behind in a verification that is settled. -/
inductive Akin : Progress → Progress → Prop where
  | refl (p : Progress) : Akin p p
  | settled {v w : Verification} {source : KeySource} {effects : List Effect}
      (left : v.IsSettled) (right : w.IsSettled) (state : v.state = w.state) :
      Akin ⟨v, source, effects⟩ ⟨w, source, effects⟩

namespace Akin

variable {a p} {q r : Progress}

theorem trans (h : Akin p q) (h' : Akin q r) : Akin p r := by
  cases h with
  | refl => exact h'
  | settled left right state =>
    cases h' with
    | refl => exact .settled left right state
    | settled _ last state' => exact .settled left last (state.trans state')

/-- What happens to both is the same. -/
theorem next (h : Akin p q) (op : Operation) : Akin (p.next a op) (q.next a op) := by
  cases h with
  | refl => exact .refl _
  | settled left right state =>
    rw [next_of_isSettled a _ left, next_of_isSettled a _ right]
    exact .settled left right state

theorem of_isSettled (left : p.verification.IsSettled) (right : q.verification.IsSettled)
    (state : p.verification.state = q.verification.state) (source : p.source = q.source)
    (effects : p.effects = q.effects) : Akin p q := by
  obtain ⟨v, s, e⟩ := p
  obtain ⟨w, _, _⟩ := q
  obtain rfl : s = _ := source
  obtain rfl : e = _ := effects
  exact .settled left right state

theorem state (h : Akin p q) : p.verification.state = q.verification.state := by
  cases h with
  | refl => rfl
  | settled _ _ state => exact state

theorem effects (h : Akin p q) : p.effects = q.effects := by
  cases h <;> rfl

end Akin

end Progress

/-! ## Runs -/

/-- Where a run got to, and everything that was asked on the way. -/
def Run.progress (r : Run) : Progress := ⟨r.verification, r.source, r.effects⟩

/-- A run in which every message is delivered. -/
theorem Run.progress_steps (a : Answers) (r : Run) (ops : List Operation) :
    (r.steps (ops.map fun op => (op, a.delivering))).progress = ops.foldl (next a) r.progress := by
  induction ops generalizing r with
  | nil => rfl
  | cons op ops ih =>
    have stepped : (r.step (op, a.delivering)).progress = r.progress.next a op := by
      simp [Run.step, Run.progress, Run.extend, Run.effects, Progress.next]
    rw [List.map_cons, List.foldl_cons, ← stepped]
    exact ih _

/-- Two runs that went through the same asked for the same. -/
theorem Run.Same.attempted {r r' : Run} (same : r.Same r') :
    r.effects.map (·.attempted) = r'.effects.map (·.attempted) := by
  obtain ⟨v, source, log⟩ := r
  obtain ⟨v', source', log'⟩ := r'
  have logs : List.Forall₂ Record.Same log log' := same.log
  clear same
  unfold Run.effects
  induction logs with
  | nil => rfl
  | cons record _ ih =>
    rw [List.flatMap_cons, List.flatMap_cons, List.map_append, List.map_append, record.attempted,
      ih]

/-- Events perform the given operations in some order, and the surroundings answer each of them
alike, but for the messages that they deliver. -/
structure Arranges (a : Answers) (ops : List Operation) (events : List (Operation × Answers)) :
    Prop where
  order : (events.map (·.1)).Perm ops
  alike : ∀ e ∈ events, e.2.Alike a

/-- A run ends in a state, and this is what was asked of the surroundings on the way: the steps that
were handed to the routes, and the keys that were to be trusted. A trust store takes the same note
of it. -/
structure Run.Ends (r : Run) (last : State) (asked : List Effect) : Prop where
  state : r.verification.state = last
  effects : r.effects.map (·.attempted) = asked
  store : ∀ (t : TrustAccess) (user : String), t.absorb user r.effects = t.absorb user asked

@[simp] theorem Effect.attempted_attempted (e : Effect) : e.attempted.attempted = e.attempted := by
  cases e <;> rfl

/-- What is delivered makes no difference to where events lead. -/
theorem Arranges.ends {a : Answers} {ops : List Operation} {events : List (Operation × Answers)}
    (h : Arranges a ops events) (v : Verification) (source : KeySource) :
    ((Run.begin v source).steps events).Ends
      ((events.map (·.1)).foldl (next a) (begin v source)).verification.state
      (((events.map (·.1)).foldl (next a) (begin v source)).effects.map (·.attempted)) := by
  have same : List.Forall₂ SameEvent events
      ((events.map (·.1)).map fun op => (op, a.delivering)) := by
    rw [List.map_map, List.forall₂_map_right_iff, List.forall₂_same]
    intro e mem
    exact ⟨rfl, (h.alike e mem).keysOf, (h.alike e mem).trusting⟩
  have runs : ((Run.begin v source).steps events).Same
      ((Run.begin v source).steps ((events.map (·.1)).map fun op => (op, a.delivering))) :=
    Run.Same.steps ⟨rfl, rfl, .nil⟩ same
  have ends := Run.progress_steps a (Run.begin v source) (events.map (·.1))
  have started : (Run.begin v source).progress = begin v source := rfl
  have asked := runs.attempted
  rw [started] at ends
  rw [← ends]
  refine ⟨congrArg Verification.state runs.verification, asked, fun t user => ?_⟩
  show _ = t.absorb user (((Run.begin v source).steps _).effects.map (·.attempted))
  rw [← asked, t.absorb_attempted]

end Verification

end DeviceVerification
