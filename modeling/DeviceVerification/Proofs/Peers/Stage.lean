import DeviceVerification.Protocol.Step

/-!
# How far a side has come

Between two honest sides, what a side has sent and taken so far follows from its `Stage`.
`awaits_of_told` is the heart of their agreement: whatever stages the two sides are at, the next
step under way to one of them is a step that its stage waits for, or a cancellation.
-/

namespace DeviceVerification.Peers

/-- The two sides of a verification. -/
inductive Role where
  | requester
  | responder
  deriving DecidableEq, Repr

/-- The other side. -/
def Role.other : Role → Role
  | .requester => .responder
  | .responder => .requester

@[simp] theorem Role.other_other (role : Role) : role.other.other = role := by
  cases role <;> rfl

theorem Role.other_ne (role : Role) : role.other ≠ role := by
  cases role <;> simp [Role.other]

theorem Role.eq_other {role r : Role} (h : r ≠ role) : r = role.other := by
  cases role <;> cases r <;> first | rfl | exact absurd rfl h

/-- What holds of a side and of the other one holds of both. -/
theorem Role.forall_of {P : Role → Prop} (role : Role) (h : P role) (h' : P role.other) :
    ∀ r, P r := by
  intro r
  cases role <;> cases r <;> assumption

/-- How far a run between two sides has come. -/
inductive Point where
  /-- The start waits for its answer. -/
  | offered
  /-- The start is accepted, and the starting side has revealed its key. -/
  | agreed
  /-- Both keys are known; the flag tells whether the counterpart's MACs are. -/
  | comparing (pending : Bool)
  /-- The MACs went out and the counterpart's did not come in. -/
  | confirmed
  deriving DecidableEq, Repr

/-- How far a side has come. A run has a side that started it and may have come out of a race, in
which both sides sent a start. -/
inductive Stage where
  | requested
  | ready
  | running (starter raced : Bool) (point : Point)
  /-- Our done step went out, and the counterpart's did not come in. -/
  | finishing (starter raced : Bool)
  | finished (starter raced : Bool)
  deriving DecidableEq, Repr

/-- The starts of a side: the side that started sent one, and in a race both did. -/
def starts (starter raced : Bool) : List StepKind := if starter || raced then [.start] else []

/-- What a side sends on the way to the short code. -/
def keys (starter : Bool) : List StepKind := if starter then [.key] else [.accept, .key]

namespace Point

/-- What a side has sent in a run. -/
def sent (starter raced : Bool) : Point → List StepKind
  | .offered => starts starter raced
  | .agreed => starts starter raced ++ [if starter then .key else .accept]
  | .comparing _ => starts starter raced ++ keys starter
  | .confirmed => starts starter raced ++ keys starter ++ [.mac]

/-- What a side has taken in a run. -/
def taken (starter raced : Bool) : Point → List StepKind
  | .offered => starts (!starter) raced
  | .agreed => starts (!starter) raced ++ if starter then [.accept] else []
  | .comparing pending =>
    starts (!starter) raced ++ keys (!starter) ++ if pending then [.mac] else []
  | .confirmed => starts (!starter) raced ++ keys (!starter)

/-- Whether a side waits for a kind of step in a run. The other start is waited for by a side that
has sent its own and does not know of the race. -/
def awaits (starter raced : Bool) : Point → StepKind → Bool
  | .offered, .start => starter && !raced
  | .offered, .accept => starter
  | .agreed, .key => true
  | .comparing pending, .mac => !pending
  | .confirmed, .mac => true
  | _, _ => false

end Point

namespace Stage

/-- What the responder sends, and the requester takes, before a run. -/
def readiness (role : Role) : List StepKind := if role = .responder then [.ready] else []

/-- What a side has sent. -/
def sent (role : Role) : Stage → List StepKind
  | .requested => []
  | .ready => readiness role
  | .running starter raced point => readiness role ++ point.sent starter raced
  | .finishing starter raced => readiness role ++ Point.confirmed.sent starter raced ++ [.done]
  | .finished starter raced => readiness role ++ Point.confirmed.sent starter raced ++ [.done]

/-- What a side has taken. -/
def taken (role : Role) : Stage → List StepKind
  | .requested => []
  | .ready => readiness role.other
  | .running starter raced point => readiness role.other ++ point.taken starter raced
  | .finishing starter raced =>
    readiness role.other ++ Point.confirmed.taken starter raced ++ [.mac]
  | .finished starter raced =>
    readiness role.other ++ Point.confirmed.taken starter raced ++ [.mac, .done]

/-- Whether a side waits for a kind of step. -/
def awaits (role : Role) : Stage → StepKind → Bool
  | .requested, .ready => role = .requester
  | .ready, .start => true
  | .running starter raced point, kind => point.awaits starter raced kind
  | .finishing _ _, .done => true
  | _, _ => false

/-- Whether a stage can be reached by a side: a race is decided for the start of the lower one. -/
def Fits (lower : Bool) : Stage → Prop
  | .running starter raced _ => raced = true → starter = lower
  | .finishing starter raced => raced = true → starter = lower
  | .finished starter raced => raced = true → starter = lower
  | _ => True

instance (lower : Bool) (s : Stage) : Decidable (s.Fits lower) := by
  unfold Fits
  split <;> infer_instance

/-- Every stage. -/
def all : List Stage :=
  let runs (f : Bool → Bool → List Stage) : List Stage :=
    [true, false].flatMap fun starter => [true, false].flatMap fun raced => f starter raced
  [.requested, .ready] ++ runs fun starter raced =>
    [.running starter raced .offered, .running starter raced .agreed,
      .running starter raced (.comparing false), .running starter raced (.comparing true),
      .running starter raced .confirmed, .finishing starter raced, .finished starter raced]

theorem mem_all (s : Stage) : s ∈ all := by
  rcases s with _ | _ | ⟨_ | _, _ | _, _ | _ | (_ | _) | _⟩ | ⟨_ | _, _ | _⟩ | ⟨_ | _, _ | _⟩ <;>
    decide

/-- All pairs of stages whose histories fit together are stages at which the sides wait for what
comes next. -/
theorem awaits_table : ∀ role ∈ [Role.requester, .responder], ∀ lower ∈ [true, false],
    ∀ s ∈ all, ∀ t ∈ all, s.Fits lower → t.Fits (!lower) → t.taken role.other <+: s.sent role →
      ∀ kind ∈ StepKind.all, s.taken role ++ [kind] <+: t.sent role.other →
        s.awaits role kind = true := by
  decide +kernel

/-- Whether a stage awaits a kind of step, or it is a cancellation. -/
def Awaits (role : Role) (s : Stage) (kind : StepKind) : Prop :=
  kind = .cancel ∨ s.awaits role kind = true

/-- What comes next to a side is awaited, if the other side told it all that it took so far and
heard nothing but what this side told. -/
theorem awaits_of_told {role : Role} {lower : Bool} {s t : Stage} {kind : StepKind}
    {told : List StepKind} (fits : s.Fits lower) (fits' : t.Fits (!lower))
    (told_eq : told = t.sent role.other ∨ told = t.sent role.other ++ [.cancel])
    (listened : t.taken role.other <+: s.sent role) (next : s.taken role ++ [kind] <+: told) :
    s.Awaits role kind := by
  have awaited : s.taken role ++ [kind] <+: t.sent role.other → s.Awaits role kind := by
    intro next
    refine .inr (awaits_table role ?_ lower ?_ s (mem_all s) t (mem_all t) fits fits' listened
      kind ?_ next)
    · cases role <;> decide
    · cases lower <;> decide
    · cases kind <;> decide
  rcases told_eq with rfl | rfl
  · exact awaited next
  · rcases List.prefix_concat_iff.1 next with same | next
    · exact .inl (List.append_inj_right' same rfl |> List.singleton_inj.1)
    · exact awaited next

end Stage

end DeviceVerification.Peers
