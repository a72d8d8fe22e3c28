/-!
Outcomes of steps that are made one after another. A sequence of steps has a value only if every step
has one, and then the value of the sequence is that of its last step. A sequence that is refused is refused
for the first of the problems met.
-/

namespace QueryGate.Outcome

variable {ε α β : Type}

theorem bind_eq_ok {first : Except ε α} {next : α → Except ε β} {value : β} :
    (first >>= next) = .ok value ↔ ∃ between, first = .ok between ∧ next between = .ok value := by
  cases first with
  | error problem => simp [bind, Except.bind]
  | ok between => simp [bind, Except.bind]

theorem map_eq_ok {outcome : Except ε α} {change : α → β} {value : β} :
    outcome.map change = .ok value ↔ ∃ before, outcome = .ok before ∧ change before = value := by
  cases outcome with
  | error problem => simp [Except.map]
  | ok before => simp [Except.map]

/-! ## Problems in other words -/

variable {ε' : Type}

@[simp]
theorem mapError_eq_ok {outcome : Except ε α} {change : ε → ε'} {value : α} :
    outcome.mapError change = .ok value ↔ outcome = .ok value := by
  cases outcome with
  | error problem => exact iff_of_false nofun nofun
  | ok before =>
    constructor
    · exact fun same => congrArg Except.ok (Except.ok.inj same)
    · exact fun same => congrArg Except.ok (Except.ok.inj same)

theorem mapError_bind (first : Except ε α) (next : α → Except ε β) (change : ε → ε') :
    (first >>= next).mapError change =
      first.mapError change >>= fun value => (next value).mapError change := by
  cases first <;> rfl

theorem mapError_map (outcome : Except ε α) (become : α → β) (change : ε → ε') :
    (outcome.map become).mapError change = (outcome.mapError change).map become := by
  cases outcome <;> rfl

/-! ## What holds of outcomes -/

def Meets (fine : α → Prop) (due : ε → Prop) : Except ε α → Prop
  | .ok value => fine value
  | .error problem => due problem

theorem Meets.bind {fine : α → Prop} {done : β → Prop} {due : ε → Prop} {first : Except ε α}
    {next : α → Except ε β} (met : Meets fine due first)
    (later : ∀ value, fine value → Meets done due (next value)) : Meets done due (first >>= next) := by
  cases first with
  | error problem => exact met
  | ok value => exact later value met

theorem Meets.map {fine : α → Prop} {done : β → Prop} {due : ε → Prop} {outcome : Except ε α} {change : α → β}
    (met : Meets fine due outcome) (changed : ∀ value, fine value → done (change value)) :
    Meets done due (outcome.map change) := by
  cases outcome with
  | error problem => exact met
  | ok value => exact changed value met

/-! ## Problems that are known -/

def refuseIf (problem : Option ε) (value : α) : Except ε α :=
  match problem with
  | some problem => .error problem
  | none => .ok value

theorem refuseIf_bind {first second : Option ε} {value : α} {next : α → Except ε β} {result : β}
    (later : next value = refuseIf second result) :
    (refuseIf first value >>= next) = refuseIf (first.or second) result := by
  cases first with
  | some problem => rfl
  | none => exact later

theorem refuseIf_bind_ok (problem : Option ε) (value : α) (change : α → β) :
    (refuseIf problem value >>= fun result => .ok (change result)) = refuseIf problem (change value) := by
  cases problem <;> rfl

theorem refuseIf_eq_ok {problem : Option ε} {value result : α} :
    refuseIf problem value = .ok result ↔ problem = none ∧ value = result := by
  cases problem <;> simp [refuseIf]

end QueryGate.Outcome
