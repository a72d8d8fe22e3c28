import QueryGate.Proofs.Calendar.Timestamps
import QueryGate.Value.DateInput
/-!
Dates that were read. Whatever a moment is read from, it has an offset, and reading it again, or reading
that there is none, changes nothing.
-/

namespace QueryGate

open QueryGate.Calendar

theorem isAware_inUniversalTime (moment : Moment) : moment.inUniversalTime.isAware = true := rfl

theorem inUniversalTime_of_isAware {moment : Moment} (aware : moment.isAware = true) :
    moment.inUniversalTime = moment := by
  rcases moment with ⟨date, clock, offset⟩
  obtain ⟨offset, rfl⟩ := Option.isSome_iff_exists.mp aware
  rfl

theorem isAware_of_momentOfSeconds {seconds : Int} {microsecond : Nat} {moment : Moment}
    (read : momentOfSeconds seconds microsecond = .ok moment) : moment.isAware = true := by
  rw [Moment.isAware, (wallMicroseconds_of_momentOfSeconds read).1]
  rfl

private theorem isAware_of_momentOfDouble {seconds : Double} {moment : Moment}
    (read : momentOfDouble seconds = .ok moment) : moment.isAware = true := by
  unfold momentOfDouble at read
  split at read
  next => cases read
  next =>
    split at read
    next => cases read
    next => exact isAware_of_momentOfSeconds read

theorem timestampOutcome_eq_ok {number : Atom} {read : Except TimestampError Moment} {moment : Moment} :
    timestampOutcome number read = .ok (some moment) ↔ read = .ok moment := by
  cases read <;> simp [timestampOutcome]

namespace Value

theorem isAware_of_toMoment? {value : Value} {found : Option Moment}
    (read : value.toMoment? = .ok found) : ∀ moment ∈ found, moment.isAware = true := by
  intro moment same
  obtain rfl := Option.mem_def.mp same
  unfold toMoment? at read
  split at read
  next => cases read
  next =>
    split at read
    next =>
      rw [← Option.some.inj (Except.ok.inj read)]
      exact isAware_inUniversalTime _
    next => cases read
    next => exact isAware_of_momentOfSeconds (timestampOutcome_eq_ok.mp read)
    next => exact isAware_of_momentOfDouble (timestampOutcome_eq_ok.mp read)
    next chars =>
      split at read
      next spelled =>
        rw [← Option.some.inj (Except.ok.inj read)]
        obtain ⟨spelledMoment, -, rfl⟩ := Option.map_eq_some_iff.mp spelled
        exact isAware_inUniversalTime spelledMoment
      next => cases read
    next => cases read

theorem toMoment?_ofMoment? {found : Option Moment}
    (aware : ∀ moment ∈ found, moment.isAware = true) : (ofMoment? found).toMoment? = .ok found := by
  cases found with
  | none => rfl
  | some moment =>
    have kept := inUniversalTime_of_isAware (aware moment rfl)
    show Except.ok (some moment.inUniversalTime) = _
    rw [kept]

end Value

end QueryGate
