import QueryGate.Calendar.Timestamp
import QueryGate.Proofs.Calendar.Days
/-!
Timestamps as moments. A timestamp names the moment in universal time that lies so many seconds after the
epoch, and no other; it names one exactly if that falls in the supported years. A day later the clock shows
the same on the next date.
-/

namespace QueryGate.Calendar

def epoch : Moment := ⟨⟨1970, 1, 1, by decide⟩, Clock.midnight, some Offset.utc⟩

/-! ## Times of day -/

namespace Clock

private theorem seconds_lt (clock : Clock) : clock.seconds < 86400 := by
  have ⟨hour, minute, second, _⟩ := clock.valid
  unfold seconds
  omega

theorem ofParts?_eq_some_iff {hour minute second microsecond : Nat} {clock : Clock} :
    ofParts? hour minute second microsecond = some clock ↔
      clock.hour = hour ∧ clock.minute = minute ∧ clock.second = second ∧
        clock.microsecond = microsecond := by
  constructor
  · intro made
    unfold ofParts? at made
    split at made
    next => cases made; exact ⟨rfl, rfl, rfl, rfl⟩
    next => cases made
  · rintro ⟨rfl, rfl, rfl, rfl⟩
    exact dif_pos clock.valid

/-- Splitting the seconds of a day gives the time of day with so many seconds before it. -/
theorem ofParts?_seconds_iff {inDay microsecond : Nat} {clock : Clock} :
    ofParts? (inDay / 3600) (inDay / 60 % 60) (inDay % 60) microsecond = some clock ↔
      clock.seconds = inDay ∧ clock.microsecond = microsecond := by
  have ⟨_, minute, second, _⟩ := clock.valid
  rw [ofParts?_eq_some_iff, seconds]
  omega

private theorem exists_seconds {inDay microsecond : Nat} (short : inDay < 86400)
    (fraction : microsecond < 1000000) :
    ∃ clock : Clock, clock.seconds = inDay ∧ clock.microsecond = microsecond := by
  have valid : IsClock (inDay / 3600) (inDay / 60 % 60) (inDay % 60) microsecond := by
    unfold IsClock
    omega
  exact ⟨_, ofParts?_seconds_iff.mp (dif_pos valid)⟩

end Clock

/-! ## Moments -/

theorem epoch_wallMicroseconds : epoch.wallMicroseconds = 719162 * 86400000000 := by decide

/-- The day, the second of the day and the microsecond that a moment shows, each within its unit. -/
theorem Moment.wallMicroseconds_parts (moment : Moment) :
    moment.wallMicroseconds = moment.date.dayNumber * 86400000000 + moment.clock.seconds * 1000000 +
        moment.clock.microsecond ∧
      moment.date.dayNumber < 3652059 ∧ moment.clock.seconds < 86400 ∧
      moment.clock.microsecond < 1000000 := by
  refine ⟨?_, moment.date.dayNumber_lt, moment.clock.seconds_lt, moment.clock.valid.2.2.2⟩
  unfold wallMicroseconds
  omega

private theorem Moment.wallMicroseconds_next (moment : Moment) {later : Date}
    (next : moment.date.next? = some later) :
    { moment with date := later }.wallMicroseconds = moment.wallMicroseconds + dayMicroseconds := by
  have day := Date.dayNumber_of_next? next
  rw [(wallMicroseconds_parts _).1, (wallMicroseconds_parts moment).1, dayMicroseconds]
  dsimp only
  omega

theorem wallMicroseconds_of_momentOfSeconds {seconds : Int} {microsecond : Nat} {moment : Moment}
    (read : momentOfSeconds seconds microsecond = .ok moment) :
    moment.offset = some Offset.utc ∧
      moment.wallMicroseconds = epoch.wallMicroseconds + seconds * 1000000 + microsecond := by
  unfold momentOfSeconds at read
  split at read
  next => cases read
  next =>
    dsimp only at read
    split at read
    next => cases read
    next =>
      split at read
      next date clock foundDate foundClock =>
        obtain rfl := Except.ok.inj read
        have day := Date.ofDayNumber?_eq_some_iff.mp foundDate
        have time := Clock.ofParts?_seconds_iff.mp foundClock
        refine ⟨rfl, ?_⟩
        rw [(Moment.wallMicroseconds_parts _).1, epoch_wallMicroseconds]
        rw [epochDay] at day
        dsimp only
        omega
      next => cases read

/-- A timestamp names the moment in universal time at that distance from the epoch, and no other. -/
theorem momentOfSeconds_eq_ok_iff {seconds : Int} {microsecond : Nat} (fraction : microsecond < 1000000)
    {moment : Moment} :
    momentOfSeconds seconds microsecond = .ok moment ↔
      moment.offset = some Offset.utc ∧
        moment.wallMicroseconds = epoch.wallMicroseconds + seconds * 1000000 + microsecond := by
  refine ⟨wallMicroseconds_of_momentOfSeconds, ?_⟩
  rintro ⟨universal, distance⟩
  obtain ⟨parts, within, inDay, small⟩ := moment.wallMicroseconds_parts
  rw [parts, epoch_wallMicroseconds] at distance
  have day : 719162 + seconds / 86400 = moment.date.dayNumber := by omega
  have time : (seconds % 86400).toNat = moment.clock.seconds := by omega
  have rest : moment.clock.microsecond = microsecond := by omega
  -- a date of the supported years is far inside of what the clock and its years can count
  have onClock : ¬((decide (seconds < clockRange.1) || decide (clockRange.2 < seconds)) = true) := by
    rw [Bool.or_eq_true, decide_eq_true_eq, decide_eq_true_eq]
    simp only [clockRange]
    omega
  have inYears : ¬((decide ((moment.date.year : Int) < yearRange.1) ||
      decide (yearRange.2 < (moment.date.year : Int))) = true) := by
    have ⟨_, supported, _⟩ := moment.date.valid
    rw [Bool.or_eq_true, decide_eq_true_eq, decide_eq_true_eq]
    simp only [yearRange, yearBase, lastYear] at supported ⊢
    omega
  simp only [momentOfSeconds, epochDay, time, day, Date.civilYear_dayNumber, if_neg onClock,
    if_neg inYears, Date.ofDayNumber?_dayNumber, Clock.ofParts?_seconds_iff.mpr ⟨rfl, rest⟩]
  rw [← universal]

theorem momentOfInt_eq_ok_iff {seconds : Int} {moment : Moment} :
    momentOfInt seconds = .ok moment ↔
      moment.offset = some Offset.utc ∧ moment.instant = epoch.instant + seconds * 1000000 := by
  rw [momentOfInt, momentOfSeconds_eq_ok_iff (by decide)]
  apply and_congr_right
  intro universal
  simp only [Moment.instant, universal]
  show _ ↔ moment.wallMicroseconds - 0 = epoch.wallMicroseconds - 0 + _
  omega

/-- The supported years, counted in seconds from the epoch. -/
theorem exists_momentOfInt_iff {seconds : Int} :
    (∃ moment, momentOfInt seconds = .ok moment) ↔
      -62135596800 ≤ seconds ∧ seconds ≤ 253402300799 := by
  constructor
  · rintro ⟨moment, read⟩
    obtain ⟨-, distance⟩ := wallMicroseconds_of_momentOfSeconds read
    obtain ⟨parts, within, inDay, small⟩ := moment.wallMicroseconds_parts
    rw [parts, epoch_wallMicroseconds] at distance
    omega
  · rintro ⟨low, high⟩
    have within : (719162 + seconds / 86400).toNat < dayCount := by
      rw [dayCount_eq]
      omega
    obtain ⟨date, day⟩ := Date.exists_dayNumber within
    obtain ⟨clock, time, whole⟩ := Clock.exists_seconds
      (show (seconds % 86400).toNat < 86400 by omega) (show 0 < 1000000 by decide)
    refine ⟨⟨date, clock, some Offset.utc⟩, (momentOfSeconds_eq_ok_iff (by decide)).mpr ⟨rfl, ?_⟩⟩
    rw [(Moment.wallMicroseconds_parts _).1, epoch_wallMicroseconds, day, time, whole]
    omega

/-- A day later the clock shows the same on the next date. -/
theorem momentOfInt_next_day {seconds : Int} {moment : Moment} {later : Date}
    (read : momentOfInt seconds = .ok moment) (next : moment.date.next? = some later) :
    momentOfInt (seconds + 86400) = .ok { moment with date := later } := by
  obtain ⟨universal, distance⟩ := momentOfInt_eq_ok_iff.mp read
  refine momentOfInt_eq_ok_iff.mpr ⟨universal, ?_⟩
  have shifted := Moment.wallMicroseconds_next moment next
  simp only [Moment.instant, dayMicroseconds] at distance shifted ⊢
  omega

end QueryGate.Calendar
