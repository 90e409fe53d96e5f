/-
Instants and spans.

* `Instant`: a point in time, in nanoseconds from the start of 1 January 1970, Greenwich;
* `Instant.day`, `Instant.nanosOfDay`, `Instant.date`: its day and the time of that day;
* `Instant.ofDate`: the instant at a time of a date;
* `Instant.addSpan?`, `Instant.addMonths?`: later or earlier instants, as far as dates go;
* `Span.seconds`, `Span.nanos`: a span by its seconds and what they leave;
* `Instant.ofDay_day_nanosOfDay`: an instant is its time of day on its day.
-/
import ChatCommand.Time.Calendar

namespace ChatCommand

def nanosPerSecond : Int := 1000000000

def nanosPerDay : Int := 86400 * nanosPerSecond

/-- A length of time in nanoseconds, which may be negative. -/
structure Span where
  total : Int
deriving DecidableEq

namespace Span

/-- The whole seconds, with the fraction dropped. -/
def seconds (s : Span) : Int := s.total.tdiv nanosPerSecond

/-- The nanoseconds beside the whole seconds, with the sign of the span. -/
def nanos (s : Span) : Int := s.total.tmod nanosPerSecond

def ofSeconds (n : Int) : Span := ⟨n * nanosPerSecond⟩

end Span

/-- A point in time, in nanoseconds from the start of 1 January 1970, Greenwich. -/
structure Instant where
  total : Int
deriving DecidableEq

namespace Instant

instance : LT Instant := ⟨fun a b => a.total < b.total⟩

instance (a b : Instant) : Decidable (a < b) :=
  inferInstanceAs (Decidable (a.total < b.total))

/-- The number of the day, 1 January 1970 being 0. -/
def day (i : Instant) : Int := i.total / nanosPerDay

/-- The nanoseconds since the start of the day. -/
def nanosOfDay (i : Instant) : Int := i.total % nanosPerDay

def date (i : Instant) : Date := Date.ofDays i.day

/-- The seconds since the start of 1970, rounded down. -/
def unixSeconds (i : Instant) : Int := i.total / nanosPerSecond

/-- The nanoseconds since the last full second. -/
def subsecond (i : Instant) : Int := i.total % nanosPerSecond

/-- The instant so many nanoseconds into a day. -/
def ofDay (day nanosOfDay : Int) : Instant := ⟨day * nanosPerDay + nanosOfDay⟩

def ofDate (date : Date) (nanosOfDay : Int) : Instant := ofDay date.toDays nanosOfDay

/-- Whether the instant falls on a date. -/
def HasDate (i : Instant) : Prop := Date.firstDay ≤ i.day ∧ i.day ≤ Date.lastDay

instance (i : Instant) : Decidable i.HasDate :=
  inferInstanceAs (Decidable (Date.firstDay ≤ i.day ∧ i.day ≤ Date.lastDay))

/-- The instant a span later, if it falls on a date. -/
def addSpan? (i : Instant) (s : Span) : Option Instant :=
  let later : Instant := ⟨i.total + s.total⟩
  if later.HasDate then some later else none

/-- The same time of day some months on, if there is such a date. -/
def addMonths? (i : Instant) (months : Int) : Option Instant :=
  if months = 0 then some i
  else (i.date.addMonths? months).map (ofDate · i.nanosOfDay)

/-- The span from one instant to another. -/
def since (later earlier : Instant) : Span := ⟨later.total - earlier.total⟩

/-! ### Days and times of day -/

theorem day_ofDay {nanosOfDay : Int} (h₀ : 0 ≤ nanosOfDay) (h₁ : nanosOfDay < nanosPerDay)
    (day : Int) : (ofDay day nanosOfDay).day = day := by
  simp only [Instant.day, ofDay, nanosPerDay, nanosPerSecond] at *
  omega

theorem nanosOfDay_ofDay {nanos : Int} (h₀ : 0 ≤ nanos) (h₁ : nanos < nanosPerDay)
    (day : Int) : (ofDay day nanos).nanosOfDay = nanos := by
  simp only [Instant.nanosOfDay, ofDay, nanosPerDay, nanosPerSecond] at *
  omega

/-- An instant is its time of day on its day. -/
theorem ofDay_day_nanosOfDay (i : Instant) : ofDay i.day i.nanosOfDay = i := by
  obtain ⟨total⟩ := i
  simp only [ofDay, Instant.day, Instant.nanosOfDay, Instant.mk.injEq, nanosPerDay,
    nanosPerSecond]
  omega

end Instant

end ChatCommand
