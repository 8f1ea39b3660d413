import Mathlib.Order.Defs.LinearOrder

/-! Instants, time zones and wall clocks.

An instant counts microseconds from the start of 1970, without bounds: a date type holds
the local times of the years 1 to 9999 only (`Clock.Representable`). A zone is an offset in
force from the start and a list of transitions; the wall clock of an instant adds the offset in force.
Reading a wall clock back is ambiguous at a fold and undefined inside a gap;
`fold` picks the reading the way PEP 495 does.
-/

set_option autoImplicit false

namespace Library

abbrev Instant := Int

abbrev Wall := Int

/-- A datetime from outside: with an offset, or a bare wall clock. -/
inductive Timestamp where
  | aware (instant : Instant)
  | naive (wall : Wall)
  deriving DecidableEq, Repr

def Timestamp.instant? : Timestamp → Option Instant
  | aware instant => some instant
  | naive _ => none

namespace Clock

def second : Int := 1000000

def minute : Int := 60 * second

def hour : Int := 60 * minute

def day : Int := 24 * hour

/-- 0001-01-01 00:00:00 -/
def firstWall : Wall := -62135596800 * second

/-- 9999-12-31 23:59:59.999999 -/
def lastWall : Wall := 253402300800 * second - 1

/-- The local times of the years 1 to 9999. -/
def Representable (wall : Wall) : Prop := firstWall ≤ wall ∧ wall ≤ lastWall

instance (wall : Wall) : Decidable (Representable wall) := inferInstanceAs (Decidable (_ ∧ _))

end Clock

structure Zone where
  initial : Int
  transitions : List (Instant × Int)
  ascending : transitions.Pairwise fun earlier later => earlier.1 < later.1

namespace Zone

def fixed (offset : Int) : Zone := ⟨offset, [], .nil⟩

/-- The last entry at or before a point wins; none leaves the value from before. -/
def valueAt (initial : Int) (entries : List (Int × Int)) (point : Int) : Int :=
  entries.foldl (fun value entry => if entry.1 ≤ point then entry.2 else value) initial

variable (zone : Zone)

def offsetAt (t : Instant) : Int := valueAt zone.initial zone.transitions t

def wall (t : Instant) : Wall := t + zone.offsetAt t

def timeOfDay (wall : Wall) : Int := wall % Clock.day

/-- Wall-clock times from which each transition counts. The first reading of a
repeated hour still has the old offset, and so does a time inside a gap. -/
def boundaries (fold : Bool) : Int → List (Instant × Int) → List (Wall × Int)
  | _, [] => []
  | previous, (t, offset) :: rest =>
      (t + (if fold then min previous offset else max previous offset), offset) ::
        boundaries fold offset rest

def wallOffset (wall : Wall) (fold : Bool) : Int :=
  valueAt zone.initial (boundaries fold zone.initial zone.transitions) wall

def instantOf (wall : Wall) (fold : Bool) : Instant := wall - zone.wallOffset wall fold

@[simp] theorem wall_fixed (offset : Int) (t : Instant) : (fixed offset).wall t = t + offset := rfl

end Zone

end Library
