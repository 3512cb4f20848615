/-!
# Points in time

The manifest of a run is dated with a point in time in ISO form: date and time in UTC, to the
microsecond. A whole second is written without its microseconds.
-/

namespace ConfigTables

/-- A point in time in UTC. -/
structure UtcTime where
  year : Nat
  month : Nat
  day : Nat
  hour : Nat
  minute : Nat
  second : Nat
  microsecond : Nat
  deriving DecidableEq, Repr

namespace UtcTime

/-- A number with zeros in front up to the given number of digits. -/
def padded (width n : Nat) : String :=
  String.ofList ((Nat.toDigits 10 n).leftpad width '0')

/-- A point in time in ISO form. -/
def isoText (t : UtcTime) : String :=
  padded 4 t.year ++ "-" ++ padded 2 t.month ++ "-" ++ padded 2 t.day ++ "T" ++
    padded 2 t.hour ++ ":" ++ padded 2 t.minute ++ ":" ++ padded 2 t.second ++
    (if t.microsecond = 0 then "" else "." ++ padded 6 t.microsecond) ++ "+00:00"

end UtcTime

end ConfigTables
