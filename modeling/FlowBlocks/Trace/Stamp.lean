import FlowBlocks.Trace.Event
/-!
Moments in the form `2006-01-02T15:04:05.000000+01:00`. The calendar is the Gregorian one throughout.
-/
namespace FlowBlocks.Trace

/-- A number on at least `width` digits, behind a minus sign where one is due. -/
def padded (width : Nat) (n : Int) : Bytes :=
  let digits := decimal n.natAbs
  (if n < 0 then [byte '-'] else []) ++
    List.replicate (width - digits.length) (byte '0') ++ digits

/-- Year, month and day of a day counted from 1970. A year is counted from March, in eras of 400 years. -/
def calendar (day : Int) : Int × Int × Int :=
  let z := day + 719468
  let era := Int.fdiv z 146097
  let inEra := Int.fmod z 146097
  let year := (inEra - inEra / 1460 + inEra / 36524 - inEra / 146096) / 365
  let inYear := inEra - (365 * year + year / 4 - year / 100)
  let month := (5 * inYear + 2) / 153
  let dayOfMonth := inYear - (153 * month + 2) / 5 + 1
  let civilMonth := if month < 10 then month + 3 else month - 9
  (year + era * 400 + (if civilMonth ≤ 2 then 1 else 0), civilMonth, dayOfMonth)

namespace Stamp

/-- The offset from UTC: `Z` for none, else hours and minutes, seconds cut off. -/
def zone (offset : Int) : Bytes :=
  if offset = 0 then bytes "Z"
  else
    let minutes := Int.tdiv offset 60
    [if minutes < 0 then byte '-' else byte '+'] ++ padded 2 (minutes.natAbs / 60) ++ bytes ":" ++
      padded 2 (minutes.natAbs % 60)

/-- The first moment of the calendar, the first of March of a year far in the past, in seconds from
1970. -/
def firstMoment : Int := -9223372028741760000

/-- A moment within the calendar, which is 2^64 seconds long. One beyond its end is taken to come round
again. -/
def comeRound (sec : Int) : Int := firstMoment + Int.fmod (sec - firstMoment) 0x10000000000000000

/-- Date, time to the microsecond, and zone. -/
def render (t : Stamp) : Bytes :=
  let sec := comeRound (t.sec + Int.fdiv t.nsec 1000000000 + t.offset)
  let nsec := Int.fmod t.nsec 1000000000
  let (year, month, day) := calendar (Int.fdiv sec 86400)
  let ofDay := Int.fmod sec 86400
  padded 4 year ++ bytes "-" ++ padded 2 month ++ bytes "-" ++ padded 2 day ++ bytes "T" ++
    padded 2 (ofDay / 3600) ++ bytes ":" ++ padded 2 (ofDay / 60 % 60) ++ bytes ":" ++
    padded 2 (ofDay % 60) ++ bytes "." ++ padded 6 (nsec / 1000) ++ zone t.offset

end Stamp

end FlowBlocks.Trace
