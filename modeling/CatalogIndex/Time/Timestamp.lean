import CatalogIndex.Time.Stamp
/-!
Timestamps: instants as a column holds them, in nanoseconds since 1970 in a signed 64-bit word, and the strict form
of texts in which a column finds them. An instant too far from 1970 for the word wraps around, and the last second
of a month may be written as second 60.
-/
namespace CatalogIndex

def Instant.ofNanos (count : Int64) : Instant where
  seconds := count.toInt / 1000000000
  nanos := (count.toInt % 1000000000).toNat
  inRange := by
    have least := count.le_toInt
    have most := count.toInt_lt
    unfold firstSecond lastSecond
    omega
  nanosFit := by omega

namespace Timestamp

open Stamp (Reader)

def ofSeconds (seconds : Int) (nanos : Nat) : Int64 := Int64.ofInt (seconds * 1000000000 + nanos)

def text (count : Int64) : String := Stamp.encode (.ofNanos count)

/-! ### Reading -/

def mark (c : Char) : Reader Unit
  | first :: rest => if first = c then some ((), rest) else none
  | [] => none

def date : Reader Civil := fun chars => do
  let (century, chars) ← Stamp.twoDigits chars
  let (year, chars) ← Stamp.twoDigits chars
  let ((), chars) ← mark '-' chars
  let (month, chars) ← Stamp.twoDigits chars
  let ((), chars) ← mark '-' chars
  let (day, chars) ← Stamp.twoDigits chars
  let date : Civil := ⟨century * 100 + year, month, day⟩
  if date.exists? then return (date, chars) else none

/-- Date and time may be divided by any character of ASCII. -/
def divider : Reader Unit
  | c :: rest => if c.toNat < 0x80 then some ((), rest) else none
  | [] => none

/-- The zone is `Z` in either case, or a signed offset below a day, in seconds. -/
def zone : Reader Int
  | 'Z' :: rest => some (0, rest)
  | 'z' :: rest => some (0, rest)
  | sign :: rest => do
    if sign ≠ '+' ∧ sign ≠ '-' then none
    let (hours, rest) ← Stamp.twoDigits rest
    let ((), rest) ← mark ':' rest
    let (minutes, rest) ← Stamp.twoDigits rest
    let ahead : Int := hours * 3600 + minutes * 60
    if hours < 24 ∧ minutes < 60 then return (if sign = '-' then -ahead else ahead, rest) else none
  | [] => none

def endsMonth (seconds : Int) : Bool :=
  (seconds + 1) % 86400 == 0 && (Civil.ofDays ((seconds + 1) / 86400)).day == 1

/-- Reads a whole text as a timestamp. Second 60 stands for the last nanosecond of the second before it. -/
def decode? (chars : List Char) : Option Int64 := do
  let (date, chars) ← date chars
  let ((), chars) ← divider chars
  let (hour, chars) ← Stamp.twoDigits chars
  let ((), chars) ← mark ':' chars
  let (minute, chars) ← Stamp.twoDigits chars
  let ((), chars) ← mark ':' chars
  let (second, chars) ← Stamp.twoDigits chars
  let (nanos, chars) ← Stamp.nanosField chars
  let (ahead, chars) ← zone chars
  let atSecond (second : Nat) : Int := date.toDays * 86400 + (hour * 3600 + minute * 60 + second : Nat) - ahead
  if chars ≠ [] ∨ 24 ≤ hour ∨ 60 ≤ minute ∨ 60 < second then none
  else if second < 60 then return ofSeconds (atSecond second) nanos
  else if endsMonth (atSecond 59) then return ofSeconds (atSecond 59) 999999999
  else none

def ofText? (text : String) : Option Int64 := decode? text.toList

/-- The whole seconds since 1970 of a timestamp, rounded toward 1970. -/
def wholeSeconds (count : Int64) : Int64 := count / 1000000000

end Timestamp
end CatalogIndex
