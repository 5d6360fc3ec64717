import CatalogIndex.Proofs.Stamps
import CatalogIndex.Time.Timestamp
/-!
A column that takes a text for a timestamp shows it by another spelling. The strict reader of the column and the
lenient one of the values agree on every text that both of them take, so the other spelling is read as the same
instant, as long as the instant fits the column.
-/
namespace CatalogIndex

/-- Whether a column can hold an instant: it lies in the years 1678 to 2261 and in no leap second. -/
structure Instant.Held (instant : Instant) : Prop where
  after : Civil.toDays ⟨1678, 1, 1⟩ * 86400 ≤ instant.seconds
  before : instant.seconds < Civil.toDays ⟨2262, 1, 1⟩ * 86400
  ordinary : instant.nanos < 1000000000

theorem Instant.of_ofParts? {seconds : Int} {nanos : Nat} {instant : Instant}
    (made : ofParts? seconds nanos = some instant) : instant.seconds = seconds ∧ instant.nanos = nanos := by
  unfold ofParts? at made
  split at made
  · split at made
    · cases made
      exact ⟨rfl, rfl⟩
    · cases made
  · cases made

theorem Instant.Held.ofNanos {instant : Instant} (held : instant.Held) :
    ofNanos (Timestamp.ofSeconds instant.seconds instant.nanos) = instant := by
  obtain ⟨seconds, nanos, inRange, nanosFit⟩ := instant
  obtain ⟨after, before, ordinary⟩ := held
  have first : Civil.toDays ⟨1678, 1, 1⟩ = -106650 := rfl
  have last : Civil.toDays ⟨2262, 1, 1⟩ = 106651 := rfl
  rw [first] at after
  rw [last] at before
  simp only at after before ordinary
  have least : Int64.minValue.toInt ≤ seconds * 1000000000 + nanos := by
    rw [Int64.toInt_minValue]
    omega
  have most : seconds * 1000000000 + nanos < 2 ^ 63 := by omega
  have count : (Timestamp.ofSeconds seconds nanos).toInt = seconds * 1000000000 + nanos :=
    Int64.toInt_ofInt_of_le least most
  unfold Instant.ofNanos
  simp only [count, Instant.mk.injEq]
  omega

namespace Timestamp

open Numeral (stops_cons)

/-! ### Parts that both readers take -/

section

variable {n m : Nat} {c : Char} {chars middle rest : List Char}

theorem of_twoDigits (reads : Stamp.twoDigits chars = some (n, rest)) :
    ∃ run, run.all Numeral.isDigit = true ∧ run.length = 2 ∧ chars = run ++ rest ∧ n = Numeral.value run := by
  match chars with
  | [] => cases reads
  | [_] => cases reads
  | a :: b :: later =>
    simp only [Stamp.twoDigits] at reads
    split at reads
    · rename_i digits
      cases reads
      exact ⟨[a, b], by simpa using digits, rfl, rfl, rfl⟩
    · cases reads

theorem field_of_twoDigits (reads : Stamp.twoDigits chars = some (n, rest)) : Stamp.field 2 chars = some (n, rest) := by
  obtain ⟨run, digits, length, rfl, rfl⟩ := of_twoDigits reads
  have some := List.ne_nil_of_length_eq_add_one length
  unfold Stamp.field
  rw [Numeral.skip_of_run digits some, Stamp.number_of_run digits some (Nat.le_of_eq length) (.inl length)]

theorem yearField_of_twoDigits (century : Stamp.twoDigits chars = some (n, middle))
    (year : Stamp.twoDigits middle = some (m, rest)) :
    Stamp.yearField chars = some ((n : Int) * 100 + m, rest) := by
  obtain ⟨first, firstDigits, firstLength, rfl, rfl⟩ := of_twoDigits century
  obtain ⟨second, secondDigits, secondLength, rfl, rfl⟩ := of_twoDigits year
  have digits : (first ++ second).all Numeral.isDigit = true := by
    rw [List.all_append, firstDigits, secondDigits]
    rfl
  have length : (first ++ second).length = 4 := by
    rw [List.length_append, firstLength, secondLength]
  have value : (Numeral.value (first ++ second) : Int) = Numeral.value first * 100 + Numeral.value second := by
    rw [Numeral.value_append, secondLength]
    omega
  match first, firstLength with
  | a :: later, _ =>
    have isDigit : Numeral.isDigit a = true := List.all_eq_true.1 firstDigits a List.mem_cons_self
    have read := Stamp.number_of_run digits (List.cons_ne_nil a _) (Nat.le_of_eq length)
      (.inl length : _ ∨ Numeral.Stops rest)
    rw [List.append_assoc] at read
    rw [List.cons_append, Stamp.yearField_digit isDigit, ← List.cons_append, read, Option.map_some, value]

theorem mark_of_mark (solid : Blank.isBlank c = false) (reads : mark c chars = some ((), rest)) :
    Stamp.mark c chars = some ((), rest) := by
  cases chars with
  | nil => cases reads
  | cons first later =>
    simp only [mark] at reads
    split at reads
    · rename_i same
      cases reads
      rw [same, Stamp.mark_self solid]
    · cases reads

theorem dateField_of_date {day : Civil} (reads : date chars = some (day, rest)) :
    Stamp.dateField chars = some (day, rest) := by
  have dash : Blank.isBlank '-' = false := rfl
  unfold date at reads
  simp only [Option.bind_eq_bind, Option.bind_eq_some_iff, Prod.exists] at reads
  obtain ⟨century, _, centuryRead, year, _, yearRead, _, _, firstDash, month, _, monthRead, _, _, secondDash, number, _,
    dayRead, found⟩ := reads
  split at found
  · cases found
    unfold Stamp.dateField
    simp only [yearField_of_twoDigits centuryRead yearRead, mark_of_mark dash firstDash, field_of_twoDigits monthRead,
      mark_of_mark dash secondDash, field_of_twoDigits dayRead, Option.bind_eq_bind, Option.bind_some]
    rfl
  · cases found

theorem offset_of_parts {hours minutes : Nat} {late : List Char}
    (hoursRead : Stamp.twoDigits chars = some (hours, middle)) (colon : mark ':' middle = some ((), late))
    (minutesRead : Stamp.twoDigits late = some (minutes, rest))
    (fits : hours < 24 ∧ minutes < 60) (sign : Int) :
    Stamp.offset sign chars = some (sign * (hours * 3600 + minutes * 60 : Nat), rest) := by
  -- The lenient reader skips colons and blanks of any number; here it is one colon, since a digit comes next.
  have begins : middle.dropWhile (fun c => c == ':' || Blank.isBlank c) = late := by
    obtain ⟨run, digits, length, rfl, -⟩ := of_twoDigits minutesRead
    match middle, run, length, colon with
    | first :: later, a :: others, _, colon =>
      simp only [mark] at colon
      split at colon
      · rename_i same
        cases colon
        have isDigit : Numeral.isDigit a = true := List.all_eq_true.1 digits a List.mem_cons_self
        have other : (a == ':') = false := by
          rw [beq_eq_false_iff_ne]
          rintro rfl
          cases isDigit
        rw [same, List.dropWhile_cons_of_pos (by decide), List.cons_append,
          List.dropWhile_cons_of_neg (by simp [other, Numeral.isBlank_of_isDigit isDigit])]
      · cases colon
  unfold Stamp.offset
  simp only [hoursRead, begins, minutesRead, Option.bind_eq_bind, Option.bind_some]
  rw [if_pos ⟨fits.2, fits.1⟩]
  rfl

/-- A zone is `Z` or a sign, two digits, a colon and two digits, and both readers take it the same way. -/
theorem zoneField_of_zone {ahead : Int} (reads : zone chars = some (ahead, rest)) :
    Stamp.zoneField chars = some (ahead, rest) := by
  unfold zone at reads
  split at reads
  · cases reads
    rfl
  · cases reads
    rfl
  · rename_i sign later notUpper notLower
    by_cases minus : sign = '-'
    · simp only [minus, ne_eq, not_true_eq_false, and_false, if_false, if_true, Option.bind_eq_bind,
        Option.bind_eq_some_iff, Prod.exists] at reads
      obtain ⟨hours, _, hoursRead, _, _, colon, minutes, _, minutesRead, found⟩ := reads
      split at found
      · rename_i fits
        cases found
        rw [minus]
        change Stamp.offset (-1) later = _
        rw [offset_of_parts hoursRead colon minutesRead fits, Int.neg_one_mul]
        rfl
      · cases found
    · by_cases plus : sign = '+'
      · simp only [plus, ne_eq, not_true_eq_false, false_and, if_false, Option.bind_eq_bind, Option.bind_eq_some_iff,
          Prod.exists] at reads
        obtain ⟨hours, _, hoursRead, _, _, colon, minutes, _, minutesRead, found⟩ := reads
        split at found
        · rename_i fits
          cases found
          rw [plus]
          change Stamp.offset 1 later = _
          rw [offset_of_parts hoursRead colon minutesRead fits, Int.one_mul]
          rfl
        · cases found
      · simp [minus, plus] at reads
  · cases reads

theorem divider_agree {left right : List Char} (strict : divider chars = some ((), left))
    (lenient : Stamp.divider chars = some ((), right)) : right = left := by
  unfold Stamp.divider at lenient
  split at lenient
  all_goals
    cases lenient
    try exact (Prod.mk.inj (Option.some.inj strict)).2

end

/-- The count that the strict reader finds in a text is that of the instant that the lenient one finds there, unless it
is a leap second. -/
theorem eq_ofSeconds {chars : List Char} {count : Int64} {instant : Instant} (strict : decode? chars = some count)
    (lenient : Stamp.decode? chars = some instant) (ordinary : instant.nanos < 1000000000) :
    count = ofSeconds instant.seconds instant.nanos := by
  have colon : Blank.isBlank ':' = false := rfl
  unfold decode? at strict
  simp only [Option.bind_eq_bind, Option.bind_eq_some_iff, Prod.exists] at strict
  obtain ⟨day, _, dayRead, _, afterDivider, divided, hour, _, hourRead, _, _, firstColon, minute, _, minuteRead, _, _,
    secondColon, second, _, secondRead, nanos, _, nanosRead, ahead, rest, zoneRead, found⟩ := strict
  unfold Stamp.decode? at lenient
  simp only [dateField_of_date dayRead, Option.bind_eq_bind, Option.bind_some, Option.bind_eq_some_iff,
    Prod.exists] at lenient
  obtain ⟨_, chars, otherDivided, lenient⟩ := lenient
  rw [divider_agree divided otherDivided] at lenient
  unfold Stamp.clockField at lenient
  simp only [field_of_twoDigits hourRead, mark_of_mark colon firstColon, field_of_twoDigits minuteRead,
    mark_of_mark colon secondColon, field_of_twoDigits secondRead, nanosRead, Option.bind_eq_bind,
    Option.bind_some] at lenient
  obtain ⟨inDay, part, late, clocked, otherAhead, last, zoned, lenient⟩ := lenient
  -- By now both readers have taken the same parts; a leap second is where they part ways.
  by_cases bounds : hour < 24 ∧ minute < 60 ∧ second ≤ 60
  · rw [if_pos bounds] at clocked
    by_cases leap : second = 60
    · rw [if_pos leap] at clocked
      cases clocked
      split at lenient
      · have tooLate := (Instant.of_ofParts? lenient).2
        omega
      · cases lenient
    · rw [if_neg leap] at clocked
      cases clocked
      cases (zoneField_of_zone zoneRead).symm.trans zoned
      split at lenient
      · obtain ⟨seconds, parts⟩ := Instant.of_ofParts? lenient
        split at found
        · cases found
        · rw [if_pos (by omega)] at found
          cases found
          rw [seconds, parts]
      · cases lenient
  · rw [if_neg bounds] at clocked
    cases clocked

theorem ofText?_text (count : Int64) : Stamp.ofText? (text count) = some (.ofNanos count) := Stamp.ofText?_encode _

/-- A text that is respelled by a column is still read as the same instant, if the column can hold that. -/
theorem ofText?_respelled {source : String} {count : Int64} {instant : Instant} (strict : ofText? source = some count)
    (lenient : Stamp.ofText? source = some instant) (held : instant.Held) :
    Stamp.ofText? (text count) = some instant := by
  have same := eq_ofSeconds strict lenient held.ordinary
  rw [ofText?_text, same, held.ofNanos]

end Timestamp
end CatalogIndex
