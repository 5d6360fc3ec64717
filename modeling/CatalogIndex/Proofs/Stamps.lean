import CatalogIndex.Proofs.Calendar
import CatalogIndex.Proofs.Numerals
import CatalogIndex.Time.Stamp
/-!
The written form of an instant is read as that instant, for every instant there is. Each part of the text is followed
by a character that ends it, so the parts are read one by one and the calendar brings the date back to its day.
-/
namespace CatalogIndex.Stamp

open Numeral (Stops stops_cons)

section

variable {limit width n : Nat} {run rest : List Char}

theorem number_of_run (digits : run.all Numeral.isDigit = true) (some : run ≠ []) (fits : run.length ≤ limit)
    (stops : run.length = limit ∨ Stops rest) : number limit (run ++ rest) = .some (Numeral.value run, rest) := by
  have ends : Stops (rest.take (limit - run.length)) := by
    rcases stops with full | stops
    · rw [full, Nat.sub_self]
      exact Numeral.stops_nil
    · intro c member
      rw [List.head?_take] at member
      split at member
      · exact nomatch member
      · exact stops c member
  have taken : ((run ++ rest).take limit).takeWhile Numeral.isDigit = run := by
    rw [List.take_append, List.take_of_length_le fits, Numeral.takeWhile_append digits ends]
  unfold number
  simp only [taken, if_neg some, List.drop_left]

theorem field_padded (positive : 0 < width) (small : n < 10 ^ width) (rest : List Char) :
    field width (Numeral.padded width n ++ rest) = some (n, rest) := by
  have length := Numeral.length_padded positive small
  unfold field
  rw [Numeral.skip_of_run Numeral.all_isDigit_padded Numeral.padded_ne_nil,
    number_of_run Numeral.all_isDigit_padded Numeral.padded_ne_nil (Nat.le_of_eq length) (.inl length),
    Numeral.value_padded]

theorem mark_self {c : Char} (solid : Blank.isBlank c = false) (rest : List Char) :
    mark c (c :: rest) = some ((), rest) := by
  unfold mark Blank.skip
  rw [List.dropWhile_cons_of_neg (by simp [solid])]
  exact if_pos rfl

end

/-! ### The date -/

theorem yearField_minus (rest : List Char) :
    yearField ('-' :: rest) = (number rest.length rest).map fun read => (-(read.1 : Int), read.2) := rfl

theorem yearField_plus (rest : List Char) :
    yearField ('+' :: rest) = (number rest.length rest).map fun read => ((read.1 : Int), read.2) := rfl

theorem yearField_digit {c : Char} (isDigit : Numeral.isDigit c = true) (rest : List Char) :
    yearField (c :: rest) = (number 4 (c :: rest)).map fun read => ((read.1 : Int), read.2) := by
  unfold yearField
  rw [Numeral.skip_of_digit isDigit]
  split
  · rename_i same
    cases same
    cases isDigit
  · rename_i same
    cases same
    cases isDigit
  · rfl

theorem yearField_year {number : Int} {c : Char} (other : Numeral.isDigit c = false) (rest : List Char) :
    yearField (year number ++ c :: rest) = some (number, c :: rest) := by
  have signed : Stamp.number (Numeral.padded 4 number.natAbs ++ c :: rest).length
      (Numeral.padded 4 number.natAbs ++ c :: rest) = some (number.natAbs, c :: rest) := by
    have fits : (Numeral.padded 4 number.natAbs).length ≤ (Numeral.padded 4 number.natAbs ++ c :: rest).length := by
      rw [List.length_append]
      omega
    rw [number_of_run Numeral.all_isDigit_padded Numeral.padded_ne_nil fits (.inr (stops_cons other rest)),
      Numeral.value_padded]
  unfold year
  -- A signed year is read to the end of its digits, an unsigned one in four digits.
  by_cases before : number < 0
  · have magnitude : -(number.natAbs : Int) = number := by omega
    rw [if_pos before, List.cons_append, yearField_minus, signed, Option.map_some, magnitude]
  · have magnitude : (number.natAbs : Int) = number := by omega
    rw [if_neg before]
    by_cases long : 9999 < number
    · rw [if_pos long, List.cons_append, yearField_plus, signed, Option.map_some, magnitude]
    · have small : number.natAbs < 10 ^ 4 := by omega
      have length := Numeral.length_padded (by decide) small
      have read := number_of_run Numeral.all_isDigit_padded Numeral.padded_ne_nil (Nat.le_of_eq length)
        (.inl length : _ ∨ Stops (c :: rest))
      rw [Numeral.value_padded] at read
      rw [if_neg long]
      cases numeral : Numeral.padded 4 number.natAbs with
      | nil => exact absurd numeral Numeral.padded_ne_nil
      | cons first later =>
        have isDigit : Numeral.isDigit first = true := by
          refine List.all_eq_true.1 (@Numeral.all_isDigit_padded 4 number.natAbs) first ?_
          rw [numeral]
          exact List.mem_cons_self
        rw [numeral] at read
        rw [List.cons_append, yearField_digit isDigit, ← List.cons_append, read, Option.map_some, magnitude]

theorem dateField_write {date : Civil} (found : date.exists? = true) {c : Char} (rest : List Char) :
    dateField (year date.year ++ '-' :: (Numeral.padded 2 date.month ++
      '-' :: (Numeral.padded 2 date.day ++ c :: rest))) = some (date, c :: rest) := by
  have month : date.month < 10 ^ 2 := by
    unfold Civil.exists? at found
    simp only [Bool.and_eq_true, decide_eq_true_eq] at found
    omega
  have day : date.day < 10 ^ 2 := by
    unfold Civil.exists? Civil.monthLength at found
    simp only [Bool.and_eq_true, decide_eq_true_eq] at found
    grind
  have dash : Blank.isBlank '-' = false := rfl
  unfold dateField
  simp only [yearField_year (show Numeral.isDigit '-' = false from rfl), Option.bind_eq_bind, Option.bind_some,
    mark_self dash, field_padded (by decide : 0 < 2) month, field_padded (by decide : 0 < 2) day, Option.pure_def]

/-! ### The clock -/

theorem nanosField_point {run rest : List Char} (digits : run.all Numeral.isDigit = true) (some : run ≠ [])
    (stops : Stops rest) : nanosField ('.' :: (run ++ rest)) =
      .some (Numeral.value ((run ++ List.replicate 9 '0').take 9), rest) := by
  unfold nanosField
  simp only [Numeral.takeWhile_append digits stops, if_neg some, List.drop_left]

/-- A fraction of a given number of digits, filled up to nine. -/
theorem nanosField_padded {places nanos : Nat} {rest : List Char} (positive : 0 < places) (most : places ≤ 9)
    (small : nanos < 10 ^ places) (stops : Stops rest) :
    nanosField ('.' :: (Numeral.padded places nanos ++ rest)) = some (nanos * 10 ^ (9 - places), rest) := by
  have length := Numeral.length_padded positive small
  have filled : (Numeral.padded places nanos ++ List.replicate 9 '0').take 9 =
      Numeral.padded places nanos ++ List.replicate (9 - places) '0' := by
    rw [List.take_append, List.take_of_length_le (by omega), length, List.take_replicate]
    congr 2
    omega
  rw [nanosField_point Numeral.all_isDigit_padded Numeral.padded_ne_nil stops, filled, Numeral.value_append,
    Numeral.value_padded, Numeral.value_zeros, List.length_replicate, Nat.add_zero]

theorem nanosField_fraction {nanos : Nat} (fits : nanos < 1000000000) {c : Char} (other : Numeral.isDigit c = false)
    (noPoint : c ≠ '.') (rest : List Char) : nanosField (fraction nanos ++ c :: rest) = some (nanos, c :: rest) := by
  have stops := stops_cons other rest
  unfold fraction
  by_cases none : nanos = 0
  · rw [if_pos none, none, List.nil_append]
    unfold nanosField
    split
    · rename_i same
      exact absurd (List.cons.inj same).1 noPoint
    · rfl
  · rw [if_neg none]
    by_cases millis : nanos % 1000000 = 0
    · have whole : nanos / 1000000 * 10 ^ (9 - 3) = nanos := by omega
      rw [if_pos millis, List.cons_append, nanosField_padded (by decide) (by decide) (by omega) stops, whole]
    · rw [if_neg millis]
      by_cases micros : nanos % 1000 = 0
      · have whole : nanos / 1000 * 10 ^ (9 - 6) = nanos := by omega
        rw [if_pos micros, List.cons_append, nanosField_padded (by decide) (by decide) (by omega) stops, whole]
      · rw [if_neg micros, List.cons_append, nanosField_padded (by decide) (by decide) (by omega) stops, Nat.sub_self,
          Nat.pow_zero, Nat.mul_one]

theorem clockField_clock {second nanos : Nat} (inDay : second < 86400)
    (fits : nanos < 1000000000 ∨ nanos < 2000000000 ∧ second % 60 = 59) {c : Char}
    (other : Numeral.isDigit c = false) (noPoint : c ≠ '.') (rest : List Char) :
    clockField (clock second nanos ++ c :: rest) = some ((second, nanos), c :: rest) := by
  have colon : Blank.isBlank ':' = false := rfl
  have hour : second / 3600 < 10 ^ 2 := by omega
  have minute : second / 60 % 60 < 10 ^ 2 := by omega
  have last : second % 60 + nanos / 1000000000 < 10 ^ 2 := by omega
  have part : nanos % 1000000000 < 1000000000 := by omega
  unfold clockField clock
  simp only [List.append_assoc, List.cons_append, field_padded (by decide : 0 < 2) hour, Option.bind_eq_bind,
    Option.bind_some, mark_self colon, field_padded (by decide : 0 < 2) minute, field_padded (by decide : 0 < 2) last,
    nanosField_fraction part other noPoint]
  have bounds : second / 3600 < 24 ∧ second / 60 % 60 < 60 ∧ second % 60 + nanos / 1000000000 ≤ 60 := by omega
  rw [if_pos bounds]
  by_cases leap : second % 60 + nanos / 1000000000 = 60
  · have seconds : second / 3600 * 3600 + second / 60 % 60 * 60 + 59 = second := by omega
    have parts : nanos % 1000000000 + 1000000000 = nanos := by omega
    rw [if_pos leap, seconds, parts]
    rfl
  · have seconds : second / 3600 * 3600 + second / 60 % 60 * 60 + (second % 60 + nanos / 1000000000) = second := by
      omega
    have parts : nanos % 1000000000 = nanos := by omega
    rw [if_neg leap, seconds, parts]
    rfl

/-- Every instant is read from its text. -/
theorem ofText?_encode (instant : Instant) : ofText? (encode instant) = some instant := by
  obtain ⟨least, most⟩ := instant.inRange
  unfold Instant.firstSecond at least
  unfold Instant.lastSecond at most
  have found := Civil.exists_ofDays (instant.seconds / 86400)
  have years : -262143 ≤ (Civil.ofDays (instant.seconds / 86400)).year ∧
      (Civil.ofDays (instant.seconds / 86400)).year ≤ 262142 := Civil.year_bounds (by omega) (by omega)
  have inDay : (instant.seconds % 86400).toNat < 86400 := by omega
  have fits : instant.nanos < 1000000000 ∨
      instant.nanos < 2000000000 ∧ (instant.seconds % 86400).toNat % 60 = 59 := by
    rcases instant.nanosFit with small | ⟨small, last⟩
    · exact .inl small
    · exact .inr ⟨small, by omega⟩
  have ranged : yearInRange (Civil.ofDays (instant.seconds / 86400)).year = true := by
    unfold yearInRange
    simp [years]
  have seconds : instant.seconds / 86400 * 86400 + ((instant.seconds % 86400).toNat : Int) - 0 = instant.seconds := by
    omega
  unfold ofText? encode
  rw [String.toList_ofList]
  unfold decode? write
  have zone : zoneField ['Z'] = some (0, []) := rfl
  have divided (chars : List Char) : divider ('T' :: chars) = some ((), chars) := rfl
  have nothing : Blank.skip [] = [] := rfl
  have clocked := clockField_clock inDay fits (show Numeral.isDigit 'Z' = false from rfl) (by decide) []
  simp only [List.append_assoc, List.cons_append, dateField_write found, Option.bind_eq_bind, Option.bind_some,
    divided, clocked, zone]
  rw [if_pos ⟨nothing, found, ranged⟩, Civil.toDays_ofDays, seconds, Instant.ofParts?_self]

end CatalogIndex.Stamp
