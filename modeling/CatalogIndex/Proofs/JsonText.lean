import CatalogIndex.Json.Decoder
import CatalogIndex.Json.Leaves
import CatalogIndex.Proofs.Numerals
/-!
The text of a JSON tree is read as that tree. What follows a value inside a tree is a comma or a closing bracket or
brace, and no part of a number, so each value is read to its end and not beyond it.
-/
namespace CatalogIndex.Json

/-- Whether no number can go on with a text. -/
def Ends (rest : List Char) : Prop :=
  ∀ c ∈ rest.head?, Numeral.isDigit c = false ∧ c ≠ '.' ∧ c ≠ 'e' ∧ c ≠ 'E'

theorem ends_nil : Ends [] := fun _ member => nomatch member

theorem Ends.stops {rest : List Char} (ends : Ends rest) : Numeral.Stops rest := fun c member => (ends c member).1

theorem ends_writeItems (items : List Json) (rest : List Char) : Ends (writeItems items ++ rest) := by
  intro c member
  cases items <;> cases member <;> decide

theorem ends_writeMembers (members : List (String × Json)) (rest : List Char) :
    Ends (writeMembers members ++ rest) := by
  intro c member
  rcases members with - | ⟨⟨name, item⟩, members⟩ <;> cases member <;> decide

theorem skipSpace_cons {c : Char} (solid : isSpace c = false) (rest : List Char) : skipSpace (c :: rest) = c :: rest :=
  List.dropWhile_cons_of_neg (by simp [solid])

/-! ### Numbers -/

section

variable {chars rest later : List Char}

theorem takeWhile_ends (ends : Ends rest) (chars : List Char) :
    (chars ++ rest).takeWhile Numeral.isDigit = chars.takeWhile Numeral.isDigit := by
  induction chars with
  | nil =>
    have none : ([] : List Char).all Numeral.isDigit = true := rfl
    exact Numeral.takeWhile_append none ends.stops
  | cons c chars ih =>
    by_cases isDigit : Numeral.isDigit c = true
    · rw [List.cons_append, List.takeWhile_cons_of_pos isDigit, List.takeWhile_cons_of_pos isDigit, ih]
    · rw [List.cons_append, List.takeWhile_cons_of_neg isDigit, List.takeWhile_cons_of_neg isDigit]

theorem drop_takeWhile_ends (chars rest : List Char) :
    (chars ++ rest).drop (chars.takeWhile Numeral.isDigit).length =
      chars.drop (chars.takeWhile Numeral.isDigit).length ++ rest :=
  List.drop_append_of_le_length (List.takeWhile_prefix _).length_le

end

/-- Whether a part that is read from a text is read alike when something follows that ends a number. -/
def Framed {α : Type} (reader : Reader α) : Prop :=
  ∀ {chars part later rest}, Ends rest → reader chars = .ok (part, later) →
    reader (chars ++ rest) = .ok (part, later ++ rest)

theorem framed_wholeDigits : Framed wholeDigits := by
  intro chars part later rest ends reads
  unfold wholeDigits at reads ⊢
  simp only [takeWhile_ends ends, drop_takeWhile_ends] at reads ⊢
  split at reads
  · cases reads
  · cases reads
  · cases reads
    rfl

theorem framed_exponentDigits (negative : Bool) : Framed (exponentDigits negative) := by
  intro chars part later rest ends reads
  unfold exponentDigits at reads ⊢
  simp only [takeWhile_ends ends, drop_takeWhile_ends] at reads ⊢
  split at reads
  · cases reads
  · rename_i some
    cases reads
    rw [if_neg some]

theorem framed_fractionDigits : Framed fractionDigits := by
  intro chars part later rest ends reads
  -- Where the part ends together with its text, only `ends` keeps it from going on.
  cases chars with
  | nil =>
    cases reads
    cases rest with
    | nil => rfl
    | cons c rest =>
      obtain ⟨-, noPoint, -⟩ := ends c rfl
      unfold fractionDigits
      split
      · rename_i same
        exact absurd (List.cons.inj same).1 noPoint
      · rfl
  | cons c chars =>
    by_cases point : c = '.'
    · subst point
      simp only [fractionDigits, List.cons_append, takeWhile_ends ends, drop_takeWhile_ends] at reads ⊢
      split at reads
      · cases reads
      · rename_i some
        cases reads
        rw [if_neg some]
    · unfold fractionDigits at reads ⊢
      split at reads
      · rename_i same
        exact absurd (List.cons.inj same).1 point
      · cases reads
        split
        · rename_i same
          exact absurd (List.cons.inj same).1 point
        · rfl

theorem framed_exponentPart : Framed exponentPart := by
  intro chars part later rest ends reads
  cases chars with
  | nil =>
    cases reads
    cases rest with
    | nil => rfl
    | cons c rest =>
      obtain ⟨-, -, lower, upper⟩ := ends c rfl
      simp only [exponentPart, List.nil_append, lower, upper, or_self, if_false]
  | cons c chars =>
    unfold exponentPart at reads ⊢
    simp only [List.cons_append] at reads ⊢
    by_cases marked : c = 'e' ∨ c = 'E'
    · rw [if_pos marked] at reads ⊢
      cases chars with
      | nil => cases reads
      | cons sign chars =>
        by_cases minus : sign = '-'
        · subst minus
          exact framed_exponentDigits true ends reads
        · by_cases plus : sign = '+'
          · subst plus
            exact framed_exponentDigits false ends reads
          · split at reads
            · rename_i same
              exact absurd (List.cons.inj same).1 minus
            · rename_i same
              exact absurd (List.cons.inj same).1 plus
            · simp only [List.cons_append]
              split
              · rename_i same
                exact absurd (List.cons.inj same).1 minus
              · rename_i same
                exact absurd (List.cons.inj same).1 plus
              · exact framed_exponentDigits false ends reads
    · rw [if_neg marked] at reads ⊢
      cases reads
      rfl

theorem of_bind {ε α β : Type} {first : Except ε α} {next : α → Except ε β} {result : β}
    (succeeds : first >>= next = .ok result) : ∃ middle, first = .ok middle ∧ next middle = .ok result := by
  cases first with
  | error error => cases succeeds
  | ok middle => exact ⟨middle, rfl, succeeds⟩

theorem framed_numberParts : Framed numberParts := by
  intro chars part later rest ends reads
  obtain ⟨⟨whole, afterWhole⟩, wholeRead, reads⟩ := of_bind reads
  obtain ⟨⟨fraction, afterFraction⟩, fractionRead, reads⟩ := of_bind reads
  obtain ⟨⟨exponent, afterExponent⟩, exponentRead, reads⟩ := of_bind reads
  cases reads
  simp only [numberParts, framed_wholeDigits ends wholeRead, framed_fractionDigits ends fractionRead,
    framed_exponentPart ends exponentRead, bind, Except.bind, pure, Except.pure]

theorem framed_unsigned (negative : Bool) : Framed (unsigned negative) := by
  intro chars part later rest ends reads
  obtain ⟨⟨parts, afterParts⟩, partsRead, reads⟩ := of_bind reads
  obtain ⟨number, valued, reads⟩ := of_bind reads
  cases reads
  simp only [unsigned, framed_numberParts ends partsRead, valued, bind, Except.bind, pure, Except.pure]

theorem number_of_ne {c : Char} (unsigned : c ≠ '-') (rest : List Char) :
    number (c :: rest) = Json.unsigned false (c :: rest) := by
  unfold number
  split
  · rename_i same
    exact absurd (List.cons.inj same).1 unsigned
  · rfl

theorem framed_number : Framed number := by
  intro chars part later rest ends reads
  cases chars with
  | nil => cases reads
  | cons c chars =>
    by_cases minus : c = '-'
    · subst minus
      exact framed_unsigned true ends reads
    · rw [number_of_ne minus] at reads
      rw [List.cons_append, number_of_ne minus]
      exact framed_unsigned false ends reads

theorem starts_of_number {chars later : List Char} {tree : Json} (reads : number chars = .ok (tree, later)) :
    ∃ c rest, chars = c :: rest ∧ (c = '-' ∨ Numeral.isDigit c = true) := by
  cases chars with
  | nil => cases reads
  | cons c rest =>
    refine ⟨c, rest, rfl, ?_⟩
    by_cases minus : c = '-'
    · exact .inl minus
    · rw [number_of_ne minus] at reads
      obtain ⟨⟨parts, afterParts⟩, partsRead, -⟩ := of_bind reads
      obtain ⟨⟨whole, afterWhole⟩, wholeRead, -⟩ := of_bind partsRead
      by_cases isDigit : Numeral.isDigit c = true
      · exact .inr isDigit
      · simp only [wholeDigits, List.takeWhile_cons_of_neg isDigit] at wholeRead
        cases wholeRead

/-! ### Whole numbers -/

theorem head_digits {n : Nat} (positive : 0 < n) {rest : List Char} : Numeral.digits n ≠ '0' :: rest := by
  fun_induction Numeral.digits n generalizing rest with
  | case1 n small =>
    have digits : ∀ n : Fin 10, 0 < n.val → Numeral.digit n.val ≠ '0' := by decide
    exact fun same => digits ⟨n, small⟩ positive (List.cons.inj same).1
  | case2 n large ih =>
    intro same
    cases front : Numeral.digits (n / 10) with
    | nil => exact Numeral.digits_ne_nil _ front
    | cons c later =>
      rw [front, List.cons_append] at same
      exact ih (by omega) (front.trans (congrArg (· :: later) (List.cons.inj same).1))

theorem wholeDigits_digits (n : Nat) : wholeDigits (Numeral.digits n) = .ok (Numeral.digits n, []) := by
  have run : (Numeral.digits n).takeWhile Numeral.isDigit = Numeral.digits n := by
    have ends := Numeral.takeWhile_append (Numeral.all_isDigit_digits n) Numeral.stops_nil
    rwa [List.append_nil] at ends
  simp only [wholeDigits, run, List.drop_length]
  split
  · rename_i empty
    exact absurd empty (Numeral.digits_ne_nil n)
  · rename_i zero
    rcases Nat.eq_zero_or_pos n with rfl | positive
    · unfold Numeral.digits at zero
      cases zero
    · exact absurd zero (head_digits positive)
  · rfl

theorem unsigned_digits {negative : Bool} {n : Int} {digits : Nat} (some : negative = true → digits ≠ 0)
    (value : (if negative then -(digits : Int) else digits) = n) (fits : fitsWord n = true) :
    unsigned negative (Numeral.digits digits) = .ok (.integer n, []) := by
  have parts : numberParts (Numeral.digits digits) = .ok (⟨Numeral.digits digits, none, none⟩, []) := by
    simp only [numberParts, wholeDigits_digits, bind, Except.bind]
    rfl
  have notZero : (!(negative && digits == 0)) = true := by
    cases negative with
    | false => rfl
    | true => simpa using some rfl
  have valued : numberValue negative ⟨Numeral.digits digits, none, none⟩ = .ok (.integer n) := by
    simp only [numberValue, Option.getD_none, List.append_nil, Numeral.value_digits, value, notZero, fits,
      Option.isNone_none, Bool.and_self, if_true]
  simp only [unsigned, parts, valued, bind, Except.bind, pure, Except.pure]

theorem number_signed {n : Int} (fits : fitsWord n = true) : number (Numeral.signed n) = .ok (.integer n, []) := by
  unfold Numeral.signed
  by_cases before : n < 0
  · have some : n.natAbs ≠ 0 := by omega
    have value : -(n.natAbs : Int) = n := by omega
    rw [if_pos before]
    exact unsigned_digits (fun _ => some) value fits
  · have value : (n.natAbs : Int) = n := by omega
    rw [if_neg before]
    cases numeral : Numeral.digits n.natAbs with
    | nil => exact absurd numeral (Numeral.digits_ne_nil _)
    | cons c rest =>
      have isDigit : Numeral.isDigit c = true := by
        refine List.all_eq_true.1 (Numeral.all_isDigit_digits n.natAbs) c ?_
        rw [numeral]
        exact List.mem_cons_self
      have unsigned : c ≠ '-' := by
        rintro rfl
        cases isDigit
      rw [number_of_ne unsigned, ← numeral]
      exact unsigned_digits (fun impossible => nomatch impossible) value fits

/-! ### Texts -/

theorem hexValue_hexDigit {n : Nat} (small : n < 16) : hexValue (hexDigit n) = some n := by
  have digits : ∀ n : Fin 16, hexValue (hexDigit n.val) = some n.val := by decide
  exact digits ⟨n, small⟩

theorem textBody_plain {c : Char} (quote : c ≠ '"') (backslash : c ≠ '\\') (visible : ¬ c.toNat < 0x20)
    (rest : List Char) : textBody (c :: rest) = prepend c (textBody rest) := by
  rw [textBody.eq_def]
  split
  · rename_i same
    cases same
  · rename_i same
    exact absurd (List.cons.inj same).1 quote
  · rename_i same
    exact absurd (List.cons.inj same).1 backslash
  · rename_i same
    exact absurd (List.cons.inj same).1 backslash
  · rename_i same
    cases same
    rw [if_neg (not_or.2 ⟨visible, backslash⟩)]

theorem textBody_control {c : Char} (control : c.toNat < 0x20) (rest : List Char) :
    textBody ('\\' :: 'u' :: '0' :: '0' :: hexDigit (c.toNat / 16) :: hexDigit (c.toNat % 16) :: rest) =
      prepend c (textBody rest) := by
  have unit : hexUnit '0' '0' (hexDigit (c.toNat / 16)) (hexDigit (c.toNat % 16)) = some c.toNat := by
    have zero : hexValue '0' = some 0 := rfl
    have whole : 0 * 4096 + 0 * 256 + c.toNat / 16 * 16 + c.toNat % 16 = c.toNat := by omega
    simp only [hexUnit, zero, hexValue_hexDigit (show c.toNat / 16 < 16 by omega),
      hexValue_hexDigit (show c.toNat % 16 < 16 by omega), Option.bind_eq_bind, Option.bind_some, whole]
    rfl
  have high : isHighSurrogate c.toNat = false := by
    simp only [isHighSurrogate, Bool.and_eq_false_iff, decide_eq_false_iff_not]
    omega
  have low : isLowSurrogate c.toNat = false := by
    simp only [isLowSurrogate, Bool.and_eq_false_iff, decide_eq_false_iff_not]
    omega
  rw [textBody]
  simp only [unit, high, low, Bool.false_eq_true, if_false, Char.ofNat_toNat]

theorem textBody_escaped (c : Char) (rest : List Char) :
    textBody (escaped c ++ rest) = prepend c (textBody rest) := by
  unfold escaped
  -- In the order of the escapes: quotation mark, backslash, the five letters, control characters, and all others.
  split
  · subst_vars
    rfl
  · rename_i quote
    split
    · subst_vars
      rfl
    · rename_i backslash
      split
      · subst_vars
        rfl
      · split
        · subst_vars
          rfl
        · split
          · subst_vars
            rfl
          · split
            · subst_vars
              rfl
            · split
              · subst_vars
                rfl
              · split
                · rename_i control
                  exact textBody_control control rest
                · rename_i visible
                  exact textBody_plain quote backslash visible rest

theorem textBody_quoted (chars rest : List Char) :
    textBody (chars.flatMap escaped ++ '"' :: rest) = .ok (chars, rest) := by
  induction chars with
  | nil => rfl
  | cons c chars ih =>
    rw [List.flatMap_cons, List.append_assoc, textBody_escaped, ih]
    rfl

/-! ### Trees -/

mutual

def leaves : Json → List Json
  | array items => leavesOfItems items
  | object members => leavesOfMembers members
  | leaf => [leaf]

def leavesOfItems : List Json → List Json
  | [] => []
  | item :: rest => leaves item ++ leavesOfItems rest

def leavesOfMembers : List (String × Json) → List Json
  | [] => []
  | (_, item) :: rest => leaves item ++ leavesOfMembers rest

end

/-- Whether a number is read from its text: a whole number that fits a word, and a decimal if its text leads back to
it. Other leaves always are. -/
def Rereads : Json → Prop
  | integer n => fitsWord n = true
  | decimal x => number (writeDecimal x) = .ok (.decimal x, [])
  | _ => True

theorem solid_of_starts {c : Char} (starts : c = '-' ∨ Numeral.isDigit c = true) :
    isSpace c = false ∧ c ∉ ['n', 't', 'f', '"', '[', ']', '\x7b'] := by
  rcases starts with rfl | isDigit
  · decide
  · have noDigits : [' ', '\n', '\t', '\r', 'n', 't', 'f', '"', '[', ']', '\x7b'].all
        (fun other => !Numeral.isDigit other) = true := rfl
    have others : ∀ other ∈ [' ', '\n', '\t', '\r', 'n', 't', 'f', '"', '[', ']', '\x7b'], c ≠ other := by
      rintro other member rfl
      have noDigit := List.all_eq_true.1 noDigits c member
      rw [isDigit] at noDigit
      cases noDigit
    constructor
    · simp [isSpace, others]
    · intro member
      exact others c (by simp_all) rfl

theorem value_of_starts {c : Char} (starts : c = '-' ∨ Numeral.isDigit c = true) (fuel depth : Nat) (rest : List Char) :
    value (fuel + 1) depth (c :: rest) = number (c :: rest) := by
  obtain ⟨solid, other⟩ := solid_of_starts starts
  rw [value, skipSpace_cons solid]
  split
  case h_1 same => cases same
  case h_8 => rfl
  all_goals
    rename_i same
    cases same
    exact absurd other (by decide)

theorem value_of_number {chars rest : List Char} {tree : Json} (reads : number chars = .ok (tree, []))
    (ends : Ends rest) (fuel depth : Nat) : value (fuel + 1) depth (chars ++ rest) = .ok (tree, rest) := by
  obtain ⟨c, later, rfl, starts⟩ := starts_of_number reads
  rw [List.cons_append, value_of_starts starts, ← List.cons_append, framed_number ends reads, List.nil_append]

theorem starts_write {tree : Json} (rereads : ∀ leaf ∈ tree.leaves, leaf.Rereads) :
    ∃ c rest, write tree = c :: rest ∧ isSpace c = false ∧ c ≠ ']' := by
  have ofNumber {chars : List Char} {leaf : Json} (reads : number chars = .ok (leaf, [])) :
      ∃ c rest, chars = c :: rest ∧ isSpace c = false ∧ c ≠ ']' := by
    obtain ⟨c, rest, same, starts⟩ := starts_of_number reads
    obtain ⟨solid, other⟩ := solid_of_starts starts
    exact ⟨c, rest, same, solid, fun closes => other (by simp [closes])⟩
  cases tree with
  | null => exact ⟨_, _, rfl, rfl, by decide⟩
  | bool value => cases value <;> exact ⟨_, _, rfl, rfl, by decide⟩
  | integer n => exact ofNumber (number_signed (rereads _ (List.mem_singleton_self _)))
  | decimal x => exact ofNumber (rereads _ (List.mem_singleton_self _))
  | text value => exact ⟨_, _, rfl, rfl, by decide⟩
  | array items => cases items <;> exact ⟨_, _, rfl, rfl, by decide⟩
  | object members => rcases members with - | ⟨⟨name, item⟩, members⟩ <;> exact ⟨_, _, rfl, rfl, by decide⟩

theorem length_write_pos {tree : Json} (rereads : ∀ leaf ∈ tree.leaves, leaf.Rereads) : 0 < (write tree).length := by
  obtain ⟨c, rest, same, -⟩ := starts_write rereads
  rw [same]
  exact Nat.succ_pos _

theorem length_writeItems_pos (items : List Json) : 0 < (writeItems items).length := by
  cases items <;> exact Nat.succ_pos _

theorem length_writeMembers_pos (members : List (String × Json)) : 0 < (writeMembers members).length := by
  rcases members with - | ⟨⟨name, item⟩, members⟩ <;> exact Nat.succ_pos _

theorem nextItem_first {c : Char} (solid : isSpace c = false) (other : c ≠ ']') (rest : List Char) :
    nextItem true (c :: rest) = .ok (true, c :: rest) := by
  unfold nextItem
  rw [skipSpace_cons solid]
  split
  · rename_i impossible
    cases impossible
  · rename_i closes
    exact absurd (List.cons.inj closes).1 other
  · rename_i begins
    rw [if_pos rfl, begins]

theorem nextItem_later {c : Char} (solid : isSpace c = false) (other : c ≠ ']') (rest : List Char) :
    nextItem false (',' :: c :: rest) = .ok (true, c :: rest) := by
  have comma : skipSpace (',' :: c :: rest) = ',' :: c :: rest := skipSpace_cons rfl _
  unfold nextItem
  rw [comma]
  split
  · rename_i impossible
    cases impossible
  · rename_i impossible
    cases impossible
  · rename_i begins
    cases begins
    rw [if_neg Bool.false_ne_true, if_pos rfl, skipSpace_cons solid]
    split
    · rename_i impossible
      cases impossible
    · rename_i closes
      exact absurd (List.cons.inj closes).1 other
    · rfl

theorem nextItem_write {tree : Json} (rereads : ∀ leaf ∈ tree.leaves, leaf.Rereads) (rest : List Char) :
    nextItem true (write tree ++ rest) = .ok (true, write tree ++ rest) ∧
      nextItem false (',' :: (write tree ++ rest)) = .ok (true, write tree ++ rest) := by
  obtain ⟨c, later, same, solid, other⟩ := starts_write rereads
  rw [same]
  exact ⟨nextItem_first solid other _, nextItem_later solid other _⟩

theorem skipSpace_colon (rest : List Char) : skipSpace (':' :: rest) = ':' :: rest := skipSpace_cons rfl rest

theorem nextMember_first (rest : List Char) : nextMember true ('"' :: rest) = .ok (true, '"' :: rest) := rfl

theorem nextMember_later (rest : List Char) : nextMember false (',' :: '"' :: rest) = .ok (true, '"' :: rest) := rfl

theorem memberName_quoted (name : String) (rest : List Char) :
    memberName ('"' :: (name.toList.flatMap escaped ++ '"' :: ':' :: rest)) = .ok (name, rest) := by
  simp only [memberName, textBody_quoted, expect, skipSpace_colon, bind, Except.bind, pure, Except.pure, if_true,
    String.ofList_toList]

theorem value_of_items {chars rest : List Char} {fuel depth : Nat} {list : List Json}
    (listRead : items fuel depth true chars = .ok (list, rest)) :
    value (fuel + 1) (depth + 1) ('[' :: chars) = .ok (.array list, rest) := by
  have begins : skipSpace ('[' :: chars) = '[' :: chars := skipSpace_cons rfl _
  simp only [value, begins, listRead, bind, Except.bind, pure, Except.pure]

theorem value_of_members {chars rest : List Char} {fuel depth : Nat} {list : List (String × Json)}
    (listRead : members fuel depth true chars = .ok (list, rest)) :
    value (fuel + 1) (depth + 1) ('\x7b' :: chars) = .ok (.object list, rest) := by
  have begins : skipSpace ('\x7b' :: chars) = '\x7b' :: chars := skipSpace_cons rfl _
  simp only [value, begins, listRead, bind, Except.bind, pure, Except.pure]

theorem items_of_next {chars afterNext afterItem rest : List Char} {isFirst : Bool} {fuel depth : Nat} {item : Json}
    {list : List Json} (next : nextItem isFirst chars = .ok (true, afterNext))
    (itemRead : value fuel depth afterNext = .ok (item, afterItem))
    (listRead : items fuel depth false afterItem = .ok (list, rest)) :
    items (fuel + 1) depth isFirst chars = .ok (item :: list, rest) := by
  simp only [items, next, itemRead, listRead, bind, Except.bind, pure, Except.pure, if_true]

theorem members_of_next {chars afterNext afterName afterItem rest : List Char} {isFirst : Bool} {fuel depth : Nat}
    {name : String} {item : Json} {list : List (String × Json)}
    (next : nextMember isFirst chars = .ok (true, afterNext)) (nameRead : memberName afterNext = .ok (name, afterName))
    (itemRead : value fuel depth afterName = .ok (item, afterItem))
    (listRead : members fuel depth false afterItem = .ok (list, rest)) :
    members (fuel + 1) depth isFirst chars = .ok ((name, item) :: list, rest) := by
  simp only [members, next, nameRead, itemRead, listRead, bind, Except.bind, pure, Except.pure, if_true]

mutual

/-- A tree that is not too deep is read from its text if its numbers are. -/
theorem value_write : ∀ (tree : Json) {fuel depth : Nat} {rest : List Char}, Ends rest →
    (∀ leaf ∈ tree.leaves, leaf.Rereads) → tree.depth ≤ depth → (write tree).length ≤ fuel →
    value fuel depth (write tree ++ rest) = .ok (tree, rest)
  -- The fuel is at least the length of the text, and no text is empty.
  | tree, 0, _, _, _, rereads, _, short => absurd (length_write_pos rereads) (by omega)
  | .null, fuel + 1, _, _, _, _, _, _ => rfl
  | .bool true, fuel + 1, _, _, _, _, _, _ => rfl
  | .bool false, fuel + 1, _, _, _, _, _, _ => rfl
  | .integer n, fuel + 1, depth, _, ends, rereads, _, _ =>
    value_of_number (number_signed (rereads _ (List.mem_singleton_self _))) ends fuel depth
  | .decimal x, fuel + 1, depth, _, ends, rereads, _, _ =>
    value_of_number (rereads _ (List.mem_singleton_self _)) ends fuel depth
  | .text source, fuel + 1, _, rest, _, _, _, _ => by
    have begins : skipSpace ('"' :: (source.toList.flatMap escaped ++ '"' :: rest)) =
        '"' :: (source.toList.flatMap escaped ++ '"' :: rest) := skipSpace_cons rfl _
    simp only [write, quoted, value, List.cons_append, List.append_assoc, List.nil_append, begins, textBody_quoted,
      bind, Except.bind, pure, Except.pure, String.ofList_toList]
  | .array _, _ + 1, 0, _, _, _, shallow, _ => absurd shallow (Nat.not_succ_le_zero _)
  | .object _, _ + 1, 0, _, _, _, shallow, _ => absurd shallow (Nat.not_succ_le_zero _)
  | .array [], fuel + 1, depth + 1, rest, _, _, _, long => by
    have some : 2 ≤ fuel + 1 := long
    obtain ⟨fuel, rfl⟩ := Nat.exists_eq_succ_of_ne_zero (show fuel ≠ 0 by omega)
    rfl
  | .object [], fuel + 1, depth + 1, rest, _, _, _, long => by
    have some : 2 ≤ fuel + 1 := long
    obtain ⟨fuel, rfl⟩ := Nat.exists_eq_succ_of_ne_zero (show fuel ≠ 0 by omega)
    rfl
  | .array (item :: list), fuel + 1, depth + 1, rest, _, rereads, shallow, long => by
    -- The bracket takes one step of the fuel, and what is left is enough for the item and for the others apart.
    obtain ⟨itemRereads, listRereads⟩ := List.forall_mem_append.1 rereads
    have itemPositive := length_write_pos itemRereads
    have listPositive := length_writeItems_pos list
    have depths : max item.depth (depthOfItems list) + 1 ≤ depth + 1 := shallow
    rw [write, List.length_append, List.length_cons] at long
    obtain ⟨fuel, rfl⟩ := Nat.exists_eq_succ_of_ne_zero (show fuel ≠ 0 by omega)
    have itemRead := value_write item (ends_writeItems list rest) itemRereads (show _ ≤ depth by omega)
      (show _ ≤ fuel by omega)
    have listRead : items fuel depth false (writeItems list ++ rest) = .ok (list, rest) :=
      items_write list listRereads (by omega) (by omega)
    have read := items_of_next (nextItem_write itemRereads _).1 itemRead listRead
    simp only [write, List.cons_append, List.append_assoc]
    exact value_of_items read
  | .object ((name, item) :: list), fuel + 1, depth + 1, rest, _, rereads, shallow, long => by
    obtain ⟨itemRereads, listRereads⟩ := List.forall_mem_append.1 rereads
    have itemPositive := length_write_pos itemRereads
    have listPositive := length_writeMembers_pos list
    have depths : max item.depth (depthOfMembers list) + 1 ≤ depth + 1 := shallow
    simp only [write, List.length_append, List.length_cons] at long
    obtain ⟨fuel, rfl⟩ := Nat.exists_eq_succ_of_ne_zero (show fuel ≠ 0 by omega)
    have itemRead := value_write item (ends_writeMembers list rest) itemRereads (show _ ≤ depth by omega)
      (show _ ≤ fuel by omega)
    have listRead : members fuel depth false (writeMembers list ++ rest) = .ok (list, rest) :=
      members_write list listRereads (by omega) (by omega)
    have read := members_of_next (nextMember_first _) (memberName_quoted name _) itemRead listRead
    simp only [write, quoted, List.cons_append, List.append_assoc, List.nil_append]
    exact value_of_members read

theorem items_write : ∀ (list : List Json) {fuel depth : Nat} {rest : List Char},
    (∀ leaf ∈ leavesOfItems list, leaf.Rereads) → depthOfItems list ≤ depth → (writeItems list).length ≤ fuel →
    items fuel depth false (writeItems list ++ rest) = .ok (list, rest)
  | list, 0, _, _, _, _, short => absurd (length_writeItems_pos list) (by omega)
  | [], fuel + 1, _, _, _, _, _ => rfl
  | item :: list, fuel + 1, depth, rest, rereads, shallow, long => by
    obtain ⟨itemRereads, listRereads⟩ := List.forall_mem_append.1 rereads
    have itemPositive := length_write_pos itemRereads
    have listPositive := length_writeItems_pos list
    have depths : max item.depth (depthOfItems list) ≤ depth := shallow
    rw [writeItems, List.length_append, List.length_cons] at long
    have itemRead := value_write item (ends_writeItems list rest) itemRereads (show _ ≤ depth by omega)
      (show _ ≤ fuel by omega)
    have listRead : items fuel depth false (writeItems list ++ rest) = .ok (list, rest) :=
      items_write list listRereads (by omega) (by omega)
    have read := items_of_next (nextItem_write itemRereads _).2 itemRead listRead
    simp only [writeItems, List.cons_append, List.append_assoc]
    exact read

theorem members_write : ∀ (list : List (String × Json)) {fuel depth : Nat} {rest : List Char},
    (∀ leaf ∈ leavesOfMembers list, leaf.Rereads) → depthOfMembers list ≤ depth →
    (writeMembers list).length ≤ fuel → members fuel depth false (writeMembers list ++ rest) = .ok (list, rest)
  | list, 0, _, _, _, _, short => absurd (length_writeMembers_pos list) (by omega)
  | [], fuel + 1, _, _, _, _, _ => rfl
  | (name, item) :: list, fuel + 1, depth, rest, rereads, shallow, long => by
    obtain ⟨itemRereads, listRereads⟩ := List.forall_mem_append.1 rereads
    have itemPositive := length_write_pos itemRereads
    have listPositive := length_writeMembers_pos list
    have depths : max item.depth (depthOfMembers list) ≤ depth := shallow
    simp only [writeMembers, List.length_append, List.length_cons] at long
    have itemRead := value_write item (ends_writeMembers list rest) itemRereads (show _ ≤ depth by omega)
      (show _ ≤ fuel by omega)
    have listRead : members fuel depth false (writeMembers list ++ rest) = .ok (list, rest) :=
      members_write list listRereads (by omega) (by omega)
    have read := members_of_next (nextMember_later _) (memberName_quoted name _) itemRead listRead
    simp only [writeMembers, quoted, List.cons_append, List.append_assoc, List.nil_append]
    exact read

end

end CatalogIndex.Json
