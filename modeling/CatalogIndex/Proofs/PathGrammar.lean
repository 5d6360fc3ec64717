import CatalogIndex.Index.PropertyPath
/-!
Which texts are property paths. The fragments between the dots play their parts by place: one behind a list property
is a key, unless that list property is a key itself. A text is read as its fragments play their parts, and the leftmost
violation among them is the reason why a text is no path.
-/
namespace CatalogIndex

namespace Cut

theorem not_mem_of_mem_everywhere (mark : Char) {chars part : List Char} (member : part ∈ everywhere mark chars) :
    mark ∉ part := by
  induction chars generalizing part with
  | nil =>
    rw [everywhere, List.mem_singleton] at member
    rw [member]
    exact List.not_mem_nil
  | cons c rest ih =>
    unfold everywhere at member
    split at member
    · obtain rfl | later := List.mem_cons.1 member
      · exact List.not_mem_nil
      · exact ih later
    · rename_i differ
      split at member
      · rw [List.mem_singleton.1 member, List.mem_singleton]
        exact Ne.symm differ
      · rename_i first others shape
        obtain rfl | later := List.mem_cons.1 member
        · rw [List.mem_cons, not_or]
          exact ⟨Ne.symm differ, ih (shape ▸ List.mem_cons_self)⟩
        · exact ih (shape ▸ List.mem_cons_of_mem _ later)

theorem join_eq_intercalate (mark : Char) (parts : List (List Char)) : join mark parts = [mark].intercalate parts := by
  induction parts with
  | nil => rfl
  | cons first rest ih =>
    cases rest with
    | nil => rw [join, List.intercalate_singleton]
    | cons second others =>
      rw [join, ih, List.intercalate_cons_cons, List.append_assoc, List.singleton_append]
      exact List.cons_ne_nil _ _

end Cut

namespace PropertyPath

def fragments (text : String) : List String := (Cut.everywhere '.' text.toList).map String.ofList

theorem fragments_ne_nil (text : String) : fragments text ≠ [] := by
  unfold fragments
  rw [Ne, List.map_eq_nil_iff]
  exact Cut.everywhere_ne_nil _ _

theorem intercalate_fragments (text : String) : ".".intercalate (fragments text) = text := by
  have asChars : (fragments text).map String.toList = Cut.everywhere '.' text.toList := by
    unfold fragments
    rw [List.map_map]
    exact List.map_id'' (fun _ => String.toList_ofList) _
  apply String.toList_inj.1
  rw [String.toList_intercalate, asChars]
  exact (Cut.join_eq_intercalate '.' _).symm.trans (Cut.join_everywhere '.' _)

theorem dot_not_mem_of_mem_fragments {text part : String} (member : part ∈ fragments text) : '.' ∉ part.toList := by
  obtain ⟨chars, among, rfl⟩ := List.mem_map.1 member
  rw [String.toList_ofList]
  exact Cut.not_mem_of_mem_everywhere '.' among

theorem fragments_intercalate {parts : List String} (someParts : parts ≠ [])
    (free : ∀ part ∈ parts, '.' ∉ part.toList) : fragments (".".intercalate parts) = parts := by
  unfold fragments
  rw [String.toList_intercalate]
  change (Cut.everywhere '.' (['.'].intercalate (parts.map String.toList))).map String.ofList = parts
  rw [← Cut.join_eq_intercalate, Cut.everywhere_join, List.map_map]
  · exact List.map_id'' (fun _ => String.ofList_toList) _
  · rwa [Ne, List.map_eq_nil_iff]
  · intro chars member
    obtain ⟨part, among, rfl⟩ := List.mem_map.1 member
    exact free part among

/-! ### What the reader makes of its first fragments -/

section

variable {listProperty part : String} {first : Bool}

theorem readSegments_name (isText : part ≠ "") (plain : part ≠ listProperty)
    (noIndex : ¬(!first && part.toList.all Numeral.isDigit) = true) (rest : List String) :
    readSegments listProperty first (part :: rest) =
      (readSegments listProperty false rest).map fun later => .name part :: later := by
  rw [readSegments.eq_def]
  dsimp only
  rw [if_neg isText, if_neg plain, if_neg noIndex]

theorem readSegments_index (isText : part ≠ "") (plain : part ≠ listProperty)
    (digits : part.toList.all Numeral.isDigit = true) (small : Numeral.value part.toList < UInt64.size)
    (rest : List String) :
    readSegments listProperty false (part :: rest) =
      (readSegments listProperty false rest).map fun later =>
        .index (UInt64.ofNat (Numeral.value part.toList)) :: later := by
  rw [readSegments.eq_def]
  dsimp only
  rw [if_neg isText, if_neg plain, if_pos (by rw [digits]; rfl), if_pos small]

theorem readSegments_tooLarge (isText : part ≠ "") (plain : part ≠ listProperty)
    (digits : part.toList.all Numeral.isDigit = true) (large : UInt64.size ≤ Numeral.value part.toList)
    (rest : List String) : readSegments listProperty false (part :: rest) = .error indexTooLarge := by
  rw [readSegments.eq_def]
  dsimp only
  rw [if_neg isText, if_neg plain, if_pos (by rw [digits]; rfl), if_neg (Nat.not_lt.2 large)]

theorem readSegments_keyed {key : String} (isText : listProperty ≠ "") (isKeyText : key ≠ "") (rest : List String) :
    readSegments listProperty first (listProperty :: key :: rest) =
      (readSegments listProperty false rest).map fun later => .name listProperty :: .key key :: later := by
  rw [readSegments.eq_def]
  dsimp only
  rw [if_neg isText, if_pos rfl, if_neg isKeyText]

end

/-! ### The parts that fragments play -/

section

variable (listProperty : String) (parts : List String)

def isKey : Nat → Bool
  | 0 => false
  | place + 1 => parts[place]? == some listProperty && !isKey place

inductive Violates : Nat → String → Prop where
  | empty {place : Nat} (here : parts[place]? = some "") : Violates place emptySegment
  | keyless {place : Nat} (here : parts[place]? = some listProperty) (isText : listProperty ≠ "")
      (role : isKey listProperty parts place = false) (last : parts.length = place + 1) : Violates place keyMissing
  | tooLarge {place : Nat} {part : String} (here : parts[place]? = some part) (later : 0 < place) (isText : part ≠ "")
      (role : isKey listProperty parts place = false) (plain : part ≠ listProperty)
      (number : part.toList.all Numeral.isDigit) (large : UInt64.size ≤ Numeral.value part.toList) :
      Violates place indexTooLarge

theorem Violates.inside {listProperty : String} {parts : List String} {place : Nat} {reason : String}
    (violates : Violates listProperty parts place reason) : place < parts.length := by
  cases violates with
  | empty here => exact (List.getElem?_eq_some_iff.1 here).1
  | keyless here _ _ _ => exact (List.getElem?_eq_some_iff.1 here).1
  | tooLarge here _ _ _ _ _ _ => exact (List.getElem?_eq_some_iff.1 here).1

def segmentAt (place : Nat) (part : String) : Segment :=
  if isKey listProperty parts place then .key part
  else if 0 < place ∧ part ≠ listProperty ∧ part.toList.all Numeral.isDigit then
    .index (UInt64.ofNat (Numeral.value part.toList))
  else .name part

theorem isKey_of_segmentAt {listProperty : String} {parts : List String} {place : Nat} {part key : String}
    (read : segmentAt listProperty parts place part = .key key) : isKey listProperty parts place = true := by
  unfold segmentAt at read
  split at read
  · assumption
  · split at read <;> cases read

/-- The outcome of reading the fragments from a place on: all of them without a violation, or the leftmost one. -/
inductive Reads (start : Nat) : Except String (List Segment) → Prop where
  | whole (sound : ∀ place reason, start ≤ place → ¬Violates listProperty parts place reason) :
      Reads start
        (.ok ((parts.drop start).mapIdx fun offset part => segmentAt listProperty parts (start + offset) part))
  | violation {place : Nat} {reason : String} (here : Violates listProperty parts place reason)
      (leftmost : ∀ earlier other, start ≤ earlier → earlier < place → ¬Violates listProperty parts earlier other) :
      Reads start (.error reason)

end

variable {listProperty : String} {parts : List String}

theorem Reads.here {start : Nat} {reason : String} (violates : Violates listProperty parts start reason) :
    Reads listProperty parts start (.error reason) :=
  .violation violates fun _ _ behind before => absurd behind (Nat.not_le.2 before)

theorem Reads.cons {start : Nat} {part : String} {outcome : Except String (List Segment)}
    (here : parts[start]? = some part) (fine : ∀ reason, ¬Violates listProperty parts start reason)
    (reads : Reads listProperty parts (start + 1) outcome) :
    Reads listProperty parts start (outcome.map fun later => segmentAt listProperty parts start part :: later) := by
  cases reads with
  | whole sound =>
    obtain ⟨inside, rfl⟩ := List.getElem?_eq_some_iff.1 here
    have drawn : (parts.drop start).mapIdx (fun offset part => segmentAt listProperty parts (start + offset) part) =
        segmentAt listProperty parts start parts[start] :: (parts.drop (start + 1)).mapIdx
          fun offset part => segmentAt listProperty parts (start + 1 + offset) part := by
      rw [List.drop_eq_getElem_cons inside, List.mapIdx_cons]
      simp only [Nat.add_zero, Nat.add_assoc, Nat.add_comm 1]
    change Reads listProperty parts start (.ok (_ :: _))
    rw [← drawn]
    refine .whole fun place reason behind => ?_
    obtain rfl | later := Nat.eq_or_lt_of_le behind
    · exact fine reason
    · exact sound place reason later
  | violation there leftmost =>
    refine .violation there fun earlier other behind before => ?_
    obtain rfl | later := Nat.eq_or_lt_of_le behind
    · exact fine other
    · exact leftmost earlier other later before

theorem not_violates_of_isKey {place : Nat} {part : String} (here : parts[place]? = some part) (isText : part ≠ "")
    (role : isKey listProperty parts place = true) (reason : String) : ¬Violates listProperty parts place reason := by
  intro violates
  cases violates with
  | empty empty => exact isText (Option.some.inj (here.symm.trans empty))
  | keyless _ _ none _ => exact absurd (role.symm.trans none) (by decide)
  | tooLarge _ _ _ none _ _ _ => exact absurd (role.symm.trans none) (by decide)

theorem not_violates_of_followed {place : Nat} (here : parts[place]? = some listProperty) (isText : listProperty ≠ "")
    (followed : parts.length ≠ place + 1) (reason : String) : ¬Violates listProperty parts place reason := by
  intro violates
  cases violates with
  | empty empty => exact isText (Option.some.inj (here.symm.trans empty))
  | keyless _ _ _ last => exact followed last
  | tooLarge same _ _ _ plain _ _ => exact plain (Option.some.inj (same.symm.trans here))

theorem not_violates_of_plain {place : Nat} {part : String} (here : parts[place]? = some part) (isText : part ≠ "")
    (plain : part ≠ listProperty)
    (small : 0 < place → part.toList.all Numeral.isDigit → Numeral.value part.toList < UInt64.size) (reason : String) :
    ¬Violates listProperty parts place reason := by
  intro violates
  cases violates with
  | empty empty => exact isText (Option.some.inj (here.symm.trans empty))
  | keyless same _ _ _ => exact plain (Option.some.inj (here.symm.trans same))
  | tooLarge same later _ _ _ number large =>
    cases Option.some.inj (here.symm.trans same)
    exact Nat.not_lt.2 large (small later number)

theorem isKey_succ {place : Nat} {part : String} (here : parts[place]? = some part) :
    isKey listProperty parts (place + 1) = (part == listProperty && !isKey listProperty parts place) := by
  rw [isKey, here]
  rfl

theorem drop_eq_cons {start : Nat} {part : String} {rest : List String} (split : parts.drop start = part :: rest) :
    parts[start]? = some part ∧ parts.drop (start + 1) = rest := by
  constructor
  · have first := congrArg (fun items : List String => items[0]?) split
    simpa using first
  · rw [← List.tail_drop, split, List.tail_cons]

theorem Reads.keyed {start : Nat} {key : String} {rest : List String} {outcome : Except String (List Segment)}
    (split : parts.drop start = listProperty :: key :: rest) (isText : listProperty ≠ "") (isKeyText : key ≠ "")
    (role : isKey listProperty parts start = false)
    (reads : isKey listProperty parts (start + 2) = false → Reads listProperty parts (start + 2) outcome) :
    Reads listProperty parts start (outcome.map fun later => .name listProperty :: .key key :: later) := by
  obtain ⟨atList, behind⟩ := drop_eq_cons split
  obtain ⟨atKey, -⟩ := drop_eq_cons behind
  have keyRole : isKey listProperty parts (start + 1) = true := by simp [isKey_succ atList, role]
  have laterRole : isKey listProperty parts (start + 2) = false := by simp [isKey_succ atKey, keyRole]
  have followed : parts.length ≠ start + 1 := by
    obtain ⟨inside, -⟩ := List.getElem?_eq_some_iff.1 atKey
    omega
  have both := Reads.cons atList (not_violates_of_followed atList isText followed)
    (Reads.cons atKey (not_violates_of_isKey atKey isKeyText keyRole) (reads laterRole))
  have listRead : segmentAt listProperty parts start listProperty = .name listProperty := by simp [segmentAt, role]
  have keyRead : segmentAt listProperty parts (start + 1) key = .key key := by simp [segmentAt, keyRole]
  rw [listRead, keyRead] at both
  cases outcome <;> exact both

theorem index_iff {first : Bool} {start : Nat} (begins : first = decide (start = 0)) {digits : Bool} :
    (!first && digits) = true ↔ 0 < start ∧ digits = true := by
  rw [begins, Bool.and_eq_true_iff, Bool.not_eq_true', decide_eq_false_iff_not, Nat.pos_iff_ne_zero]

/-- Fragments are read by place from any place that holds no key. -/
theorem reads_readSegments {first : Bool} {rest : List String} {start : Nat} (split : parts.drop start = rest)
    (begins : first = decide (start = 0)) (role : isKey listProperty parts start = false) :
    Reads listProperty parts start (readSegments listProperty first rest) := by
  -- The cases are those of the reader: the end, an empty fragment, a list property without a key, with an empty one and
  -- with a key, an index that fits and one that does not, and a name.
  fun_induction readSegments listProperty first rest generalizing start with
  | case1 first =>
    have outside : ∀ place reason, start ≤ place → ¬Violates listProperty parts place reason :=
      fun place reason beyond violates =>
        absurd violates.inside (Nat.not_lt.2 (Nat.le_trans (List.drop_eq_nil_iff.1 split) beyond))
    have whole := Reads.whole outside
    rwa [split] at whole
  | case2 first rest => exact .here (.empty (drop_eq_cons split).1)
  | case3 first isText =>
    obtain ⟨here, nothing⟩ := drop_eq_cons split
    obtain ⟨inside, -⟩ := List.getElem?_eq_some_iff.1 here
    have last : parts.length = start + 1 := by
      have atMost := List.drop_eq_nil_iff.1 nothing
      omega
    exact .here (.keyless here isText role last)
  | case4 first rest isText =>
    obtain ⟨atList, behind⟩ := drop_eq_cons split
    obtain ⟨atKey, -⟩ := drop_eq_cons behind
    obtain ⟨inside, -⟩ := List.getElem?_eq_some_iff.1 atKey
    refine .violation (.empty atKey) fun earlier other behind before => ?_
    obtain rfl : start = earlier := by omega
    exact not_violates_of_followed atList isText (by omega) other
  | case5 first key rest isKeyText isText ih =>
    obtain ⟨-, behind⟩ := drop_eq_cons split
    obtain ⟨-, behindKey⟩ := drop_eq_cons behind
    exact .keyed split isText isKeyText role fun laterRole => ih behindKey rfl laterRole
  | case6 first part rest isText plain number position small =>
    rename_i ih
    obtain ⟨here, behind⟩ := drop_eq_cons split
    obtain ⟨later, digits⟩ := (index_iff begins).1 number
    have read : segmentAt listProperty parts start part = .index (UInt64.ofNat (Numeral.value part.toList)) := by
      simp [segmentAt, role, later, plain, digits]
    have reads := Reads.cons here (not_violates_of_plain here isText plain fun _ _ => small)
      (ih behind rfl (by simp [isKey_succ here, plain]))
    rwa [read] at reads
  | case7 first part rest isText plain number position =>
    rename_i large
    obtain ⟨here, -⟩ := drop_eq_cons split
    obtain ⟨later, digits⟩ := (index_iff begins).1 number
    exact .here (.tooLarge here later isText role plain digits (Nat.not_lt.1 large))
  | case8 first part rest isText plain noNumber ih =>
    obtain ⟨here, behind⟩ := drop_eq_cons split
    have noIndex : ¬(0 < start ∧ part.toList.all Numeral.isDigit) := fun index => noNumber ((index_iff begins).2 index)
    have read : segmentAt listProperty parts start part = .name part := by
      have excluded : ¬(0 < start ∧ part ≠ listProperty ∧ part.toList.all Numeral.isDigit) :=
        fun index => noIndex ⟨index.1, index.2.2⟩
      rw [segmentAt, role, if_neg Bool.false_ne_true, if_neg excluded]
    have reads := Reads.cons here
      (not_violates_of_plain here isText plain fun later digits => absurd ⟨later, digits⟩ noIndex)
      (ih behind rfl (by simp [isKey_succ here, plain]))
    rwa [read] at reads

theorem Violates.unique {place : Nat} {reason other : String} (first : Violates listProperty parts place reason)
    (second : Violates listProperty parts place other) : reason = other := by
  cases first with
  | empty here =>
    cases second with
    | empty _ => rfl
    | keyless same isText _ _ => exact absurd (Option.some.inj (same.symm.trans here)) isText
    | tooLarge same _ isText _ _ _ _ => exact absurd (Option.some.inj (same.symm.trans here)) isText
  | keyless here isText _ _ =>
    cases second with
    | empty same => exact absurd (Option.some.inj (here.symm.trans same)) isText
    | keyless _ _ _ _ => rfl
    | tooLarge same _ _ _ plain _ _ => exact absurd (Option.some.inj (same.symm.trans here)) plain
  | tooLarge here _ isText _ plain _ _ =>
    cases second with
    | empty same => exact absurd (Option.some.inj (here.symm.trans same)) isText
    | keyless same _ _ _ => exact absurd (Option.some.inj (here.symm.trans same)) plain
    | tooLarge _ _ _ _ _ _ _ => rfl

variable (listProperty parts) in
structure Leftmost (place : Nat) (reason : String) : Prop where
  here : Violates listProperty parts place reason
  first : ∀ earlier other, earlier < place → ¬Violates listProperty parts earlier other

theorem Leftmost.unique {place another : Nat} {reason other : String} (first : Leftmost listProperty parts place reason)
    (second : Leftmost listProperty parts another other) : reason = other := by
  obtain before | rfl | behind := Nat.lt_trichotomy place another
  · exact absurd first.here (second.first place reason before)
  · exact first.here.unique second.here
  · exact absurd second.here (first.first another other behind)

theorem reads_fragments (mapped : MappedList) (text : String) :
    Reads mapped.listProperty (fragments text) 0 (readSegments mapped.listProperty true (fragments text)) :=
  reads_readSegments rfl rfl rfl

def ofFragments (mapped : MappedList) (text : String) : PropertyPath :=
  ⟨text, (fragments text).mapIdx (segmentAt mapped.listProperty (fragments text)), mapped.keyMember, mapped.valueMember⟩

theorem parse_of_read {mapped : MappedList} {text : String} {segments : List Segment}
    (read : readSegments mapped.listProperty true (fragments text) = .ok segments) :
    parse mapped text = .ok ⟨text, segments, mapped.keyMember, mapped.valueMember⟩ := by
  unfold fragments at read
  unfold parse
  rw [read]

theorem parse_of_refused {mapped : MappedList} {text reason : String}
    (refused : readSegments mapped.listProperty true (fragments text) = .error reason) :
    parse mapped text = .error (.invalidPath text reason) := by
  unfold fragments at refused
  unfold parse
  rw [refused]

theorem parse_cases (mapped : MappedList) (text : String) :
    (parse mapped text = .ok (ofFragments mapped text) ∧
      ∀ place reason, ¬Violates mapped.listProperty (fragments text) place reason) ∨
    ∃ place reason, parse mapped text = .error (.invalidPath text reason) ∧
      Leftmost mapped.listProperty (fragments text) place reason := by
  have reads := reads_fragments mapped text
  generalize told : readSegments mapped.listProperty true (fragments text) = outcome at reads
  cases reads with
  | whole sound =>
    refine .inl ⟨(parse_of_read told).trans ?_, fun place reason => sound place reason (Nat.zero_le _)⟩
    simp only [List.drop_zero, Nat.zero_add, ofFragments]
  | @violation place reason here leftmost =>
    exact .inr ⟨place, reason, parse_of_refused told, here,
      fun earlier other before => leftmost earlier other (Nat.zero_le _) before⟩

section

variable {mapped : MappedList} {text : String}

theorem segments_get? (place : Nat) :
    (ofFragments mapped text).segments[place]? =
      (fragments text)[place]?.map (segmentAt mapped.listProperty (fragments text) place) :=
  List.getElem?_mapIdx

theorem segments_start : ∃ name later, (ofFragments mapped text).segments = .name name :: later := by
  unfold ofFragments
  cases shape : fragments text with
  | nil => exact absurd shape (fragments_ne_nil text)
  | cons name rest =>
    have read : segmentAt mapped.listProperty (name :: rest) 0 name = .name name := by simp [segmentAt, isKey]
    exact ⟨name, _, by rw [List.mapIdx_cons, read]⟩

theorem segments_before_key {before after : List Segment} {key : String}
    (split : (ofFragments mapped text).segments = before ++ .key key :: after) :
    ∃ earlier, before = earlier ++ [.name mapped.listProperty] := by
  have atKey : (ofFragments mapped text).segments[before.length]? = some (.key key) := by simp [split]
  rw [segments_get?, Option.map_eq_some_iff] at atKey
  obtain ⟨part, -, read⟩ := atKey
  have role : isKey mapped.listProperty (fragments text) before.length = true := isKey_of_segmentAt read
  obtain rfl | ⟨earlier, last, rfl⟩ := List.eq_nil_or_concat before
  · cases role
  · rw [List.concat_eq_append] at split role ⊢
    rw [List.length_append, List.length_singleton, isKey, Bool.and_eq_true_iff, beq_iff_eq, Bool.not_eq_true'] at role
    have read : segmentAt mapped.listProperty (fragments text) earlier.length mapped.listProperty =
        .name mapped.listProperty := by simp [segmentAt, role.2]
    have atList : (ofFragments mapped text).segments[earlier.length]? = some (.name mapped.listProperty) := by
      rw [segments_get?, role.1, Option.map_some, read]
    have shown : (ofFragments mapped text).segments[earlier.length]? = some last := by simp [split]
    exact ⟨earlier, by rw [Option.some.inj (shown.symm.trans atList)]⟩

theorem evaluate_cases {path : PropertyPath} {name : String} {later : List Segment}
    (starts : path.segments = .name name :: later) (item : Item) :
    (∃ tree, path.evaluate item = .ok tree ∧
      (property? item name).bind (follow path.keyMember path.valueMember later) = some tree) ∨
    path.evaluate item = .error (.missingProperty path.text) ∧
      (property? item name).bind (follow path.keyMember path.valueMember later) = none := by
  unfold evaluate
  rw [starts]
  dsimp only
  cases (property? item name).bind (follow path.keyMember path.valueMember later) with
  | some tree => exact .inl ⟨tree, rfl, rfl⟩
  | none => exact .inr ⟨rfl, rfl⟩

theorem evaluate_ne_invalidPath {path : PropertyPath} {name : String} {later : List Segment}
    (starts : path.segments = .name name :: later) (item : Item) (other reason : String) :
    path.evaluate item ≠ .error (.invalidPath other reason) := by
  obtain ⟨tree, found, -⟩ | ⟨missing, -⟩ := evaluate_cases starts item
  · rw [found]
    nofun
  · rw [missing]
    nofun

end

/-- The fragments of a text are what stands between its dots. The text is a path exactly if none of them violates the
grammar; otherwise the leftmost violation is told with the text. A path keeps its text, holds one segment for each
fragment, starts with a name, has its keys right behind the list property, and is never found invalid later. -/
theorem parse_by_place (mapped : MappedList) (text : String) :
    (".".intercalate (fragments text) = text ∧ ∀ part ∈ fragments text, '.' ∉ part.toList) ∧
    ((∃ path, parse mapped text = .ok path) ↔
      ∀ place reason, ¬Violates mapped.listProperty (fragments text) place reason) ∧
    (∀ error, parse mapped text = .error error ↔
      ∃ place reason, Leftmost mapped.listProperty (fragments text) place reason ∧ error = .invalidPath text reason) ∧
    ∀ path, parse mapped text = .ok path →
      path.text = text ∧ path = ofFragments mapped text ∧
      (∃ name later, path.segments = .name name :: later) ∧
      (∀ before key after, path.segments = before ++ .key key :: after →
        ∃ earlier, before = earlier ++ [.name mapped.listProperty]) ∧
      ∀ item other reason, path.evaluate item ≠ .error (.invalidPath other reason) := by
  refine ⟨⟨intercalate_fragments text, fun _ => dot_not_mem_of_mem_fragments⟩, ?_⟩
  obtain ⟨read, sound⟩ | ⟨place, reason, failed, leftmost⟩ := parse_cases mapped text
  · refine ⟨⟨fun _ => sound, fun _ => ⟨_, read⟩⟩, fun error => ⟨fun failed => ?_, ?_⟩, fun path same => ?_⟩
    · cases read.symm.trans failed
    · rintro ⟨place, reason, leftmost, -⟩
      exact absurd leftmost.here (sound place reason)
    · cases read.symm.trans same
      obtain ⟨name, later, starts⟩ := @segments_start mapped text
      exact ⟨rfl, rfl, ⟨name, later, starts⟩, fun before key after => segments_before_key,
        evaluate_ne_invalidPath starts⟩
  · refine ⟨⟨?_, fun sound => absurd leftmost.here (sound place reason)⟩, fun error => ⟨fun told => ?_, ?_⟩,
      fun path read => ?_⟩
    · rintro ⟨path, read⟩
      cases failed.symm.trans read
    · exact ⟨place, reason, leftmost, (Except.error.inj (failed.symm.trans told)).symm⟩
    · rintro ⟨another, other, alsoLeftmost, rfl⟩
      rw [failed, leftmost.unique alsoLeftmost]
    · cases failed.symm.trans read

end PropertyPath

namespace Trial

def numeric : MappedList := ⟨"3", "name", "value"⟩

/-- What `numeric` makes of a path: a key that equals its list property, then a name, then an index. -/
def counted : PropertyPath := ⟨"3.3.a.007", [.name "3", .key "3", .name "a", .index 7], "name", "value"⟩

end Trial

namespace PropertyPath

theorem parse_by_place_trial :
    parse Trial.numeric "3.3.a.007" = .ok Trial.counted ∧
      (∀ place reason, ¬Violates "3" (fragments "3.3.a.007") place reason) ∧
      (∀ item other reason, Trial.counted.evaluate item ≠ .error (.invalidPath other reason)) ∧
      ∃ place, Leftmost "3" (fragments "a.3.3.18446744073709551616..3") place indexTooLarge := by
  have list : Trial.numeric.listProperty = "3" := rfl
  have read : parse Trial.numeric "3.3.a.007" = .ok Trial.counted := by
    have parts : fragments "3.3.a.007" = ["3", "3", "a", "007"] := by decide
    apply parse_of_read
    rw [list, parts, readSegments_keyed (by decide) (by decide), readSegments_name (by decide) (by decide) (by decide),
      readSegments_index (by decide) (by decide) (by decide) (by decide)]
    rfl
  have failed : parse Trial.numeric "a.3.3.18446744073709551616..3" =
      .error (.invalidPath "a.3.3.18446744073709551616..3" indexTooLarge) := by
    have parts : fragments "a.3.3.18446744073709551616..3" = ["a", "3", "3", "18446744073709551616", "", "3"] := by
      decide
    apply parse_of_refused
    rw [list, parts, readSegments_name (by decide) (by decide) (by decide), readSegments_keyed (by decide) (by decide),
      readSegments_tooLarge (by decide) (by decide) (by decide) (by decide)]
    rfl
  obtain ⟨-, accepted, -, shape⟩ := parse_by_place Trial.numeric "3.3.a.007"
  obtain ⟨-, -, rejected, -⟩ := parse_by_place Trial.numeric "a.3.3.18446744073709551616..3"
  obtain ⟨place, reason, leftmost, same⟩ := (rejected _).1 failed
  cases same
  exact ⟨read, accepted.1 ⟨_, read⟩, (shape _ read).2.2.2.2, place, leftmost⟩

end PropertyPath
end CatalogIndex
