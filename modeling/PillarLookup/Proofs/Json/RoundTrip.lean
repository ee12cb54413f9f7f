import PillarLookup.Json.Printer
import PillarLookup.Proofs.Json.Regular

/-!
# Printing and reading

A regular integral value is what reading its compact text yields, both as a value
of any kind and, for an object, as a map. The induction is on the levels of lists
and objects that may be opened, as in the reader; within a level it follows the
items of a list and the entries of an object.
-/

namespace PillarLookup.Json

/-- What every printed value starts with: no blank and no closing bracket. -/
def Opens (char : Char) : Prop :=
  isSpace char = false ∧ char ≠ ']' ∧ char ≠ '\x7d'

instance (char : Char) : Decidable (Opens char) :=
  inferInstanceAs (Decidable (_ ∧ _))

theorem opens_of_isDigit {char : Char} (digit : Text.isDigit char = true) : Opens char := by
  simp only [Text.isDigit, Bool.and_eq_true, decide_eq_true_eq] at digit
  refine ⟨?_, ?_, ?_⟩
  · simp only [isSpace, Bool.or_eq_false_iff, decide_eq_false_iff_not]
    refine ⟨⟨⟨?_, ?_⟩, ?_⟩, ?_⟩ <;> (rintro rfl; revert digit; decide)
  · rintro rfl
    revert digit
    decide
  · rintro rfl
    revert digit
    decide

theorem exists_digits_cons (number : Nat) :
    ∃ first rest, Text.digits number = first :: rest ∧ Text.isDigit first = true := by
  cases shape : Text.digits number with
  | nil => exact absurd shape (Text.digits_ne_nil number)
  | cons first rest =>
      exact ⟨first, rest, rfl, Text.digits_isDigit number first (by simp [shape])⟩

theorem exists_chars_cons {value : Json} (whole : integral value = true) :
    ∃ first rest, chars value = first :: rest ∧ Opens first := by
  cases value with
  | null => exact ⟨'n', _, by rw [chars], by decide⟩
  | bool value =>
      cases value with
      | true => exact ⟨'t', _, by rw [chars], by decide⟩
      | false => exact ⟨'f', _, by rw [chars], by decide⟩
  | int value =>
      rw [chars, intChars]
      split
      · exact ⟨'-', _, rfl, by decide⟩
      · obtain ⟨first, rest, shape, digit⟩ := exists_digits_cons value.natAbs
        exact ⟨first, rest, shape, opens_of_isDigit digit⟩
  | real value => simp [integral] at whole
  | str value => exact ⟨'"', _, by rw [chars, stringChars]; rfl, by decide⟩
  | arr items => exact ⟨'[', _, by rw [chars], by decide⟩
  | obj members => exact ⟨'\x7b', _, by rw [chars], by decide⟩

/-- A reader takes the text of a value for the value, whatever follows that ends a number. -/
def ReadsBack (reader : Reader Json) (value : Json) : Prop :=
  ∀ rest, EndsNumber rest → reader (chars value ++ rest) = .ok (value, rest)

/-! ## Lists -/

theorem endsNumber_moreItemsChars (items : List Json) (rest : List Char) :
    EndsNumber (moreItemsChars items ++ rest) := by
  cases items with
  | nil => exact endsNumber_cons _ (by decide)
  | cons item more =>
      rw [moreItemsChars]
      exact endsNumber_cons _ (by decide)

theorem length_lt_moreItemsChars (items : List Json) :
    items.length < (moreItemsChars items).length := by
  induction items with
  | nil => simp [moreItemsChars]
  | cons item rest ih =>
      simp only [moreItemsChars, List.length_cons, List.length_append]
      omega

theorem readMoreItems_chars {item : Reader Json} {items : List Json}
    (each : ∀ value ∈ items, integral value = true ∧ ReadsBack item value) (bound : Nat)
    (enough : items.length < bound) (done : List Json) (rest : List Char) :
    readMoreItems item bound done (moreItemsChars items ++ rest) =
      .ok (done.reverse ++ items, rest) := by
  induction items generalizing bound done with
  | nil =>
      obtain ⟨bound, rfl⟩ := Nat.exists_eq_succ_of_ne_zero (Nat.ne_of_gt enough)
      simp only [moreItemsChars, List.singleton_append, readMoreItems]
      rw [skipBlanks_cons (by decide)]
      simp
  | cons value more ih =>
      obtain ⟨bound, rfl⟩ := Nat.exists_eq_succ_of_ne_zero (Nat.ne_zero_of_lt enough)
      obtain ⟨whole, back⟩ := each value List.mem_cons_self
      obtain ⟨first, tail, shape, opens⟩ := exists_chars_cons whole
      have read := back _ (endsNumber_moreItemsChars more rest)
      rw [shape, List.cons_append] at read
      have later := ih (fun other member => each other (List.mem_cons_of_mem _ member)) bound
        (Nat.lt_of_succ_lt_succ enough) (value :: done)
      simp only [moreItemsChars, List.cons_append, List.append_assoc, readMoreItems, shape]
      rw [skipBlanks_cons (by decide)]
      simp only [if_false, if_true, Char.reduceEq]
      rw [skipBlanks_cons opens.1]
      simp only [opens.2.1, if_false, read, later]
      simp

theorem readItems_chars {item : Reader Json} {items : List Json}
    (each : ∀ value ∈ items, integral value = true ∧ ReadsBack item value) (rest : List Char) :
    readItems item (itemsChars items ++ rest) = .ok (items, rest) := by
  cases items with
  | nil =>
      simp only [itemsChars, List.singleton_append, readItems]
      rw [skipBlanks_cons (by decide)]
      simp
  | cons value more =>
      obtain ⟨whole, back⟩ := each value List.mem_cons_self
      obtain ⟨first, tail, shape, opens⟩ := exists_chars_cons whole
      have read := back _ (endsNumber_moreItemsChars more rest)
      rw [shape, List.cons_append] at read
      have enough := length_lt_moreItemsChars more
      have later := readMoreItems_chars
        (fun other member => each other (List.mem_cons_of_mem _ member))
        (moreItemsChars more ++ rest).length (by rw [List.length_append]; omega) [value] rest
      simp only [itemsChars, List.append_assoc, readItems, shape, List.cons_append]
      rw [skipBlanks_cons opens.1]
      simp only [opens.2.1, if_false, read, later]
      simp

/-! ## Objects -/

theorem endsNumber_moreMembersChars (members : Members Json) (rest : List Char) :
    EndsNumber (moreMembersChars members ++ rest) := by
  cases members with
  | nil => exact endsNumber_cons _ (by decide)
  | cons entry more =>
      rw [moreMembersChars]
      exact endsNumber_cons _ (by decide)

theorem length_lt_moreMembersChars (members : Members Json) :
    members.length < (moreMembersChars members).length := by
  induction members with
  | nil => simp [moreMembersChars]
  | cons entry rest ih =>
      simp only [moreMembersChars, List.length_cons, List.length_append]
      omega

theorem readMember_chars {value : Reader Json} {entry : String × Json}
    (back : ReadsBack value entry.2) {rest : List Char} (ends : EndsNumber rest) :
    readMember value (entry.1.toList.flatMap escape ++ '"' :: ':' :: (chars entry.2 ++ rest)) =
      .ok (entry, rest) := by
  have colon : readColon (':' :: (chars entry.2 ++ rest)) = .ok (chars entry.2 ++ rest) := by
    rw [readColon]
    rw [skipBlanks_cons (by decide)]
    simp
  simp only [readMember, readString_escaped, colon, back rest ends]

theorem readMoreMembers_chars {value : Reader Json} {members : Members Json}
    (each : ∀ entry ∈ members, ReadsBack value entry.2) (bound : Nat)
    (enough : members.length < bound) (done : Members Json)
    (ascending : (done ++ members).Ascending) (rest : List Char) :
    readMoreMembers value bound done (moreMembersChars members ++ rest) =
      .ok (done ++ members, rest) := by
  induction members generalizing bound done with
  | nil =>
      obtain ⟨bound, rfl⟩ := Nat.exists_eq_succ_of_ne_zero (Nat.ne_of_gt enough)
      simp only [moreMembersChars, List.singleton_append, readMoreMembers, nextMember]
      rw [skipBlanks_cons (by decide)]
      simp
  | cons entry more ih =>
      obtain ⟨bound, rfl⟩ := Nat.exists_eq_succ_of_ne_zero (Nat.ne_zero_of_lt enough)
      have beyond : ∀ other ∈ done, other.1 < entry.1 := fun other member =>
        (List.pairwise_append.mp ascending).2.2 other member entry List.mem_cons_self
      have joined : done.insert entry.1 entry.2 = done ++ [entry] :=
        Members.insert_of_forall_lt entry.2 beyond
      have read := readMember_chars (each entry List.mem_cons_self)
        (endsNumber_moreMembersChars more rest)
      have later := ih (fun other member => each other (List.mem_cons_of_mem _ member)) bound
        (Nat.lt_of_succ_lt_succ enough) (done ++ [entry]) (by simpa using ascending)
      simp only [moreMembersChars, stringChars, List.cons_append, List.append_assoc,
        readMoreMembers, nextMember]
      rw [skipBlanks_cons (by decide)]
      simp only [if_false, if_true, Char.reduceEq]
      rw [skipBlanks_cons (by decide)]
      simp only [List.nil_append, if_true, read, joined, later]
      simp

theorem readMembers_chars {value : Reader Json} {members : Members Json}
    (each : ∀ entry ∈ members, ReadsBack value entry.2) (ascending : members.Ascending)
    (rest : List Char) :
    readMembers value (membersChars members ++ rest) = .ok (members, rest) := by
  cases members with
  | nil =>
      simp only [membersChars, List.singleton_append, readMembers, firstMember]
      rw [skipBlanks_cons (by decide)]
      simp
  | cons entry more =>
      have read := readMember_chars (each entry List.mem_cons_self)
        (endsNumber_moreMembersChars more rest)
      have enough := length_lt_moreMembersChars more
      have later := readMoreMembers_chars
        (fun other member => each other (List.mem_cons_of_mem _ member))
        (moreMembersChars more ++ rest).length (by rw [List.length_append]; omega) [entry]
        ascending rest
      simp only [membersChars, stringChars, List.cons_append, List.append_assoc, readMembers,
        firstMember]
      rw [skipBlanks_cons (by decide)]
      simp only [List.nil_append, if_false, if_true, Char.reduceEq, read, Members.insert, later,
        List.singleton_append]

/-! ## Values -/

theorem readValueWith_int {value : Int} (word : IsWord value) (inner : Option (Reader Json)) :
    ReadsBack (readValueWith inner) (.int value) := by
  intro rest ends
  rw [chars, intChars]
  by_cases negative : value < 0
  · rw [if_pos negative, List.cons_append, readValueWith, skipBlanks_cons (by decide)]
    simp only [Char.reduceEq, if_false, if_true,
      readNumber_intChars_of_neg negative word.1 ends, afterNumber]
  · obtain ⟨first, tail, shape, digit⟩ := exists_digits_cons value.natAbs
    have others : first ≠ 'n' ∧ first ≠ 't' ∧ first ≠ 'f' ∧ first ≠ '-' := by
      refine ⟨?_, ?_, ?_, ?_⟩ <;> (rintro rfl; revert digit; decide)
    have read := readNumber_intChars_of_nonneg (Int.not_lt.mp negative) word.2 ends
    rw [shape, List.cons_append] at read
    rw [if_neg negative, shape, List.cons_append, readValueWith,
      skipBlanks_cons (opens_of_isDigit digit).1]
    simp only [others.1, others.2.1, others.2.2.1, others.2.2.2, digit, if_false, if_true, read,
      afterNumber]

theorem readValueWith_str (value : String) (inner : Option (Reader Json)) :
    ReadsBack (readValueWith inner) (.str value) := by
  intro rest _
  simp only [chars, stringChars, readValueWith, List.cons_append, List.append_assoc]
  rw [skipBlanks_cons (by decide)]
  have notDigit : Text.isDigit '"' = false := by decide
  simp [notDigit, readString_escaped]

theorem readValueWith_arr {inner : Reader Json} {items : List Json}
    (each : ∀ value ∈ items, integral value = true ∧ ReadsBack inner value) :
    ReadsBack (readValueWith (some inner)) (.arr items) := by
  intro rest _
  simp only [chars, readValueWith, List.cons_append]
  rw [skipBlanks_cons (by decide)]
  have notDigit : Text.isDigit '[' = false := by decide
  simp [notDigit, readNested, readItems_chars each rest]

theorem readValueWith_obj {inner : Reader Json} {members : Members Json}
    (each : ∀ entry ∈ members, ReadsBack inner entry.2) (ascending : members.Ascending) :
    ReadsBack (readValueWith (some inner)) (.obj members) := by
  intro rest _
  simp only [chars, readValueWith, List.cons_append]
  rw [skipBlanks_cons (by decide)]
  have notDigit : Text.isDigit '\x7b' = false := by decide
  simp [notDigit, readNested, readMembers_chars each ascending rest]

/-- A scalar reads back at any level. -/
theorem readValueWith_scalar {levels : Nat} {value : Json} (regular : Regular levels value)
    (whole : integral value = true) (flat : value.asArray? = none ∧ value.asObject? = none)
    (inner : Option (Reader Json)) : ReadsBack (readValueWith inner) value := by
  cases value with
  | null =>
      intro rest _
      simp only [chars, readValueWith, List.cons_append]
      rw [skipBlanks_cons (by decide)]
      simp [readWord, afterWord]
  | bool value =>
      intro rest _
      cases value <;>
      · simp only [chars, readValueWith, List.cons_append]
        rw [skipBlanks_cons (by decide)]
        simp [readWord, afterWord]
  | int value => exact readValueWith_int ((regular_int levels value).mp regular) inner
  | real value => simp [integral] at whole
  | str value => exact readValueWith_str value inner
  | arr items => simp [asArray?] at flat
  | obj members => simp [asObject?] at flat

/-- A regular integral value reads back from its compact text. -/
theorem readsBack_readValue {levels : Nat} {value : Json} (regular : Regular levels value)
    (whole : integral value = true) : ReadsBack (readValue levels) value := by
  induction levels generalizing value with
  | zero =>
      cases value with
      | arr items => exact absurd regular (not_regular_zero_arr items)
      | obj members => exact absurd regular (not_regular_zero_obj members)
      | _ => exact readValueWith_scalar regular whole ⟨rfl, rfl⟩ none
  | succ levels ih =>
      cases value with
      | arr items =>
          rw [regular_arr] at regular
          rw [integral_arr, List.all_eq_true] at whole
          exact readValueWith_arr fun item member =>
            ⟨whole item member, ih (regular item member) (whole item member)⟩
      | obj members =>
          rw [regular_obj] at regular
          rw [integral_obj, List.all_eq_true] at whole
          exact readValueWith_obj
            (fun entry member => ih (regular.2 entry member) (whole entry member)) regular.1
      | _ => exact readValueWith_scalar regular whole ⟨rfl, rfl⟩ (some (readValue levels))

theorem decodeWith_of_reads {α : Type} {reader : Reader α} {text rest : List Char} {value : α}
    (read : reader text = .ok (value, rest)) (blank : skipBlanks rest = []) :
    decodeWith reader (String.ofList text) = .ok value := by
  simp [decodeWith, readWhole, read, blank]

/-- A regular integral value is decoded from its compact text. -/
theorem decode_text {value : Json} (regular : Regular nestingLimit value)
    (whole : integral value = true) : decode value.text = .ok value := by
  have read := readsBack_readValue regular whole [] endsNumber_nil
  rw [List.append_nil] at read
  exact decodeWith_of_reads read rfl

/-- A line end behind the text makes no difference. -/
theorem decode_line {value : Json} (regular : Regular nestingLimit value)
    (whole : integral value = true) : decode (value.text ++ "\n") = .ok value := by
  have read := readsBack_readValue regular whole ['\n'] (endsNumber_cons [] (by decide))
  have same : value.text ++ "\n" = String.ofList (chars value ++ ['\n']) :=
    String.ofList_append.symm
  rw [same]
  exact decodeWith_of_reads read (by decide)

/-- Different values are printed differently. -/
theorem text_inj {first second : Json} (first_regular : Regular nestingLimit first)
    (first_whole : integral first = true) (second_regular : Regular nestingLimit second)
    (second_whole : integral second = true) : first.text = second.text ↔ first = second := by
  constructor
  · intro same
    have decoded := decode_text first_regular first_whole
    rw [same, decode_text second_regular second_whole] at decoded
    exact (Except.ok.inj decoded).symm
  · intro same
    rw [same]

/-- The map of a regular integral object is decoded from the compact text of the object. -/
theorem decodeMap_text {members : Members Json} (regular : Regular nestingLimit (.obj members))
    (whole : integral (.obj members) = true) :
    decodeMap (text (.obj members)) = .ok members := by
  have limit : nestingLimit = 126 + 1 := rfl
  rw [limit, regular_obj] at regular
  rw [integral_obj, List.all_eq_true] at whole
  have read := readMembers_chars
    (fun entry member => readsBack_readValue (regular.2 entry member) (whole entry member))
    regular.1 []
  rw [List.append_nil] at read
  have map : readMap readValue nestingLimit (chars (.obj members)) = .ok (members, []) := by
    simp only [chars, readMap]
    rw [skipBlanks_cons (by decide), limit]
    simp [read]
  exact decodeWith_of_reads map rfl

end PillarLookup.Json
