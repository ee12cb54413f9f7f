import Mathlib.Data.List.Induction
import Mathlib.Data.List.Sort
import Mathlib.Data.String.Basic
import PillarLookup.Proofs.Json.Regular

/-!
# The entries of an object

An object as it stands in a text: its entries in their order, with each key as often
as it was written. The map that such a text decodes to is what is left of them when
later entries replace earlier ones of the same key. A text decodes to a map if and
only if it decodes to a value that is an object, and the members are the same.
-/

namespace PillarLookup

namespace Members

variable {α : Type}

/-! ## What is left of entries -/

theorem ofList_append_singleton (entries : List (String × α)) (entry : String × α) :
    ofList (entries ++ [entry]) = (ofList entries).insert entry.1 entry.2 := by
  rw [ofList, List.foldl_append, List.foldl_cons, List.foldl_nil, ofList]

theorem ascending_ofList (entries : List (String × α)) : (ofList entries).Ascending := by
  induction entries using List.reverseRecOn with
  | nil => exact List.Pairwise.nil
  | append_singleton entries entry ih =>
      rw [ofList_append_singleton]
      exact ascending_insert entry.1 entry.2 ih

theorem keys_ascend {members : Members α} (ascending : members.Ascending) :
    members.keys.Pairwise fun first second => first < second :=
  List.pairwise_map.mpr ascending

/-- Of the entries with one key the last is in force. -/
theorem get?_ofList (entries : List (String × α)) (key : String) :
    (ofList entries).get? key =
      (entries.reverse.find? fun entry => entry.1 = key).map (·.2) := by
  induction entries using List.reverseRecOn with
  | nil => rfl
  | append_singleton entries entry ih =>
      rw [ofList_append_singleton, get?_insert, ih, List.reverse_append, List.reverse_singleton,
        List.singleton_append, List.find?_cons]
      by_cases same : key = entry.1
      · simp [same]
      · simp [same, Ne.symm same]

theorem mem_keys_ofList {entries : List (String × α)} {key : String} :
    key ∈ (ofList entries).keys ↔ key ∈ entries.map (·.1) := by
  rw [← contains_eq_true_iff, contains, get?_ofList]
  simp

/-- Keys that ascend are told by what is among them. -/
theorem keys_ofList_eq {entries : List (String × α)} {keys : List String}
    (ascending : keys.Pairwise fun first second => first < second)
    (listed : ∀ key, key ∈ keys ↔ key ∈ entries.map (·.1)) :
    (ofList entries).keys = keys := by
  apply List.Pairwise.eq_of_mem_iff (keys_ascend (ascending_ofList entries)) ascending
  intro key
  rw [listed key]
  exact mem_keys_ofList

/-- Entries with one key come to one member, whose value is the last one. -/
theorem ofList_of_same_key {earlier : List (String × α)} {key : String} (value : α)
    (same : ∀ entry ∈ earlier, entry.1 = key) :
    ofList (earlier ++ [(key, value)]) = [(key, value)] := by
  have keys : (ofList (earlier ++ [(key, value)])).keys = [key] := by
    refine keys_ofList_eq (List.pairwise_singleton _ key) fun other => ?_
    simp only [List.mem_singleton, List.map_append, List.map_cons, List.map_nil, List.mem_append,
      List.mem_map]
    constructor
    · exact .inr
    · rintro (⟨entry, listed, rfl⟩ | last)
      · exact same entry listed
      · exact last
  have held : (ofList (earlier ++ [(key, value)])).get? key = some value := by
    rw [ofList_append_singleton, get?_insert, if_pos rfl]
  match members : ofList (earlier ++ [(key, value)]), keys with
  | [(only, last)], keys =>
      obtain rfl : only = key := List.singleton_inj.mp keys
      rw [members, get?, if_pos rfl] at held
      cases held
      rfl

theorem keys_cons (entry : String × α) (rest : Members α) :
    keys (entry :: rest) = entry.1 :: keys rest :=
  rfl

/-- Members in order are their keys with what is found under them. -/
theorem filterMap_keys {members : Members α} (ascending : members.Ascending) :
    (members.keys.filterMap fun key => (members.get? key).map (Prod.mk key)) = members := by
  induction members with
  | nil => rfl
  | cons entry rest ih =>
      obtain ⟨beyond, later⟩ := List.pairwise_cons.mp ascending
      have skipped : ∀ key ∈ keys rest, get? key (entry :: rest) = get? key rest := by
        intro key listed
        obtain ⟨other, member, rfl⟩ := List.mem_map.mp listed
        have differ : other.1 ≠ entry.1 := by
          intro same
          exact String.lt_irrefl entry.1 (same ▸ beyond other member)
        rw [get?, if_neg differ]
      rw [keys_cons, List.filterMap_cons, get?, if_pos rfl]
      refine congrArg (entry :: ·) (Eq.trans ?_ (ih later))
      exact List.filterMap_congr fun key listed => by rw [skipped key listed]

/-- Objects are the same if the same is found under every key. -/
theorem eq_of_get?_eq {members others : Members α} (ascending : members.Ascending)
    (also : others.Ascending) (same : ∀ key, members.get? key = others.get? key) :
    members = others := by
  have keys_eq : members.keys = others.keys := by
    apply List.Pairwise.eq_of_mem_iff (keys_ascend ascending) (keys_ascend also)
    intro key
    rw [← contains_eq_true_iff, ← contains_eq_true_iff, contains, contains, same]
  calc members
      = members.keys.filterMap fun key => (members.get? key).map (Prod.mk key) :=
        (filterMap_keys ascending).symm
    _ = others.keys.filterMap fun key => (others.get? key).map (Prod.mk key) := by
        simp only [keys_eq, same]
    _ = others := filterMap_keys also

/-- The last value that stands under a key. -/
def lastOf (entries : List (String × α)) (key : String) : Option α :=
  (entries.reverse.find? fun entry => entry.1 = key).map (·.2)

/-- Neither the order of different keys nor values that are replaced make a difference. -/
theorem ofList_eq_iff {entries others : List (String × α)} :
    ofList entries = ofList others ↔ ∀ key, lastOf entries key = lastOf others key := by
  constructor
  · intro same key
    have found := congrArg (get? key) same
    rwa [get?_ofList, get?_ofList] at found
  · intro same
    apply eq_of_get?_eq (ascending_ofList entries) (ascending_ofList others)
    intro key
    rw [get?_ofList, get?_ofList]
    exact same key

end Members

namespace Json

/-! ## Reading the entries -/

section Entries

variable {α β : Type}

def readMoreEntries (value : Reader α) : Nat → Reader (List (String × α))
  | 0, text => failNext .endInObject text
  | bound + 1, text =>
      match nextMember text with
      | .error fault => .error fault
      | .ok (.close rest) => .ok ([], rest)
      | .ok (.key rest) =>
          match readMember value rest with
          | .error fault => .error fault
          | .ok (entry, left) =>
              (readMoreEntries value bound left).map fun more => (entry :: more.1, more.2)

/-- Read the entries of an object as they stand, its opening brace already consumed. -/
def readEntries (value : Reader α) : Reader (List (String × α)) := fun text =>
  match firstMember text with
  | .error fault => .error fault
  | .ok (.close rest) => .ok ([], rest)
  | .ok (.key rest) =>
      match readMember value rest with
      | .error fault => .error fault
      | .ok (entry, left) =>
          (readMoreEntries value left.length left).map fun more => (entry :: more.1, more.2)

/-- Read an object and keep its entries as they stand. -/
def readObject (value : Nat → Reader α) (levels : Nat) : Reader (List (String × α)) :=
  fun text =>
    match skipBlanks text with
    | [] => failNext .endInValue []
    | first :: rest =>
        if first = '\x7b' then
          match levels with
          | 0 => failNext .tooDeep (first :: rest)
          | inner + 1 => readEntries (value inner) rest
        else wrongType "a map" (first :: rest)

/-- The entries of a text that is an object. -/
def decodeEntries (text : String) : Except ReadError (List (String × Json)) :=
  decodeWith (readObject readValue nestingLimit) text

theorem readMoreMembers_eq (value : Reader α) (bound : Nat) (done : Members α)
    (text : List Char) :
    readMoreMembers value bound done text =
      (readMoreEntries value bound text).map fun read =>
        (read.1.foldl (fun members entry => members.insert entry.1 entry.2) done, read.2) := by
  induction bound generalizing done text with
  | zero => rfl
  | succ bound ih =>
      rw [readMoreMembers, readMoreEntries]
      cases nextMember text with
      | error fault => rfl
      | ok start =>
          cases start with
          | close rest => rfl
          | key rest =>
              dsimp only
              cases readMember value rest with
              | error fault => rfl
              | ok read =>
                  dsimp only
                  rw [ih]
                  cases readMoreEntries value bound read.2 <;> rfl

theorem readMembers_eq (value : Reader α) (text : List Char) :
    readMembers value text =
      (readEntries value text).map fun read => (Members.ofList read.1, read.2) := by
  rw [readMembers, readEntries]
  cases firstMember text with
  | error fault => rfl
  | ok start =>
      cases start with
      | close rest => rfl
      | key rest =>
          dsimp only
          cases readMember value rest with
          | error fault => rfl
          | ok read =>
              dsimp only
              rw [readMoreMembers_eq]
              cases readMoreEntries value read.2.length read.2 <;> rfl

/-- A value of another type is refused whatever was expected to be made of it. -/
theorem map_wrongType (make : α → β) (expected : String) (text : List Char) :
    (wrongType expected text : Except Fault α).map make = wrongType expected text := by
  unfold wrongType
  dsimp only
  repeat' split
  all_goals rfl

theorem readMap_eq (value : Nat → Reader α) (levels : Nat) (text : List Char) :
    readMap value levels text =
      (readObject value levels text).map fun read => (Members.ofList read.1, read.2) := by
  rw [readMap, readObject]
  cases skipBlanks text with
  | nil => rfl
  | cons first rest =>
      dsimp only
      by_cases brace : first = '\x7b'
      · rw [if_pos brace, if_pos brace]
        cases levels with
        | zero => rfl
        | succ inner => exact readMembers_eq (value inner) rest
      · rw [if_neg brace, if_neg brace]
        exact (map_wrongType _ "a map" (first :: rest)).symm

/-- What is made of a value that was read can be made of the decoded value as well. -/
theorem decodeWith_map {reader : Reader α} {other : Reader β} (make : α → β)
    (same : ∀ text, other text = (reader text).map fun read => (make read.1, read.2))
    (text : String) : decodeWith other text = (decodeWith reader text).map make := by
  rw [decodeWith, decodeWith, readWhole, readWhole, same]
  cases reader text.toList with
  | error fault => rfl
  | ok read =>
      dsimp only [Except.map]
      cases skipBlanks read.2 <;> rfl

/-- The map of a text is what is left of its entries. -/
theorem decodeMap_eq (text : String) :
    decodeMap text = (decodeEntries text).map Members.ofList :=
  decodeWith_map Members.ofList (readMap_eq readValue nestingLimit) text

theorem decodeMap_of_entries {text : String} {entries : List (String × Json)}
    (decoded : decodeEntries text = .ok entries) :
    decodeMap text = .ok (Members.ofList entries) := by
  rw [decodeMap_eq, decoded]
  rfl

end Entries

/-! ## Maps and objects -/

section Objects

variable {levels : Nat} {text rest : List Char} {members : Members Json}

theorem not_obj_of_afterWord {value : Json} {result : Except Fault (List Char)}
    (other : value.asObject? = none) : afterWord value result ≠ .ok (.obj members, rest) := by
  cases result with
  | error fault => simp [afterWord]
  | ok left =>
      rintro ⟨⟩
      cases other

theorem not_obj_of_afterNumber {result : Except Fault (Numeral × List Char)} :
    afterNumber result ≠ .ok (.obj members, rest) := by
  cases result with
  | error fault => simp [afterNumber]
  | ok read =>
      obtain ⟨number, left⟩ := read
      cases number <;> simp [afterNumber]

/-- Only a brace opens an object. -/
theorem readNested_eq_obj_iff {inner : Option (Reader Json)} {first : Char} :
    readNested inner first text = .ok (.obj members, rest) ↔
      first ≠ '[' ∧ ∃ value, inner = some value ∧ readMembers value text = .ok (members, rest) := by
  unfold readNested
  cases inner with
  | none => simp [failNext]
  | some value =>
      by_cases list : first = '['
      · simp only [list, if_true, ne_eq, not_true_eq_false, false_and, iff_false]
        cases readItems value text <;> simp
      · simp only [list, if_false, ne_eq, not_false_eq_true, true_and, Option.some.injEq,
          exists_eq_left']
        cases readMembers value text <;> simp [Prod.ext_iff]

/-- A reader of maps takes what a reader of values takes for an object. -/
theorem readMap_eq_ok_iff :
    readMap readValue levels text = .ok (members, rest) ↔
      readValue levels text = .ok (.obj members, rest) := by
  have nested : readValue levels = readValueWith (match levels with
      | 0 => none
      | inner + 1 => some (readValue inner)) := by
    cases levels <;> rfl
  rw [nested, readMap, readValueWith]
  cases skipBlanks text with
  | nil => simp [failNext]
  | cons first more =>
      dsimp only
      by_cases brace : first = '\x7b'
      · subst brace
        have plain : Text.isDigit '\x7b' = false := by decide
        simp only [Char.reduceEq, plain, if_false, if_true, Bool.false_eq_true, decide_true,
          decide_false, Bool.or_true, readNested_eq_obj_iff]
        cases levels with
        | zero => simp [failNext]
        | succ inner => simp
      · rw [if_neg brace]
        refine iff_of_false not_ok_of_wrongType ?_
        split
        · exact not_obj_of_afterWord rfl
        split
        · exact not_obj_of_afterWord rfl
        split
        · exact not_obj_of_afterWord rfl
        split
        · exact not_obj_of_afterNumber
        split
        · exact not_obj_of_afterNumber
        split
        · cases readString more <;> simp
        split
        · rename_i opens
          have list : first = '[' := by simpa [brace] using opens
          rw [readNested_eq_obj_iff]
          exact fun object => object.1 list
        · simp [failNext]

theorem decodeWith_eq_ok_iff {α : Type} {reader : Reader α} {text : String} {value : α} :
    decodeWith reader text = .ok value ↔
      ∃ rest, reader text.toList = .ok (value, rest) ∧ skipBlanks rest = [] := by
  rw [decodeWith, readWhole]
  cases reader text.toList with
  | error fault => simp
  | ok read =>
      obtain ⟨found, rest⟩ := read
      cases blank : skipBlanks rest with
      | nil => simp [blank]
      | cons next more => simp [blank, failNext]

/-- A text decodes to a map exactly if it decodes to an object, with the same members. -/
theorem decodeMap_eq_ok_iff {text : String} {members : Members Json} :
    decodeMap text = .ok members ↔ decode text = .ok (.obj members) := by
  simp only [decodeMap, decode, decodeWith_eq_ok_iff, readMap_eq_ok_iff]

end Objects

end Json

end PillarLookup
