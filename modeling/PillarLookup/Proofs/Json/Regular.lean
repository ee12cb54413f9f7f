import PillarLookup.Json.Shape
import PillarLookup.Proofs.Json.Lexeme

/-!
# Regular values

What reading yields: integers are words of 64 bits, the keys of every object
ascend, and no more lists and objects lie within each other than the reader may
open. A value is integral if none of its numbers is a binary fraction; regular
integral values are those that printing and reading carry over unchanged.
-/

namespace PillarLookup.Json

/-- A value as a reader yields it that may open `levels` lists and objects. -/
def Regular : Nat → Json → Prop
  | _, .int value => IsWord value
  | 0, .arr _ => False
  | 0, .obj _ => False
  | levels + 1, .arr items => ∀ item ∈ items, Regular levels item
  | levels + 1, .obj members =>
      Members.Ascending members ∧ ∀ entry ∈ members, Regular levels entry.2
  | _, _ => True

@[simp] theorem regular_null (levels : Nat) : Regular levels .null := by
  simp [Regular]

@[simp] theorem regular_bool (levels : Nat) (value : Bool) : Regular levels (.bool value) := by
  simp [Regular]

@[simp] theorem regular_str (levels : Nat) (value : String) : Regular levels (.str value) := by
  simp [Regular]

@[simp] theorem regular_real (levels : Nat) (value : Binary64) :
    Regular levels (.real value) := by
  simp [Regular]

@[simp] theorem regular_int (levels : Nat) (value : Int) :
    Regular levels (.int value) ↔ IsWord value := by
  cases levels <;> rfl

@[simp] theorem regular_arr (levels : Nat) (items : List Json) :
    Regular (levels + 1) (.arr items) ↔ ∀ item ∈ items, Regular levels item := by
  simp [Regular]

@[simp] theorem regular_obj (levels : Nat) (members : Members Json) :
    Regular (levels + 1) (.obj members) ↔
      Members.Ascending members ∧ ∀ entry ∈ members, Regular levels entry.2 := by
  simp [Regular]

@[simp] theorem not_regular_zero_arr (items : List Json) : ¬ Regular 0 (.arr items) := by
  simp [Regular]

@[simp] theorem not_regular_zero_obj (members : Members Json) : ¬ Regular 0 (.obj members) := by
  simp [Regular]

/-- A further level does no harm. -/
theorem Regular.succ {levels : Nat} {value : Json} (regular : Regular levels value) :
    Regular (levels + 1) value := by
  induction levels generalizing value with
  | zero => cases value <;> simp_all
  | succ levels ih =>
      cases value with
      | arr items =>
          rw [regular_arr] at regular ⊢
          exact fun item member => ih (regular item member)
      | obj members =>
          rw [regular_obj] at regular ⊢
          exact ⟨regular.1, fun entry member => ih (regular.2 entry member)⟩
      | _ => simp_all

theorem Regular.mono {levels more : Nat} {value : Json} (regular : Regular levels value)
    (within : levels ≤ more) : Regular more value := by
  induction within with
  | refl => exact regular
  | step _ ih => exact ih.succ

mutual

/-- No number in the value is a binary fraction. -/
def integral : Json → Bool
  | .real _ => false
  | .arr items => integralItems items
  | .obj members => integralMembers members
  | _ => true

def integralItems : List Json → Bool
  | [] => true
  | item :: rest => integral item && integralItems rest

def integralMembers : List (String × Json) → Bool
  | [] => true
  | (_, value) :: rest => integral value && integralMembers rest

end

@[simp] theorem integral_arr (items : List Json) :
    integral (.arr items) = items.all integral := by
  rw [integral]
  induction items with
  | nil => rfl
  | cons item rest ih => rw [integralItems, ih, List.all_cons]

@[simp] theorem integral_obj (members : Members Json) :
    integral (.obj members) = members.all fun entry => integral entry.2 := by
  rw [integral]
  induction members with
  | nil => rfl
  | cons entry rest ih => rw [integralMembers, ih, List.all_cons]

/-! ## What readers yield -/

section Yields

variable {α : Type} {P : α → Prop}

/-- Every value that a reader yields has a property. -/
def Yields (reader : Reader α) (P : α → Prop) : Prop :=
  ∀ ⦃text value rest⦄, reader text = .ok (value, rest) → P value

theorem forall_of_readMoreItems {item : Reader α} (each : Yields item P) {bound : Nat}
    {done items : List α} {text rest : List Char} (before : ∀ value ∈ done, P value)
    (read : readMoreItems item bound done text = .ok (items, rest)) :
    ∀ value ∈ items, P value := by
  induction bound generalizing done text with
  | zero => simp [readMoreItems, failNext] at read
  | succ bound ih =>
      rw [readMoreItems] at read
      split at read
      · simp [failNext] at read
      · split at read
        · simp only [Except.ok.injEq, Prod.mk.injEq] at read
          simpa [← read.1] using before
        · split at read
          · split at read
            · simp [failNext] at read
            · split at read
              · simp [failNext] at read
              · split at read
                · contradiction
                · rename_i value left found
                  refine ih ?_ read
                  intro other member
                  rcases List.mem_cons.mp member with same | earlier
                  · exact same ▸ each found
                  · exact before other earlier
          · simp [failNext] at read

theorem yields_readItems {item : Reader α} (each : Yields item P) :
    Yields (readItems item) fun items => ∀ value ∈ items, P value := by
  intro text items rest read
  rw [readItems] at read
  split at read
  · simp [failNext] at read
  · split at read
    · simp only [Except.ok.injEq, Prod.mk.injEq] at read
      simp [← read.1]
    · split at read
      · contradiction
      · rename_i value left found
        refine forall_of_readMoreItems each ?_ read
        intro other member
        exact List.mem_singleton.mp member ▸ each found

/-- Entries in the order of their keys whose values have a property. -/
def Orderly (P : α → Prop) (members : Members α) : Prop :=
  members.Ascending ∧ ∀ entry ∈ members, P entry.2

theorem orderly_nil : Orderly P [] := by
  simp [Orderly, Members.Ascending]

theorem Orderly.insert {members : Members α} (orderly : Orderly P members) (key : String)
    {value : α} (good : P value) : Orderly P (members.insert key value) := by
  refine ⟨Members.ascending_insert key value orderly.1, ?_⟩
  intro entry member
  rcases Members.mem_insert member with same | earlier
  · exact same ▸ good
  · exact orderly.2 entry earlier

theorem yields_readMember {value : Reader α} (each : Yields value P) :
    Yields (readMember value) fun entry => P entry.2 := by
  intro text entry rest read
  rw [readMember] at read
  split at read
  · contradiction
  · split at read
    · contradiction
    · split at read
      · contradiction
      · rename_i found
        simp only [Except.ok.injEq, Prod.mk.injEq] at read
        rw [← read.1]
        exact each found

theorem orderly_of_readMoreMembers {value : Reader α} (each : Yields value P) {bound : Nat}
    {done members : Members α} {text rest : List Char} (before : Orderly P done)
    (read : readMoreMembers value bound done text = .ok (members, rest)) :
    Orderly P members := by
  induction bound generalizing done text with
  | zero => simp [readMoreMembers, failNext] at read
  | succ bound ih =>
      rw [readMoreMembers] at read
      split at read
      · contradiction
      · simp only [Except.ok.injEq, Prod.mk.injEq] at read
        exact read.1 ▸ before
      · split at read
        · contradiction
        · rename_i entry left found
          exact ih (before.insert entry.1 (yields_readMember each found)) read

theorem yields_readMembers {value : Reader α} (each : Yields value P) :
    Yields (readMembers value) (Orderly P) := by
  intro text members rest read
  rw [readMembers] at read
  split at read
  · contradiction
  · simp only [Except.ok.injEq, Prod.mk.injEq] at read
    exact read.1 ▸ orderly_nil
  · split at read
    · contradiction
    · rename_i entry left found
      exact orderly_of_readMoreMembers each
        (orderly_nil.insert entry.1 (yields_readMember each found)) read

end Yields

theorem of_afterWord {P : Json → Prop} {value read : Json} {result : Except Fault (List Char)}
    {rest : List Char} (good : P value) (found : afterWord value result = .ok (read, rest)) :
    P read := by
  unfold afterWord at found
  split at found
  · contradiction
  · simp only [Except.ok.injEq, Prod.mk.injEq] at found
    exact found.1 ▸ good

theorem regular_of_afterNumber {levels : Nat} {negative : Bool} {text rest : List Char}
    {value : Json} (read : afterNumber (readNumber negative text) = .ok (value, rest)) :
    Regular levels value := by
  unfold afterNumber at read
  split at read
  · contradiction
  · rename_i number left found
    simp only [Except.ok.injEq, Prod.mk.injEq] at read
    rw [← read.1, regular_int]
    exact isWord_of_readNumber found
  · simp only [Except.ok.injEq, Prod.mk.injEq] at read
    simp [← read.1]

/-- Lists and objects are regular one level above their contents. -/
theorem regular_of_readNested {levels : Nat} {inner : Reader Json}
    (each : Yields inner (Regular levels)) {first : Char} {text rest : List Char} {value : Json}
    (read : readNested (some inner) first text = .ok (value, rest)) :
    Regular (levels + 1) value := by
  unfold readNested at read
  dsimp only at read
  split at read
  · split at read
    · contradiction
    · rename_i items left found
      simp only [Except.ok.injEq, Prod.mk.injEq] at read
      rw [← read.1, regular_arr]
      exact yields_readItems each found
  · split at read
    · contradiction
    · rename_i members left found
      simp only [Except.ok.injEq, Prod.mk.injEq] at read
      rw [← read.1, regular_obj]
      exact yields_readMembers each found

/-- Scalars are regular at any level; the rest is what the inner reader makes of it. -/
theorem yields_readValueWith {levels : Nat} {inner : Option (Reader Json)}
    (nested : ∀ ⦃first text value rest⦄,
      readNested inner first text = .ok (value, rest) → Regular levels value) :
    Yields (readValueWith inner) (Regular levels) := by
  intro text value rest read
  rw [readValueWith] at read
  split at read
  · simp [failNext] at read
  · split at read
    · exact of_afterWord (regular_null levels) read
    split at read
    · exact of_afterWord (regular_bool levels true) read
    split at read
    · exact of_afterWord (regular_bool levels false) read
    split at read
    · exact regular_of_afterNumber read
    split at read
    · exact regular_of_afterNumber read
    split at read
    · split at read
      · contradiction
      · simp only [Except.ok.injEq, Prod.mk.injEq] at read
        simp [← read.1]
    split at read
    · exact nested read
    · simp [failNext] at read

/-- Every value that is read is regular. -/
theorem yields_readValue (levels : Nat) : Yields (readValue levels) (Regular levels) := by
  induction levels with
  | zero =>
      apply yields_readValueWith
      intro first text value rest read
      simp [readNested, failNext] at read
  | succ levels ih =>
      apply yields_readValueWith
      intro first text value rest read
      exact regular_of_readNested ih read

theorem not_ok_of_wrongType {α : Type} {expected : String} {text : List Char} {value : α} :
    wrongType expected text ≠ .ok value := by
  intro read
  unfold wrongType at read
  dsimp only at read
  repeat' split at read
  all_goals simp_all [failAt, failNext]

theorem yields_readMap {α : Type} {P : Nat → α → Prop} {value : Nat → Reader α}
    (each : ∀ levels, Yields (value levels) (P levels)) (levels : Nat) :
    Yields (readMap value (levels + 1)) (Orderly (P levels)) := by
  intro text members rest read
  rw [readMap] at read
  split at read
  · simp [failNext] at read
  · split at read
    · exact yields_readMembers (each levels) read
    · exact absurd read not_ok_of_wrongType

/-- The members that are read are those of a regular object. -/
theorem yields_members (levels : Nat) :
    Yields (readMap readValue levels) fun members => Regular levels (.obj members) := by
  cases levels with
  | zero =>
      intro text members rest read
      rw [readMap] at read
      split at read
      · simp [failNext] at read
      · split at read
        · simp [failNext] at read
        · exact absurd read not_ok_of_wrongType
  | succ levels =>
      intro text members rest read
      rw [regular_obj]
      exact yields_readMap yields_readValue levels read

theorem yields_readList {α : Type} {P : Nat → α → Prop} {item : Nat → Reader α}
    (each : ∀ levels, Yields (item levels) (P levels)) (levels : Nat) :
    Yields (readList item (levels + 1)) fun items => ∀ value ∈ items, P levels value := by
  intro text items rest read
  rw [readList] at read
  split at read
  · simp [failNext] at read
  · split at read
    · exact yields_readItems (each levels) read
    · exact absurd read not_ok_of_wrongType

/-! ## Structures -/

section Shapes

variable {α : Type} {P : α → Prop} {shape : Shape α} {levels : Nat}

theorem yields_readAsList (absent : P shape.absent) (each : Yields (shape.read levels) P) :
    Yields (shape.readAsList levels) P := by
  intro text value rest read
  rw [Shape.readAsList] at read
  split at read
  · simp [failNext] at read
  · split at read
    · split at read
      · simp only [Except.ok.injEq, Prod.mk.injEq] at read
        exact read.1 ▸ absent
      · simp [failAt] at read
    · split at read
      · contradiction
      · rename_i found
        split at read
        · contradiction
        · simp only [Except.ok.injEq, Prod.mk.injEq] at read
          exact read.1 ▸ each found

/-- Reading a field keeps what was found so far or yields what the field holds. -/
theorem yields_readField {found : Option α} (before : ∀ value ∈ found, P value)
    (each : Yields (shape.read levels) P) :
    Yields (shape.readField levels found) fun now => ∀ value ∈ now, P value := by
  intro text now rest read
  rw [Shape.readField] at read
  split at read
  · contradiction
  · split at read
    · split at read
      · simp [failAt] at read
      · split at read
        · contradiction
        · split at read
          · contradiction
          · rename_i value left held
            simp only [Except.ok.injEq, Prod.mk.injEq] at read
            intro other member
            rw [← read.1, Option.mem_some_iff] at member
            exact member ▸ each held
    · split at read
      · contradiction
      · split at read
        · contradiction
        · simp only [Except.ok.injEq, Prod.mk.injEq] at read
          exact read.1 ▸ before

theorem yields_readMoreFields (absent : P shape.absent) (each : Yields (shape.read levels) P)
    {bound : Nat} {found : Option α} (before : ∀ value ∈ found, P value) :
    Yields (shape.readMoreFields levels bound found) P := by
  intro text value rest read
  induction bound generalizing found text with
  | zero => simp [Shape.readMoreFields, failNext] at read
  | succ bound ih =>
      rw [Shape.readMoreFields] at read
      split at read
      · contradiction
      · simp only [Except.ok.injEq, Prod.mk.injEq] at read
        rw [← read.1]
        cases found with
        | none => exact absent
        | some value => exact before value rfl
      · split at read
        · contradiction
        · rename_i now left field
          exact ih (yields_readField before each field) read

theorem yields_readAsObject (absent : P shape.absent) (each : Yields (shape.read levels) P) :
    Yields (shape.readAsObject levels) P := by
  intro text value rest read
  rw [Shape.readAsObject] at read
  split at read
  · contradiction
  · simp only [Except.ok.injEq, Prod.mk.injEq] at read
    exact read.1 ▸ absent
  · split at read
    · contradiction
    · rename_i now left field
      have first : ∀ value ∈ now, P value := yields_readField (by simp) each field
      exact yields_readMoreFields absent each first read

/-- What a structure holds has the property of its field, read one level further in. -/
theorem yields_reader (absent : P shape.absent) (each : Yields (shape.read levels) P) :
    Yields (shape.reader (levels + 1)) P := by
  intro text value rest read
  rw [Shape.reader] at read
  split at read
  · simp [failNext] at read
  · split at read
    · dsimp only at read
      split at read
      · exact yields_readAsList absent each read
      · exact yields_readAsObject absent each read
    · exact absurd read not_ok_of_wrongType

end Shapes

/-! ## Whole texts -/

theorem exists_reader_of_decodeWith {α : Type} {reader : Reader α} {text : String} {value : α}
    (decoded : decodeWith reader text = .ok value) :
    ∃ rest, reader text.toList = .ok (value, rest) := by
  rw [decodeWith] at decoded
  split at decoded
  · contradiction
  · rename_i whole found
    cases decoded
    rw [readWhole] at found
    split at found
    · contradiction
    · rename_i read rest first
      split at found
      · cases found
        exact ⟨rest, first⟩
      · simp [failNext] at found

theorem Yields.decodeWith {α : Type} {P : α → Prop} {reader : Reader α} (yields : Yields reader P)
    {text : String} {value : α} (decoded : decodeWith reader text = .ok value) : P value := by
  obtain ⟨rest, read⟩ := exists_reader_of_decodeWith decoded
  exact yields read

end PillarLookup.Json
