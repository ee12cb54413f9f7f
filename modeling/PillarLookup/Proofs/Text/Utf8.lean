import Mathlib
import PillarLookup.Text.Utf8

/-!
# Bytes that are text

No byte is lost when a byte sequence is cut into pieces, and the encoding of a text is cut
into its characters. So what can be decoded is the encoding of a text, and of one text only.
-/

namespace PillarLookup.Text.Utf8

/-- How many bytes spell a code point, and which; surrogates are spelled like any other. -/
inductive Spells (code : Nat) : List UInt8 → Prop where
  | one {only : UInt8} (high : code < 0x80) (only_eq : only.toNat = code) : Spells code [only]
  | two {first second : UInt8} (low : 0x80 ≤ code) (high : code < 0x800)
      (first_eq : first.toNat = 0xC0 + code / 64) (second_eq : second.toNat = 0x80 + code % 64) :
      Spells code [first, second]
  | three {first second third : UInt8} (low : 0x800 ≤ code) (high : code < 0x10000)
      (first_eq : first.toNat = 0xE0 + code / 4096)
      (second_eq : second.toNat = 0x80 + code / 64 % 64)
      (third_eq : third.toNat = 0x80 + code % 64) : Spells code [first, second, third]
  | four {first second third fourth : UInt8} (low : 0x10000 ≤ code) (high : code < 0x110000)
      (first_eq : first.toNat = 0xF0 + code / 262144)
      (second_eq : second.toNat = 0x80 + code / 4096 % 64)
      (third_eq : third.toNat = 0x80 + code / 64 % 64)
      (fourth_eq : fourth.toNat = 0x80 + code % 64) : Spells code [first, second, third, fourth]

/-- The bytes that a piece was cut from. -/
def Piece.bytes : Piece → List UInt8
  | .char value => String.utf8EncodeChar value
  | .broken bytes => bytes

namespace Pending

/-- A character of two bytes of which the first is read. -/
def ofTwo (first : UInt8) : Pending :=
  ⟨1, 0x80, 0xBF, first.toNat - 0xC0, [first]⟩

def ofThree (first : UInt8) : Pending :=
  ⟨2, if first.toNat = 0xE0 then 0xA0 else 0x80, if first.toNat = 0xED then 0x9F else 0xBF,
    first.toNat - 0xE0, [first]⟩

def ofFour (first : UInt8) : Pending :=
  ⟨3, if first.toNat = 0xF0 then 0x90 else 0x80, if first.toNat = 0xF4 then 0x8F else 0xBF,
    first.toNat - 0xF0, [first]⟩

/-- Whatever bytes are admitted from here on, together they are the encoding of a character. -/
inductive Begun : Pending → Prop where
  | last {pending : Pending} (one : pending.owed = 1)
      (completes : ∀ byte, pending.admits byte = true →
        String.utf8EncodeChar (Char.ofNat (pending.extend byte).code) = pending.seen ++ [byte]) :
      Begun pending
  | more {pending : Pending} (several : 1 < pending.owed)
      (begun : ∀ byte, pending.admits byte = true → Begun (pending.extend byte)) :
      Begun pending

end Pending

/-! ## Characters -/

theorem Spells.unique {code : Nat} {bytes others : List UInt8} (spells : Spells code bytes)
    (also : Spells code others) : bytes = others := by
  cases spells <;> cases also
  -- Spellings of different lengths are of different code points.
  all_goals first | omega | simp [← UInt8.toNat_inj, *]

/-- A byte of seven bits spells its own code point only. -/
theorem Spells.code_of_mem {code : Nat} {bytes : List UInt8} (spells : Spells code bytes)
    {byte : UInt8} (listed : byte ∈ bytes) (small : byte.toNat < 0x80) : code = byte.toNat := by
  cases spells with
  | one high only_eq => rw [List.mem_singleton.mp listed, only_eq]
  | two low high first_eq second_eq =>
      simp only [List.mem_cons, List.not_mem_nil, or_false] at listed
      rcases listed with rfl | rfl <;> omega
  | three low high first_eq second_eq third_eq =>
      simp only [List.mem_cons, List.not_mem_nil, or_false] at listed
      rcases listed with rfl | rfl | rfl <;> omega
  | four low high first_eq second_eq third_eq fourth_eq =>
      simp only [List.mem_cons, List.not_mem_nil, or_false] at listed
      rcases listed with rfl | rfl | rfl | rfl <;> omega

theorem spells_encodeChar (char : Char) : Spells char.toNat (String.utf8EncodeChar char) := by
  have valid : char.toNat < 0xD800 ∨ 0xDFFF < char.toNat ∧ char.toNat < 0x110000 := char.valid
  rw [String.utf8EncodeChar, Char.toNat_val]
  split
  · refine .one (by omega) ?_
    rw [UInt8.toNat_ofNat']
    omega
  split
  · refine .two (by omega) (by omega) ?_ ?_
    all_goals
      rw [UInt8.toNat_ofNat']
      omega
  split
  · refine .three (by omega) (by omega) ?_ ?_ ?_
    all_goals
      rw [UInt8.toNat_ofNat']
      omega
  · refine .four (by omega) (by omega) ?_ ?_ ?_ ?_
    all_goals
      rw [UInt8.toNat_ofNat']
      omega

theorem encodeChar_of_spells {code : Nat} {bytes : List UInt8} (spells : Spells code bytes)
    (valid : code.isValidChar) : String.utf8EncodeChar (Char.ofNat code) = bytes := by
  have same : (Char.ofNat code).toNat = code := by rw [Char.toNat_ofNat, if_pos valid]
  have encoded := spells_encodeChar (Char.ofNat code)
  rw [same] at encoded
  exact encoded.unique spells

/-! ## Steps of the cut -/

section Steps

variable {pending : Pending} {first byte next : UInt8}

theorem admits_iff :
    pending.admits byte = true ↔ pending.low ≤ byte.toNat ∧ byte.toNat ≤ pending.high := by
  simp [Pending.admits]

theorem ofTwo_admits_iff :
    (Pending.ofTwo first).admits byte = true ↔ 0x80 ≤ byte.toNat ∧ byte.toNat ≤ 0xBF :=
  admits_iff

/-- No code point is spelled longer than need be, and no surrogate is spelled. -/
theorem ofThree_admits_iff :
    (Pending.ofThree first).admits byte = true ↔ 0x80 ≤ byte.toNat ∧ byte.toNat ≤ 0xBF ∧
      (first.toNat = 0xE0 → 0xA0 ≤ byte.toNat) ∧ (first.toNat = 0xED → byte.toNat ≤ 0x9F) := by
  rw [admits_iff, Pending.ofThree]
  dsimp only
  split_ifs <;> omega

/-- No code point is spelled longer than need be, and none above the last one is spelled. -/
theorem ofFour_admits_iff :
    (Pending.ofFour first).admits byte = true ↔ 0x80 ≤ byte.toNat ∧ byte.toNat ≤ 0xBF ∧
      (first.toNat = 0xF0 → 0x90 ≤ byte.toNat) ∧ (first.toNat = 0xF4 → byte.toNat ≤ 0x8F) := by
  rw [admits_iff, Pending.ofFour]
  dsimp only
  split_ifs <;> omega

theorem extend_admits_iff :
    (pending.extend byte).admits next = true ↔ 0x80 ≤ next.toNat ∧ next.toNat ≤ 0xBF :=
  admits_iff

theorem lead_of_two (low : 0xC2 ≤ first.toNat) (high : first.toNat < 0xE0) :
    lead first = .opens (.ofTwo first) := by
  rw [lead, if_neg (by omega), if_neg (by omega), if_pos high]
  rfl

theorem lead_of_three (low : 0xE0 ≤ first.toNat) (high : first.toNat < 0xF0) :
    lead first = .opens (.ofThree first) := by
  rw [lead, if_neg (by omega), if_neg (by omega), if_neg (by omega), if_pos high]
  rfl

theorem lead_of_four (low : 0xF0 ≤ first.toNat) (high : first.toNat < 0xF5) :
    lead first = .opens (.ofFour first) := by
  rw [lead, if_neg (by omega), if_neg (by omega), if_neg (by omega), if_neg (by omega),
    if_pos high]
  rfl

theorem piecesFrom_whole {piece : Piece} (whole : lead byte = .whole piece) (rest : List UInt8) :
    piecesFrom none (byte :: rest) = piece :: piecesFrom none rest := by
  simp [piecesFrom, whole]

theorem piecesFrom_opens (opens : lead byte = .opens pending) (rest : List UInt8) :
    piecesFrom none (byte :: rest) = piecesFrom (some pending) rest := by
  simp [piecesFrom, opens]

theorem piecesFrom_last (one : pending.owed = 1) (admitted : pending.admits byte = true)
    (rest : List UInt8) :
    piecesFrom (some pending) (byte :: rest) =
      .char (Char.ofNat (pending.extend byte).code) :: piecesFrom none rest := by
  simp [piecesFrom, admitted, Pending.extend, one]

theorem piecesFrom_more (several : 1 < pending.owed) (admitted : pending.admits byte = true)
    (rest : List UInt8) :
    piecesFrom (some pending) (byte :: rest) = piecesFrom (some (pending.extend byte)) rest := by
  have owes : (pending.extend byte).owed ≠ 0 := Nat.sub_ne_zero_of_lt several
  simp [piecesFrom, admitted, owes]

/-- A byte that is not admitted breaks the run off and is looked at afresh. -/
theorem piecesFrom_break (refused : pending.admits byte = false) (rest : List UInt8) :
    piecesFrom (some pending) (byte :: rest) =
      .broken pending.seen :: piecesFrom none (byte :: rest) := by
  simp [piecesFrom, refused]

end Steps

/-! ## The cut loses no byte -/

theorem begun_ofTwo {first : UInt8} (low : 0xC2 ≤ first.toNat) (high : first.toNat < 0xE0) :
    (Pending.ofTwo first).Begun := by
  refine .last rfl ?_
  intro second admitted
  rw [ofTwo_admits_iff] at admitted
  refine encodeChar_of_spells (.two ?_ ?_ ?_ ?_) (.inl ?_)
  all_goals
    simp only [Pending.extend, Pending.ofTwo]
    omega

theorem begun_ofThree {first : UInt8} (low : 0xE0 ≤ first.toNat) (high : first.toNat < 0xF0) :
    (Pending.ofThree first).Begun := by
  refine .more (Nat.lt_succ_self 1) ?_
  intro second admitted
  refine .last rfl ?_
  intro third accepted
  rw [ofThree_admits_iff] at admitted
  rw [extend_admits_iff] at accepted
  refine encodeChar_of_spells (.three ?_ ?_ ?_ ?_ ?_) ?_
  all_goals
    simp only [Pending.extend, Pending.ofThree, Nat.isValidChar]
    omega

theorem begun_ofFour {first : UInt8} (low : 0xF0 ≤ first.toNat) (high : first.toNat < 0xF5) :
    (Pending.ofFour first).Begun := by
  refine .more (Nat.lt_succ_of_lt (Nat.lt_succ_self 1)) ?_
  intro second admitted
  refine .more (Nat.lt_succ_self 1) ?_
  intro third accepted
  refine .last rfl ?_
  intro fourth closed
  rw [ofFour_admits_iff] at admitted
  rw [extend_admits_iff] at accepted closed
  refine encodeChar_of_spells (.four ?_ ?_ ?_ ?_ ?_ ?_) (.inr ?_)
  all_goals
    simp only [Pending.extend, Pending.ofFour]
    omega

theorem bytes_of_whole {byte : UInt8} {piece : Piece} (whole : lead byte = .whole piece) :
    piece.bytes = [byte] := by
  rw [lead] at whole
  split at whole
  · rename_i small
    cases whole
    exact encodeChar_of_spells (.one small rfl) (.inl (by omega))
  · repeat' split at whole
    all_goals cases whole
    all_goals rfl

theorem begun_of_opens {byte : UInt8} {pending : Pending} (opens : lead byte = .opens pending) :
    pending.Begun ∧ pending.seen = [byte] := by
  by_cases four : 0xF0 ≤ byte.toNat ∧ byte.toNat < 0xF5
  · cases (lead_of_four four.1 four.2).symm.trans opens
    exact ⟨begun_ofFour four.1 four.2, rfl⟩
  by_cases three : 0xE0 ≤ byte.toNat ∧ byte.toNat < 0xF0
  · cases (lead_of_three three.1 three.2).symm.trans opens
    exact ⟨begun_ofThree three.1 three.2, rfl⟩
  by_cases two : 0xC2 ≤ byte.toNat ∧ byte.toNat < 0xE0
  · cases (lead_of_two two.1 two.2).symm.trans opens
    exact ⟨begun_ofTwo two.1 two.2, rfl⟩
  -- No other byte opens anything.
  rw [lead] at opens
  split_ifs at opens <;> omega

/-- The pieces are what was seen before and the bytes, none left out and none added. -/
theorem flatMap_bytes_piecesFrom (bytes : List UInt8) (begun? : Option Pending)
    (begun : ∀ pending ∈ begun?, pending.Begun) :
    (piecesFrom begun? bytes).flatMap Piece.bytes = begun?.elim [] Pending.seen ++ bytes := by
  induction bytes generalizing begun? with
  | nil =>
      cases begun? with
      | none => rfl
      | some pending => simp [piecesFrom, Piece.bytes]
  | cons byte rest ih =>
      -- Serves the start of a run as well as a byte that breaks one off.
      have fresh : (piecesFrom none (byte :: rest)).flatMap Piece.bytes = byte :: rest := by
        cases led : lead byte with
        | whole piece =>
            rw [piecesFrom_whole led, List.flatMap_cons, bytes_of_whole led, ih none (by simp)]
            rfl
        | opens pending =>
            obtain ⟨opened, seen⟩ := begun_of_opens led
            rw [piecesFrom_opens led, ih (some pending) (by simpa using opened)]
            simp [seen]
      cases begun? with
      | none => exact fresh
      | some pending =>
          by_cases admitted : pending.admits byte = true
          · cases begun pending rfl with
            | last one completes =>
                rw [piecesFrom_last one admitted, List.flatMap_cons, Piece.bytes,
                  completes byte admitted, ih none (by simp)]
                simp
            | more several follows =>
                have longer := follows byte admitted
                rw [piecesFrom_more several admitted, ih (some _) (by simpa using longer)]
                simp [Pending.extend]
          · rw [piecesFrom_break (by simpa using admitted), List.flatMap_cons, fresh]
            rfl

theorem flatMap_bytes_pieces (bytes : List UInt8) :
    (pieces bytes).flatMap Piece.bytes = bytes :=
  flatMap_bytes_piecesFrom bytes none (by simp)

/-! ## The encoding of a text is cut into its characters -/

theorem piecesFrom_of_spells {code : Nat} {bytes : List UInt8} (spells : Spells code bytes)
    (valid : code.isValidChar) (rest : List UInt8) :
    piecesFrom none (bytes ++ rest) = .char (Char.ofNat code) :: piecesFrom none rest := by
  unfold Nat.isValidChar at valid
  cases spells with
  | @one only high only_eq =>
      have whole : lead only = .whole (.char (Char.ofNat code)) := by
        rw [lead, only_eq, if_pos high]
      exact piecesFrom_whole whole rest
  | @two first second low high first_eq second_eq =>
      have opens : lead first = .opens (.ofTwo first) := lead_of_two (by omega) (by omega)
      have admitted : (Pending.ofTwo first).admits second = true :=
        ofTwo_admits_iff.mpr (by omega)
      have whole : ((Pending.ofTwo first).extend second).code = code := by
        simp only [Pending.extend, Pending.ofTwo]
        omega
      rw [← whole]
      calc piecesFrom none (first :: second :: rest)
        _ = piecesFrom (some (.ofTwo first)) (second :: rest) := piecesFrom_opens opens _
        _ = _ := piecesFrom_last rfl admitted rest
  | @three first second third low high first_eq second_eq third_eq =>
      have opens : lead first = .opens (.ofThree first) := lead_of_three (by omega) (by omega)
      have admitted : (Pending.ofThree first).admits second = true :=
        ofThree_admits_iff.mpr (by omega)
      have accepted : ((Pending.ofThree first).extend second).admits third = true :=
        extend_admits_iff.mpr (by omega)
      have whole : (((Pending.ofThree first).extend second).extend third).code = code := by
        simp only [Pending.extend, Pending.ofThree]
        omega
      rw [← whole]
      calc piecesFrom none (first :: second :: third :: rest)
        _ = piecesFrom (some (.ofThree first)) (second :: third :: rest) :=
            piecesFrom_opens opens _
        _ = piecesFrom (some ((Pending.ofThree first).extend second)) (third :: rest) :=
            piecesFrom_more (Nat.lt_succ_self 1) admitted _
        _ = _ := piecesFrom_last rfl accepted rest
  | @four first second third fourth low high first_eq second_eq third_eq fourth_eq =>
      have opens : lead first = .opens (.ofFour first) := lead_of_four (by omega) (by omega)
      have admitted : (Pending.ofFour first).admits second = true :=
        ofFour_admits_iff.mpr (by omega)
      have accepted : ((Pending.ofFour first).extend second).admits third = true :=
        extend_admits_iff.mpr (by omega)
      have closed : (((Pending.ofFour first).extend second).extend third).admits fourth = true :=
        extend_admits_iff.mpr (by omega)
      have whole : ((((Pending.ofFour first).extend second).extend third).extend fourth).code =
          code := by
        simp only [Pending.extend, Pending.ofFour]
        omega
      rw [← whole]
      calc piecesFrom none (first :: second :: third :: fourth :: rest)
        _ = piecesFrom (some (.ofFour first)) (second :: third :: fourth :: rest) :=
            piecesFrom_opens opens _
        _ = piecesFrom (some ((Pending.ofFour first).extend second)) (third :: fourth :: rest) :=
            piecesFrom_more (Nat.lt_succ_of_lt (Nat.lt_succ_self 1)) admitted _
        _ = piecesFrom (some (((Pending.ofFour first).extend second).extend third))
              (fourth :: rest) := piecesFrom_more (Nat.lt_succ_self 1) accepted _
        _ = _ := piecesFrom_last rfl closed rest

theorem piecesFrom_encodeChar (char : Char) (rest : List UInt8) :
    piecesFrom none (String.utf8EncodeChar char ++ rest) = .char char :: piecesFrom none rest := by
  have cut := piecesFrom_of_spells (spells_encodeChar char) char.valid rest
  rwa [Char.ofNat_toNat] at cut

theorem pieces_encode (text : String) : pieces (encode text) = text.toList.map .char := by
  rw [pieces, encode]
  induction text.toList with
  | nil => rfl
  | cons char rest ih => rw [List.flatMap_cons, piecesFrom_encodeChar, ih, List.map_cons]

/-- What can be decoded is the encoding of a text, and decodes to that text. -/
theorem decode?_eq_some_iff {bytes : List UInt8} {text : String} :
    decode? bytes = some text ↔ bytes = encode text := by
  constructor
  · intro decoded
    obtain ⟨chars, mapped, rfl⟩ := Option.map_eq_some_iff.mp decoded
    have cut := flatMap_bytes_pieces bytes
    rw [mapM_char?_eq_some_iff.mp mapped, List.flatMap_map] at cut
    rw [encode, String.toList_ofList]
    exact cut.symm
  · rintro rfl
    rw [decode?, pieces_encode, mapM_char?_eq_some_iff.mpr rfl]
    simp

theorem decode?_eq_none_iff {bytes : List UInt8} :
    decode? bytes = none ↔ ∀ text, bytes ≠ encode text := by
  simp [Option.eq_none_iff_forall_ne_some, decode?_eq_some_iff]

example : decode? [0xED, 0xA0, 0x80] = none := by decide

end PillarLookup.Text.Utf8
