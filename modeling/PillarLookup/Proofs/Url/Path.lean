import PillarLookup.Url.Parser

/-!
# Settled paths

What stands in the path of an address has been read once: there are no dots to follow, no
separators within segments and no characters left to encode. Such a path is read back from
its text as it is, so that its text determines it.
-/

namespace PillarLookup

namespace Text

/-- A run without separators makes longer the first part of what follows it. -/
theorem splitAt_append {isSeparator : Char → Bool} {run rest first : List Char}
    {more : List (List Char)} (free : ∀ char ∈ run, isSeparator char = false)
    (split : splitAt isSeparator rest = first :: more) :
    splitAt isSeparator (run ++ rest) = (run ++ first) :: more := by
  induction run with
  | nil => exact split
  | cons char run ih =>
      rw [List.forall_mem_cons] at free
      have plain : ¬isSeparator char = true := by simp [free.1]
      rw [List.cons_append, splitAt, if_neg plain, ih free.2]
      rfl

end Text

namespace Url

section Encoding

open Percent

variable {excluded : Char → Bool} {holds : Char → Prop} {chars : List Char}

theorem Percent.forall_mem_encodeByte (percent : holds '%')
    (digits : ∀ value < 16, holds (Text.upperHexDigit value)) (byte : UInt8) :
    ∀ char ∈ encodeByte byte, holds char := by
  intro char found
  have small : byte.toNat < 256 := byte.toNat_lt
  simp only [encodeByte, List.mem_cons, List.not_mem_nil, or_false] at found
  rcases found with rfl | rfl | rfl
  · exact percent
  · exact digits _ (by omega)
  · exact digits _ (by omega)

/-- What holds of the characters of escapes and of those that stay holds of all. -/
theorem Percent.forall_mem_encode (percent : holds '%')
    (digits : ∀ value < 16, holds (Text.upperHexDigit value))
    (kept : ∀ char ∈ chars, excluded char = false → holds char) :
    ∀ char ∈ encode excluded chars, holds char := by
  intro char found
  obtain ⟨source, listed, found⟩ := List.mem_flatMap.mp found
  unfold encodeChar at found
  split at found
  · obtain ⟨byte, -, found⟩ := List.mem_flatMap.mp found
    exact forall_mem_encodeByte percent digits byte char found
  · rename_i stays
    rw [List.mem_singleton.mp found]
    exact kept source listed (by simpa using stays)

theorem Percent.encode_of_forall (stay : ∀ char ∈ chars, excluded char = false) :
    encode excluded chars = chars := by
  induction chars with
  | nil => rfl
  | cons char rest ih =>
      rw [List.forall_mem_cons] at stay
      have whole : encodeChar excluded char = [char] := by simp [encodeChar, stay.1]
      have tail : encode excluded rest = rest := ih stay.2
      rw [encode, List.flatMap_cons, whole]
      exact congrArg (char :: ·) tail

end Encoding

namespace Path

/-- A character that stands in a segment as it is. -/
def IsPlain (kind : SchemeKind) (char : Char) : Prop :=
  Percent.inPath char = false ∧ kind.isSlash char = false

instance (kind : SchemeKind) (char : Char) : Decidable (IsPlain kind char) :=
  inferInstanceAs (Decidable (_ ∧ _))

def AllPlain (kind : SchemeKind) (chars : List Char) : Prop :=
  ∀ char ∈ chars, IsPlain kind char

/-- A segment that is read as it is written. -/
structure Settled (kind : SchemeKind) (segment : List Char) : Prop where
  plain : AllPlain kind segment
  not_dot : isDot segment = false
  not_doubleDot : isDoubleDot segment = false

/-- Segments that are read as they are written. -/
def AllSettled (kind : SchemeKind) (parts : List String) : Prop :=
  ∀ part ∈ parts, Settled kind part.toList

variable {kind : SchemeKind} {parts : List String}

theorem settled_nil (kind : SchemeKind) : Settled kind [] :=
  ⟨by simp [AllPlain], rfl, rfl⟩

theorem AllSettled.append {more : List String} (settled : AllSettled kind parts)
    (others : AllSettled kind more) : AllSettled kind (parts ++ more) :=
  List.forall_mem_append.mpr ⟨settled, others⟩

theorem allSettled_singleton {name : String} (settled : Settled kind name.toList) :
    AllSettled kind [name] := by
  intro part listed
  rw [List.mem_singleton.mp listed]
  exact settled

theorem isPlain_of_isAlpha {letter : Char} (alpha : letter.isAlpha = true) :
    IsPlain kind letter := by
  have capital_or_small : (decide (65 ≤ letter.val ∧ letter.val ≤ 90) ||
      (decide (97 ≤ letter.val) && decide (letter.val ≤ 122))) = true := alpha
  have range : (65 ≤ letter.toNat ∧ letter.toNat ≤ 90) ∨
      (97 ≤ letter.toNat ∧ letter.toNat ≤ 122) := by
    simp only [Bool.or_eq_true, Bool.and_eq_true, decide_eq_true_eq,
      UInt32.le_iff_toNat_le] at capital_or_small
    exact capital_or_small
  have differs : ∀ char : Char, char.isAlpha = false → letter ≠ char := by
    rintro char no rfl
    exact absurd alpha (by simp [no])
  constructor
  · have visible : Percent.isControl letter = false := by
      simp only [Percent.isControl, Bool.or_eq_false_iff, decide_eq_false_iff_not]
      omega
    simp [Percent.inPath, Percent.inFragment, visible, differs]
  · simp [SchemeKind.isSlash, differs]

theorem isTabOrBreak_of_isPlain {char : Char} (plain : IsPlain kind char) :
    Text.isTabOrBreak char = false := by
  rw [Bool.eq_false_iff]
  intro mark
  simp only [Text.isTabOrBreak, Bool.or_eq_true, decide_eq_true_eq] at mark
  rcases mark with (rfl | rfl) | rfl
  all_goals exact absurd plain.1 (by decide)

namespace Segment

theorem of_tear? {written rest : List Char} {letter : Char}
    (torn : tear? written = some (letter, rest)) :
    letter.isAlpha = true ∧ ∀ char ∈ rest, char ∈ written := by
  unfold tear? at torn
  split at torn
  · cases torn
  · rename_i first more opened
    split at torn
    · rename_i after closed
      dsimp only at torn
      split at torn
      · rename_i tears
        simp only [Bool.and_eq_true] at tears
        cases torn
        refine ⟨tears.1.1, ?_⟩
        intro char found
        have inside : char ∈ after := (List.mem_filter.mp found).1
        have later : char ∈ more := by
          apply (List.dropWhile_suffix Text.isTabOrBreak).subset
          rw [closed]
          exact List.mem_cons_of_mem _ inside
        apply (List.dropWhile_suffix Text.isTabOrBreak).subset
        rw [opened]
        exact List.mem_cons_of_mem _ later
      · cases torn
    · cases torn

/-- Nothing is torn where there are no tabs and line breaks. -/
theorem tear?_of_forall {written : List Char}
    (clean : ∀ char ∈ written, Text.isTabOrBreak char = false) : tear? written = none := by
  have stays : ∀ {chars : List Char}, (∀ char ∈ chars, Text.isTabOrBreak char = false) →
      chars.dropWhile Text.isTabOrBreak = chars := by
    intro chars clean
    cases chars with
    | nil => rfl
    | cons char rest => simp [clean char]
  unfold tear?
  rw [stays clean]
  cases written with
  | nil => rfl
  | cons letter more =>
      rw [List.forall_mem_cons] at clean
      dsimp only
      rw [stays clean.2]
      split
      · rename_i after
        cases after with
        | nil => simp
        | cons char rest => simp [clean.2 char]
      · rfl

/-- Reading encodes what may not stand in a path, and takes nothing for a separator. -/
theorem allPlain_ofChars {written : List Char}
    (free : ∀ char ∈ written, kind.isSlash char = false) :
    AllPlain kind (ofChars written).chars := by
  have digits : ∀ value < 16, Percent.inPath (Text.upperHexDigit value) = false ∧
      Text.upperHexDigit value ≠ '/' ∧ Text.upperHexDigit value ≠ '\\' := by decide
  have encoded : ∀ {chars : List Char}, (∀ char ∈ chars, char ∈ written) →
      AllPlain kind (encode chars) := by
    intro chars sub
    apply Percent.forall_mem_encode
    · exact ⟨by decide, by simp [SchemeKind.isSlash]⟩
    · intro value small
      obtain ⟨stays, slash, backslash⟩ := digits value small
      exact ⟨stays, by simp [SchemeKind.isSlash, slash, backslash]⟩
    · intro char listed stays
      exact ⟨stays, free char (sub char listed)⟩
  unfold ofChars
  split
  -- A torn segment begins with a letter and a colon that no encoding has touched.
  · rename_i letter rest torn
    obtain ⟨alpha, sub⟩ := of_tear? torn
    have colon : IsPlain kind ':' := ⟨by decide, by simp [SchemeKind.isSlash]⟩
    rw [Segment.chars, AllPlain, List.forall_mem_cons, List.forall_mem_cons]
    exact ⟨isPlain_of_isAlpha alpha, colon, encoded sub⟩
  · exact encoded fun char found => (List.mem_filter.mp found).1

theorem ofChars_of_settled {segment : List Char} (settled : Settled kind segment) :
    ofChars segment = .whole segment := by
  have clean : ∀ char ∈ segment, Text.isTabOrBreak char = false :=
    fun char listed => isTabOrBreak_of_isPlain (settled.plain char listed)
  have kept : Text.withoutTabsAndBreaks segment = segment := by
    rw [Text.withoutTabsAndBreaks, List.filter_eq_self]
    intro char listed
    simp [clean char listed]
  have encoded : encode segment = segment :=
    Percent.encode_of_forall fun char listed => (settled.plain char listed).1
  unfold ofChars
  rw [tear?_of_forall clean]
  dsimp only
  rw [kept, encoded]

end Segment

namespace Trail

/-- What a trail has passed is settled, and no drive letter is looked for. -/
structure Settles (kind : SchemeKind) (trail : Trail) : Prop where
  not_inFile : trail.inFile = false
  parts : AllSettled kind trail.parts

variable {trail : Trail} {segments : List Segment}

theorem settles_start (kind : SchemeKind) : Settles kind (start false []) :=
  ⟨rfl, by simp [start, AllSettled]⟩

theorem Settles.add (settles : Settles kind trail) {segment : List Char}
    (settled : Settled kind segment) : Settles kind (trail.add segment) := by
  have named : Settled kind (String.ofList segment).toList := by
    rw [String.toList_ofList]
    exact settled
  exact ⟨settles.not_inFile, settles.parts.append (allSettled_singleton named)⟩

theorem Settles.up (settles : Settles kind trail) : Settles kind trail.up := by
  unfold Trail.up
  split
  · split
    · exact settles
    · refine ⟨settles.not_inFile, ?_⟩
      intro part listed
      exact settles.parts part (List.dropLast_subset _ listed)
  · exact settles

theorem enter_eq (not_inFile : trail.inFile = false) (segment : Segment) :
    trail.enter segment = trail.add segment.chars := by
  simp [enter, not_inFile]

/-- Dots take segments away at most, and nothing else is entered than what is plain. -/
theorem Settles.step (settles : Settles kind trail) {segment : Segment}
    (plain : AllPlain kind segment.chars) : Settles kind (trail.step segment) := by
  unfold Trail.step
  split
  · exact settles.up
  · rename_i not_doubleDot
    split
    · exact settles
    · rename_i not_dot
      rw [enter_eq settles.not_inFile]
      exact settles.add ⟨plain, by simpa using not_dot, by simpa using not_doubleDot⟩

theorem Settles.foldl (settles : Settles kind trail)
    (plain : ∀ segment ∈ segments, AllPlain kind segment.chars) :
    Settles kind (segments.foldl Trail.step trail) := by
  induction segments generalizing trail with
  | nil => exact settles
  | cons segment rest ih =>
      rw [List.forall_mem_cons] at plain
      exact ih (settles.step plain.1) plain.2

theorem Settles.follow (settles : Settles kind trail)
    (plain : ∀ segment ∈ segments, AllPlain kind segment.chars) :
    Settles kind (trail.follow segments) := by
  have reached := settles.foldl plain
  unfold Trail.follow
  dsimp only
  split
  · exact reached.add (settled_nil kind)
  · exact reached

/-- Segments lead somewhere, even if they end in dots. -/
theorem Settles.follow_ne_nil (settles : Settles kind trail)
    (plain : ∀ segment ∈ segments, AllPlain kind segment.chars)
    (present : segments ≠ []) : (trail.follow segments).parts ≠ [] := by
  obtain ⟨before, last, rfl⟩ : ∃ before last, segments = before ++ [last] :=
    ⟨_, _, (List.dropLast_concat_getLast present).symm⟩
  rw [List.forall_mem_append] at plain
  have reached := settles.foldl plain.1
  simp only [Trail.follow, List.foldl_append, List.foldl_cons, List.foldl_nil,
    List.getLast?_append, List.getLast?_singleton, Option.some_or, Option.any_some]
  -- Dots in the last place are followed by an empty segment, and anything else is entered.
  split
  · simp [Trail.add]
  · rename_i not_dots
    simp only [isDots, Bool.or_eq_true, not_or] at not_dots
    rw [Trail.step, if_neg not_dots.2, if_neg not_dots.1, enter_eq reached.not_inFile]
    simp [Trail.add]

theorem step_of_settled (not_inFile : trail.inFile = false) {segment : List Char}
    (settled : Settled kind segment) : trail.step (.whole segment) = trail.add segment := by
  have not_doubleDot : ¬isDoubleDot segment = true := by simp [settled.not_doubleDot]
  have not_dot : ¬isDot segment = true := by simp [settled.not_dot]
  rw [Trail.step, Segment.chars, if_neg not_doubleDot, if_neg not_dot, enter_eq not_inFile]
  rfl

/-- Settled segments are entered one after the other. -/
theorem foldl_of_settled (not_inFile : trail.inFile = false) (settled : AllSettled kind parts) :
    (parts.map fun part => Segment.whole part.toList).foldl Trail.step trail =
      { trail with parts := trail.parts ++ parts } := by
  induction parts generalizing trail with
  | nil => simp
  | cons part rest ih =>
      rw [AllSettled, List.forall_mem_cons] at settled
      have added : (trail.add part.toList).inFile = false := not_inFile
      rw [List.map_cons, List.foldl_cons, step_of_settled not_inFile settled.1,
        ih added settled.2]
      simp [Trail.add]

theorem follow_of_settled (not_inFile : trail.inFile = false) (settled : AllSettled kind parts) :
    trail.follow (parts.map fun part => .whole part.toList) =
      { trail with parts := trail.parts ++ parts } := by
  have no_dots : ¬(parts.map fun part => Segment.whole part.toList).getLast?.any isDots = true := by
    rw [List.getLast?_map, Option.any_map]
    intro dots
    obtain ⟨last, found, dots⟩ := (Option.any_eq_true _ _).mp dots
    have settled := settled last (List.mem_of_getLast? found)
    simp [isDots, Segment.chars, settled.not_dot, settled.not_doubleDot] at dots
  unfold Trail.follow
  dsimp only
  rw [if_neg no_dots, foldl_of_settled not_inFile settled]

end Trail

theorem AllSettled.splitAt_segmentChars (settled : AllSettled kind parts) :
    Text.splitAt kind.isSlash (segmentChars parts) = [] :: parts.map String.toList := by
  induction parts with
  | nil => rfl
  | cons part rest ih =>
      rw [AllSettled, List.forall_mem_cons] at settled
      have slash : kind.isSlash '/' = true := by simp [SchemeKind.isSlash]
      have free : ∀ char ∈ part.toList, kind.isSlash char = false :=
        fun char listed => (settled.1.plain char listed).2
      have shape : segmentChars (part :: rest) = '/' :: (part.toList ++ segmentChars rest) := rfl
      rw [shape, Text.splitAt_separator_cons slash, Text.splitAt_append free (ih settled.2),
        List.append_nil, List.map_cons]

theorem AllSettled.segmentsFromRoot (settled : AllSettled kind parts) (present : parts ≠ []) :
    segmentsFromRoot kind.isSlash (segmentChars parts) =
      parts.map fun part => .whole part.toList := by
  have each : parts.map (Segment.ofChars ∘ String.toList) =
      parts.map fun part => .whole part.toList :=
    List.map_congr_left fun part listed => Segment.ofChars_of_settled (settled part listed)
  have behind : segmentsBehindRoot kind.isSlash (segmentChars parts) =
      .whole [] :: parts.map fun part => .whole part.toList := by
    rw [segmentsBehindRoot, settled.splitAt_segmentChars, List.map_cons, List.map_map, each]
    exact congrArg (· :: _) (Segment.ofChars_of_settled (settled_nil kind))
  obtain ⟨first, rest, rfl⟩ := List.exists_cons_of_ne_nil present
  rw [Path.segmentsFromRoot, behind]
  rfl

/-- A settled path is read back from its text. -/
theorem AllSettled.pathAfterHost (settled : AllSettled kind parts) (present : parts ≠ []) :
    pathAfterHost kind (segmentChars parts) = .segments parts := by
  have rooted : segmentChars parts ≠ [] := by
    obtain ⟨first, rest, rfl⟩ := List.exists_cons_of_ne_nil present
    simp [segmentChars]
  rw [Url.pathAfterHost, settled.segmentsFromRoot present,
    Trail.follow_of_settled rfl settled]
  simp [rooted, Trail.path, Trail.start]

/-- The segments from a root are among those behind it, and there is one at least. -/
theorem segmentsFromRoot_subset (isSeparator : Char → Bool) (chars : List Char) :
    Path.segmentsFromRoot isSeparator chars ⊆ segmentsBehindRoot isSeparator chars ∧
      Path.segmentsFromRoot isSeparator chars ≠ [] := by
  have behind : segmentsBehindRoot isSeparator chars ≠ [] := by
    simp [segmentsBehindRoot, Text.splitAt_ne_nil]
  unfold Path.segmentsFromRoot
  split
  · rename_i second more found
    rw [found]
    exact ⟨List.subset_cons_self _ _, by simp⟩
  · exact ⟨List.Subset.refl _, behind⟩

/-- What is read of a path is settled, whatever its text. -/
theorem settled_pathAfterHost (special : kind.isSpecial = true) (chars : List Char) :
    ∃ parts, Url.pathAfterHost kind chars = .segments parts ∧ parts ≠ [] ∧
      AllSettled kind parts := by
  obtain ⟨subset, present⟩ := segmentsFromRoot_subset kind.isSlash chars
  have plain : ∀ segment ∈ Path.segmentsFromRoot kind.isSlash chars,
      AllPlain kind segment.chars := by
    intro segment listed
    obtain ⟨written, found, rfl⟩ := List.mem_map.mp (subset listed)
    exact Segment.allPlain_ofChars (Text.not_isSeparator_of_mem_splitAt _ _ written found)
  have start := Trail.settles_start kind
  have settles := start.follow plain
  refine ⟨_, ?_, start.follow_ne_nil plain present, settles.parts⟩
  simp [Url.pathAfterHost, special, Trail.path, settles.not_inFile]

end Path

theorem parseAuthority_eq_ok {domains : Domains} {scheme : String} {kind : SchemeKind}
    {body : Body} {chars : List Char} {url : Url}
    (parsed : parseAuthority domains scheme kind body chars = .ok url) :
    url.scheme = scheme ∧ ∃ rest, url.path = pathAfterHost kind rest := by
  unfold parseAuthority at parsed
  dsimp only at parsed
  split at parsed
  · cases parsed
  · split at parsed
    · cases parsed
    · split at parsed
      · cases parsed
      · split at parsed
        · cases parsed
        · split at parsed
          · cases parsed
          · cases parsed
            exact ⟨rfl, _, rfl⟩

theorem scheme_of_parseFile {domains : Domains} {scheme : String} {chars : List Char} {url : Url}
    (parsed : parseFile domains scheme chars = .ok url) : url.scheme = scheme := by
  unfold parseFile at parsed
  split at parsed
  · cases parsed
  · cases parsed
    rfl

theorem scheme_of_parseOther {domains : Domains} {scheme : String} {body : Body}
    {chars : List Char} {url : Url} (parsed : parseOther domains scheme body chars = .ok url) :
    url.scheme = scheme := by
  unfold parseOther at parsed
  split at parsed
  · exact (parseAuthority_eq_ok parsed).1
  · cases parsed
    rfl
  · cases parsed
    rfl

theorem parseBody_eq_ok {domains : Domains} {scheme : String} {body : Body} {url : Url}
    (parsed : parseBody domains scheme body = .ok url) :
    url.scheme = scheme ∧ ∀ port, schemeKind scheme = .network port →
      ∃ rest, url.path = pathAfterHost (.network port) rest := by
  unfold parseBody at parsed
  dsimp only at parsed
  split at parsed
  · rename_i port kind
    obtain ⟨same, path⟩ := parseAuthority_eq_ok parsed
    refine ⟨same, ?_⟩
    intro other found
    rw [kind] at found
    cases found
    exact path
  · rename_i kind
    exact ⟨scheme_of_parseFile parsed, by simp [kind]⟩
  · rename_i kind
    exact ⟨scheme_of_parseOther parsed, by simp [kind]⟩

/-- The path of an address of the network is settled and names the root at least. -/
theorem settled_of_parse {domains : Domains} {text : String} {url : Url}
    (parsed : parse domains text = .ok url) {port : Nat}
    (network : schemeKind url.scheme = .network port) :
    ∃ parts, url.path = .segments parts ∧ parts ≠ [] ∧ Path.AllSettled (.network port) parts := by
  unfold parse at parsed
  split at parsed
  · cases parsed
  · dsimp only at parsed
    split at parsed
    · cases parsed
    · rename_i read
      cases parsed
      obtain ⟨same, path⟩ := parseBody_eq_ok read
      rw [Body.finish, same] at network
      obtain ⟨rest, found⟩ := path port network
      rw [Body.finish, found]
      exact Path.settled_pathAfterHost rfl rest

end Url

end PillarLookup
