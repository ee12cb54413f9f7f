import Mathlib.Data.List.Basic
import PillarLookup.Proofs.Url.Path

/-!
# References below a directory

With a slash at the end of its path an address stands for a directory, and a name that is
resolved against it comes behind that slash instead of the last segment.
-/

namespace PillarLookup.Url

namespace Path

/-- The text of a path up to its last slash. -/
def directory (path : Path) : List Char :=
  Text.dropEndWhile (· ≠ '/') path.chars

/-- The segments that lead to the directory of a path if a slash is put behind it. -/
def enclosing (parts : List String) : List String :=
  if parts.getLast? = some "" then parts.dropLast else parts

variable {kind : SchemeKind} {parts : List String} {name : String}

theorem segmentChars_concat (parts : List String) (name : String) :
    segmentChars (parts ++ [name]) = segmentChars parts ++ '/' :: name.toList := by
  simp [segmentChars]

theorem ne_slash_of_settled (settled : Settled kind name.toList) :
    ∀ char ∈ name.toList, char ≠ '/' := by
  rintro char listed rfl
  have plain := (settled.plain '/' listed).2
  simp [SchemeKind.isSlash] at plain

theorem directory_concat (settled : Settled kind name.toList) :
    (segments (parts ++ [name])).directory = segmentChars parts ++ ['/'] := by
  have dropped : ∀ char ∈ name.toList, decide (char ≠ '/') = true :=
    fun char listed => decide_eq_true (ne_slash_of_settled settled char listed)
  rw [directory, chars, segmentChars_concat, ← List.singleton_append, ← List.append_assoc,
    Text.dropEndWhile_append_of_forall _ _ _ dropped]
  exact Text.dropEndWhile_append_singleton _ _ _ (by decide)

theorem endsWithSlash_segments :
    (segments parts).endsWithSlash = true ↔ parts.getLast? = some "" := by
  simp [endsWithSlash]

/-- A slash at the end of the text is an empty last segment. -/
theorem getLast?_segmentChars_iff (settled : AllSettled kind parts) :
    (segmentChars parts).getLast? = some '/' ↔ parts.getLast? = some "" := by
  by_cases present : parts = []
  · simp [present, segmentChars]
  · obtain ⟨before, last, rfl⟩ : ∃ before last, parts = before ++ [last] :=
      ⟨_, _, (List.dropLast_concat_getLast present).symm⟩
    have free := ne_slash_of_settled (settled last (by simp))
    rw [segmentChars_concat, List.getLast?_append, List.getLast?_cons, Option.some_or,
      List.getLast?_concat, Option.some_inj, Option.some_inj]
    cases ending : last.toList.getLast? with
    | none =>
        have empty : last = "" := by simpa using ending
        simp [empty]
    | some char =>
        have listed : char ∈ last.toList := List.mem_of_getLast? ending
        have different : last ≠ "" := by
          rintro rfl
          simp at listed
        simp [free char listed, different]

theorem AllSettled.enclosing (settled : AllSettled kind parts) :
    AllSettled kind (enclosing parts) := by
  unfold Path.enclosing
  split
  · intro part listed
    exact settled part (List.dropLast_subset _ listed)
  · exact settled

theorem segmentChars_enclosing (settled : AllSettled kind parts) :
    segmentChars (Path.enclosing parts ++ [""]) =
      if (segmentChars parts).getLast? = some '/' then segmentChars parts
      else segmentChars parts ++ ['/'] := by
  unfold Path.enclosing
  by_cases slash : parts.getLast? = some ""
  · rw [if_pos slash, if_pos ((getLast?_segmentChars_iff settled).mpr slash),
      List.dropLast_append_getLast? _ slash]
  · rw [if_neg slash, if_neg (mt (getLast?_segmentChars_iff settled).mp slash),
      segmentChars_concat]
    rfl

theorem segmentsFromRoot_of_settled {segment : List Char} (settled : Settled .other segment) :
    segmentsFromRoot (· = '/') segment = [.whole segment] := by
  have slash : (fun char => decide (char = '/')) = SchemeKind.other.isSlash := by
    funext char
    simp [SchemeKind.isSlash, SchemeKind.isSpecial]
  have free : ∀ char ∈ segment, SchemeKind.other.isSlash char = false :=
    fun char listed => (settled.plain char listed).2
  have one : Text.splitAt SchemeKind.other.isSlash (segment ++ []) = [segment ++ []] :=
    Text.splitAt_append free rfl
  rw [List.append_nil] at one
  rw [segmentsFromRoot, segmentsBehindRoot, slash, one, List.map_singleton,
    Segment.ofChars_of_settled settled]
  split
  · rename_i longer
    simp at longer
  · rfl

end Path

section Resolution

variable {url : Url} {parts : List String}

theorem withFinalSlash_eq (elsewhere : url.isFile = false) (path : url.path = .segments parts) :
    url.withFinalSlash = { url with path := .segments (Path.enclosing parts ++ [""]) } := by
  unfold withFinalSlash Path.enclosing
  rw [path]
  dsimp only
  by_cases slash : parts.getLast? = some ""
  · rw [if_pos (Path.endsWithSlash_segments.mpr slash), if_pos slash,
      List.dropLast_append_getLast? _ slash, ← path]
  · rw [if_neg (mt Path.endsWithSlash_segments.mp slash), if_neg slash, elsewhere]
    rfl

theorem resolve_empty (parts : List String) :
    resolve { url with path := .segments parts } "" =
      .ok { url with path := .segments parts, fragment := none } :=
  rfl

/-- A name takes the place of the last segment. -/
theorem resolve_name {name : String} (present : name ≠ "")
    (settled : Path.Settled .other name.toList) (elsewhere : url.isFile = false)
    (parts : List String) :
    resolve { url with path := .segments parts } name =
      .ok { url with
        path := .segments (parts.dropLast ++ [name])
        query := none
        fragment := none } := by
  have followed : (Path.Trail.start url.isFile parts.dropLast).follow [.whole name.toList] =
      ⟨false, parts.dropLast ++ [name], false⟩ := by
    rw [elsewhere]
    exact Path.Trail.follow_of_settled rfl (Path.allSettled_singleton settled)
  unfold resolve
  dsimp only
  rw [if_neg present, Path.segmentsFromRoot_of_settled settled]
  exact congrArg (fun trail : Path.Trail =>
    Except.ok { url with path := trail.path, query := none, fragment := none }) followed

end Resolution

end PillarLookup.Url
