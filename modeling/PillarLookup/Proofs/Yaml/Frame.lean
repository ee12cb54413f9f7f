import Mathlib.Data.List.DropRight
import PillarLookup.OutputFormat
import PillarLookup.Proofs.Json.Line

/-!
# Documents without their frame

A document begins neither with a space nor with a line end, so that taking the frame off
leaves its beginning as it is. At its end, though, every blank is lost, and the document has
blanks there if and only if it closes with a string that is written without quotes and ends
in a blank of its own.
-/

namespace PillarLookup

namespace Text

/-- A text whose last character is a blank. -/
def EndsBlank (chars : List Char) : Prop :=
  ∃ last, chars.getLast? = some last ∧ isBlank last = true

theorem endsBlank_append_singleton (chars : List Char) (last : Char) :
    EndsBlank (chars ++ [last]) ↔ isBlank last = true := by
  simp [EndsBlank]

/-- What stands before the end does not matter. -/
theorem endsBlank_append (first : List Char) {second : List Char} (present : second ≠ []) :
    EndsBlank (first ++ second) ↔ EndsBlank second := by
  rw [EndsBlank, List.getLast?_append_of_ne_nil _ present, EndsBlank]

theorem IsGraphic.not_endsBlank {chars : List Char} (graphic : IsGraphic chars) :
    ¬ EndsBlank chars := by
  rintro ⟨last, found, blank⟩
  have visible := graphic.2 last (List.mem_of_getLast? found)
  rw [visible.not_isBlank] at blank
  cases blank

theorem dropEndWhile_isBlank_eq_self_iff {chars : List Char} :
    dropEndWhile isBlank chars = chars ↔ ¬ EndsBlank chars := by
  rcases List.eq_nil_or_concat chars with rfl | ⟨before, last, rfl⟩
  · exact iff_of_true rfl (by simp [EndsBlank])
  · rw [List.concat_eq_append, endsBlank_append_singleton]
    constructor
    · intro same blank
      have shorter := dropEndWhile_append_of_forall isBlank before [last] (by simpa using blank)
      have length := (List.rdropWhile_prefix isBlank before).length_le
      change (dropEndWhile isBlank before).length ≤ before.length at length
      rw [← shorter, same, List.length_append] at length
      exact Nat.not_succ_le_self _ length
    · intro kept
      exact dropEndWhile_append_singleton isBlank before last (Bool.eq_false_iff.mpr kept)

/-- Only blanks are dropped. -/
theorem exists_blanks_of_dropEndWhile (chars : List Char) :
    ∃ lost, chars = dropEndWhile isBlank chars ++ lost ∧ ∀ char ∈ lost, isBlank char = true :=
  ⟨chars.rtakeWhile isBlank, List.rdropWhile_append_rtakeWhile.symm,
    fun _ member => List.mem_rtakeWhile_imp member⟩

end Text

open Text (EndsBlank)

namespace Yaml

/-! ## The beginning of a document -/

theorem exists_stringChars_cons (chars : List Char) :
    ∃ first rest, stringChars chars = first :: rest ∧ first ≠ ' ' ∧ first ≠ '\n' := by
  rw [stringChars]
  split
  · exact ⟨'"', _, rfl, by decide, by decide⟩
  · rename_i plain
    cases chars with
    | nil => exact absurd rfl plain
    | cons first rest =>
        refine ⟨first, rest, rfl, ?_, ?_⟩
        · rintro rfl
          simp [needsQuotes] at plain
        · rintro rfl
          have breaks : breaksPlain '\n' = true := by decide
          simp [needsQuotes, breaks] at plain

/-- No document begins with a space or a line end. -/
theorem exists_nodeChars_cons (depth : Nat) (value : Json) :
    ∃ first rest, nodeChars depth value = first :: rest ∧ first ≠ ' ' ∧ first ≠ '\n' := by
  have of_graphic : ∀ {chars : List Char}, Text.IsGraphic chars →
      ∃ first rest, chars = first :: rest ∧ first ≠ ' ' ∧ first ≠ '\n' := by
    rintro chars ⟨present, visible⟩
    obtain ⟨first, rest, rfl⟩ := List.exists_cons_of_ne_nil present
    have code := visible first List.mem_cons_self
    refine ⟨first, rest, rfl, ?_, ?_⟩
    · rintro rfl
      exact absurd code (by decide)
    · rintro rfl
      exact absurd code (by decide)
  cases value with
  | null => exact ⟨'~', [], by rw [nodeChars], by decide, by decide⟩
  | bool value =>
      cases value with
      | true => exact ⟨'t', _, by rw [nodeChars], by decide, by decide⟩
      | false => exact ⟨'f', _, by rw [nodeChars], by decide, by decide⟩
  | int value =>
      rw [nodeChars]
      exact of_graphic (Json.isGraphic_intChars value)
  | real value =>
      rw [nodeChars]
      exact of_graphic (numberLayout.isGraphic_chars value)
  | str value =>
      rw [nodeChars]
      exact exists_stringChars_cons value.toList
  | arr items =>
      rw [nodeChars]
      cases items with
      | nil => exact ⟨'[', _, by rw [itemsChars], by decide, by decide⟩
      | cons item rest => exact ⟨'-', _, by rw [itemsChars]; rfl, by decide, by decide⟩
  | obj members =>
      rw [nodeChars]
      cases members with
      | nil => exact ⟨'\x7b', _, by rw [membersChars], by decide, by decide⟩
      | cons entry rest =>
          obtain ⟨first, more, shape, others⟩ := exists_stringChars_cons entry.1.toList
          rw [membersChars, keyChars, shape]
          exact ⟨first, _, rfl, others⟩

theorem nodeChars_ne_nil (depth : Nat) (value : Json) : nodeChars depth value ≠ [] := by
  obtain ⟨first, rest, shape, -⟩ := exists_nodeChars_cons depth value
  rw [shape]
  exact List.cons_ne_nil first rest

/-! ## The end of a document -/

/-- A value whose document closes with a string that is written without quotes. -/
inductive ClosesWith : Json → String → Prop where
  | str {text : String} (plain : needsQuotes text.toList = false) : ClosesWith (.str text) text
  | arr {items : List Json} {last : Json} {text : String} (final : items.getLast? = some last)
      (closes : ClosesWith last text) : ClosesWith (.arr items) text
  | obj {members : Members Json} {key : String} {last : Json} {text : String}
      (final : members.getLast? = some (key, last)) (closes : ClosesWith last text) :
      ClosesWith (.obj members) text

theorem exists_moreItemsChars (depth : Nat) (items : List Json) (last : Json) :
    ∃ before, moreItemsChars depth (items ++ [last]) = before ++ nodeChars (depth + 1) last := by
  induction items with
  | nil =>
      refine ⟨newLine depth ++ ['-', ' '], ?_⟩
      simp [moreItemsChars]
  | cons item rest ih =>
      obtain ⟨before, shape⟩ := ih
      refine ⟨newLine depth ++ '-' :: ' ' :: nodeChars (depth + 1) item ++ before, ?_⟩
      simp [moreItemsChars, shape]

/-- The text of a list closes with its last item. -/
theorem exists_itemsChars (depth : Nat) (items : List Json) (last : Json) :
    ∃ before, itemsChars depth (items ++ [last]) = before ++ nodeChars (depth + 1) last := by
  cases items with
  | nil =>
      refine ⟨['-', ' '], ?_⟩
      simp [itemsChars, moreItemsChars]
  | cons item rest =>
      obtain ⟨before, shape⟩ := exists_moreItemsChars depth rest last
      refine ⟨'-' :: ' ' :: nodeChars (depth + 1) item ++ before, ?_⟩
      simp [itemsChars, shape]

theorem exists_moreMembersChars (depth : Nat) (members : Members Json) (key : String)
    (last : Json) :
    ∃ before, moreMembersChars depth (members ++ [(key, last)]) =
      before ++ nodeChars (depth + 1) last := by
  induction members with
  | nil =>
      refine ⟨newLine depth ++ keyChars depth key last, ?_⟩
      simp [moreMembersChars]
  | cons entry rest ih =>
      obtain ⟨before, shape⟩ := ih
      refine ⟨newLine depth ++ keyChars depth entry.1 entry.2 ++ nodeChars (depth + 1) entry.2 ++
        before, ?_⟩
      simp [moreMembersChars, shape]

/-- The text of an object closes with its last value. -/
theorem exists_membersChars (depth : Nat) (members : Members Json) (key : String) (last : Json) :
    ∃ before, membersChars depth (members ++ [(key, last)]) =
      before ++ nodeChars (depth + 1) last := by
  cases members with
  | nil =>
      refine ⟨keyChars depth key last, ?_⟩
      simp [membersChars, moreMembersChars]
  | cons entry rest =>
      obtain ⟨before, shape⟩ := exists_moreMembersChars depth rest key last
      refine ⟨keyChars depth entry.1 entry.2 ++ nodeChars (depth + 1) entry.2 ++ before, ?_⟩
      simp [membersChars, shape]

theorem endsBlank_stringChars_iff (text : String) :
    EndsBlank (stringChars text.toList) ↔
      needsQuotes text.toList = false ∧ EndsBlank text.toList := by
  rw [stringChars]
  cases needsQuotes text.toList with
  | true =>
      refine iff_of_false ?_ (by simp)
      rw [if_pos rfl, Text.endsBlank_append_singleton]
      decide
  | false => simp

theorem endsBlank_nodeChars_of_isGraphic {depth : Nat} {value : Json}
    (graphic : Text.IsGraphic (nodeChars depth value)) (never : ∀ text, ¬ ClosesWith value text) :
    EndsBlank (nodeChars depth value) ↔
      ∃ text, ClosesWith value text ∧ EndsBlank text.toList := by
  refine iff_of_false graphic.not_endsBlank ?_
  rintro ⟨text, closes, -⟩
  exact never text closes

/-- There are blanks at the end only if they are those of the closing string. -/
theorem endsBlank_nodeChars_iff (depth : Nat) (value : Json) :
    EndsBlank (nodeChars depth value) ↔
      ∃ text, ClosesWith value text ∧ EndsBlank text.toList := by
  induction value using Json.induct generalizing depth with
  | null =>
      refine endsBlank_nodeChars_of_isGraphic ?_ (by rintro text ⟨⟩)
      rw [nodeChars]
      decide
  | bool value =>
      refine endsBlank_nodeChars_of_isGraphic ?_ (by rintro text ⟨⟩)
      cases value with
      | true =>
          rw [nodeChars]
          decide
      | false =>
          rw [nodeChars]
          decide
  | int value =>
      refine endsBlank_nodeChars_of_isGraphic ?_ (by rintro text ⟨⟩)
      rw [nodeChars]
      exact Json.isGraphic_intChars value
  | real value =>
      refine endsBlank_nodeChars_of_isGraphic ?_ (by rintro text ⟨⟩)
      rw [nodeChars]
      exact numberLayout.isGraphic_chars value
  | str value =>
      rw [nodeChars, endsBlank_stringChars_iff]
      constructor
      · rintro ⟨plain, blank⟩
        exact ⟨value, .str plain, blank⟩
      · rintro ⟨text, ⟨plain⟩, blank⟩
        exact ⟨plain, blank⟩
  | arr items each =>
      rcases List.eq_nil_or_concat items with rfl | ⟨before, last, rfl⟩
      · refine endsBlank_nodeChars_of_isGraphic ?_ ?_
        · rw [nodeChars, itemsChars]
          decide
        · intro text closing
          cases closing with
          | arr final closes => cases final
      · rw [List.concat_eq_append] at each ⊢
        rw [nodeChars]
        obtain ⟨opening, shape⟩ := exists_itemsChars depth before last
        rw [shape, Text.endsBlank_append _ (nodeChars_ne_nil _ _), each last (by simp)]
        constructor
        · rintro ⟨text, closes, blank⟩
          exact ⟨text, .arr List.getLast?_concat closes, blank⟩
        · rintro ⟨text, closing, blank⟩
          cases closing with
          | arr final closes =>
              cases List.getLast?_concat.symm.trans final
              exact ⟨text, closes, blank⟩
  | obj members each =>
      rcases List.eq_nil_or_concat members with rfl | ⟨before, ⟨key, last⟩, rfl⟩
      · refine endsBlank_nodeChars_of_isGraphic ?_ ?_
        · rw [nodeChars, membersChars]
          decide
        · intro text closing
          cases closing with
          | obj final closes => cases final
      · rw [List.concat_eq_append] at each ⊢
        rw [nodeChars]
        obtain ⟨opening, shape⟩ := exists_membersChars depth before key last
        rw [shape, Text.endsBlank_append _ (nodeChars_ne_nil _ _), each (key, last) (by simp)]
        constructor
        · rintro ⟨text, closes, blank⟩
          exact ⟨text, .obj List.getLast?_concat closes, blank⟩
        · rintro ⟨text, closing, blank⟩
          cases closing with
          | obj final closes =>
              cases List.getLast?_concat.symm.trans final
              exact ⟨text, closes, blank⟩

/-- A value whose document does not close with blanks of a string. -/
def ClosesVisibly (value : Json) : Prop :=
  ∀ text, ClosesWith value text → ¬ EndsBlank text.toList

theorem endsBlank_document_iff (value : Json) :
    EndsBlank (document value) ↔ ¬ ClosesVisibly value := by
  rw [document, endsBlank_nodeChars_iff, ClosesVisibly]
  simp only [not_forall, not_not, exists_prop]

end Yaml

namespace OutputFormat

/-- Of the document in a frame the blanks at its end are lost, and nothing else. -/
theorem unframe_framed (value : Json) :
    unframe (Yaml.framed value) = Text.dropEndWhile Text.isBlank (Yaml.document value) := by
  obtain ⟨first, rest, shape, notSpace, notBreak⟩ := Yaml.exists_nodeChars_cons 0 value
  have document : Yaml.document value = first :: rest := shape
  have breakIsBlank : ∀ char ∈ ['\n'], Text.isBlank char = true :=
    List.forall_mem_singleton.mpr (by decide)
  have behindMarker : (dropMarker (Yaml.framed value)).dropWhile
      (fun char => char = ' ' || char = '\n') = Yaml.document value ++ ['\n'] := by
    simp [Yaml.framed, Yaml.marker, dropMarker, document, notSpace, notBreak]
  rw [unframe, behindMarker, Text.dropEndWhile_append_of_forall _ _ _ breakIsBlank]

theorem toList_render_yaml (value : Json) :
    (yaml.render value).toList = Text.dropEndWhile Text.isBlank (Yaml.document value) := by
  rw [← unframe_framed value]
  exact String.toList_ofList

/-- All of a document is shown exactly if it does not close with blanks of a string. -/
theorem toList_render_yaml_eq_iff (value : Json) :
    (yaml.render value).toList = Yaml.document value ↔ Yaml.ClosesVisibly value := by
  rw [toList_render_yaml, Text.dropEndWhile_isBlank_eq_self_iff, Yaml.endsBlank_document_iff,
    not_not]

/--
Of a document nothing but blanks at its end can be lost. All of it is shown if and only if
it does not close with an unquoted string that ends in a blank, and among such values those
with different documents are shown differently.
-/
theorem yaml_shows_document_iff (value : Json) :
    let document := Yaml.document value
    let shown := (yaml.render value).toList
    (∃ lost, document = shown ++ lost ∧ ∀ char ∈ lost, Text.isBlank char = true) ∧
    (shown = document ↔ Yaml.ClosesVisibly value) ∧
    ∀ other, Yaml.ClosesVisibly value → Yaml.ClosesVisibly other →
      (yaml.render other = yaml.render value ↔ Yaml.document other = document) := by
  refine ⟨?_, toList_render_yaml_eq_iff value, ?_⟩
  · rw [toList_render_yaml]
    exact Text.exists_blanks_of_dropEndWhile (Yaml.document value)
  · intro other visible other_visible
    rw [← String.toList_inj, (toList_render_yaml_eq_iff value).mpr visible,
      (toList_render_yaml_eq_iff other).mpr other_visible]

/-- A no-break space at the end of a string is lost: the string is shown as without it. -/
theorem yaml_drops_no_break_space :
    let spaced : Json := .str "a\u00a0"
    Yaml.framed spaced = "---\na\u00a0\n".toList ∧
      yaml.render spaced ≠ String.ofList (Yaml.document spaced) ∧
      Yaml.document spaced ≠ Yaml.document (.str "a") ∧
      yaml.render spaced = yaml.render (.str "a") := by
  decide

end OutputFormat

end PillarLookup
