import PillarLookup.Proofs.CommandLine.Exit
import PillarLookup.Proofs.Json.Line
import PillarLookup.Proofs.Written

/-!
# What a script reads

A value is printed as JSON on a line of its own, from which it reads back. The raw format
differs for strings only, which it prints as they are.
-/

namespace PillarLookup.CommandLine

/-- A line with its end, and nothing else. -/
def IsLine (content output : String) : Prop :=
  output = content ++ "\n" ∧ '\n' ∉ content.toList

theorem onOneLine_render_json (value : Json) :
    Json.OnOneLine (OutputFormat.json.render value).toList := by
  have same : (OutputFormat.json.render value).toList = value.chars := String.toList_ofList
  rw [same]
  exact Json.onOneLine_chars value

theorem render_raw (value : Json) :
    OutputFormat.raw.render value = value.asString?.getD (OutputFormat.json.render value) := by
  cases value <;> rfl

/-- A run that finds a value prints its line, in JSON or, unless it is a string, raw. -/
theorem output_of_find {platform : Platform} {options : Options} {environment : Environment}
    {server : SaltApi.Server} {value : Json}
    (found : (find platform.domains options environment server).result = .ok value)
    (format : options.output = .json ∨ options.output = .raw ∧ value.asString? = none) :
    IsLine (OutputFormat.json.render value) (run platform options environment server).output := by
  obtain ⟨-, printed, -⟩ := run_reports platform options environment server
  obtain ⟨-, output⟩ := printed value found
  have same : options.output.render value = OutputFormat.json.render value := by
    rcases format with json | ⟨raw, other⟩
    · rw [json]
    · rw [raw, render_raw, other]
      rfl
  constructor
  · rw [output, same]
  · exact (onOneLine_render_json value).newline_not_mem

/--
A value with integers for numbers that is nested at most 127 deep is printed in JSON without
any control character and reads back from what is printed, so that no other such value is
printed alike. Raw, a string is its own characters and any other value is as in JSON. What
the command prints in JSON, or raw of a value that is no string, is that text and a line
end, from which the value reads back.
-/
theorem values_are_lines {value : Json} (whole : value.integral = true)
    (wellFormed : value.WellFormed) (nested : value.depth ≤ 127) :
    let line := OutputFormat.json.render value
    (∀ char ∈ line.toList, 0x20 ≤ char.toNat) ∧
    Json.decode line = .ok value ∧
    (∀ other, other.integral = true → other.WellFormed → other.depth ≤ 127 →
      (OutputFormat.json.render other = line ↔ other = value)) ∧
    (∀ other, OutputFormat.raw.render other =
      other.asString?.getD (OutputFormat.json.render other)) ∧
    ∀ platform options environment server,
      (find platform.domains options environment server).result = .ok value →
      options.output = .json ∨ options.output = .raw ∧ value.asString? = none →
      let output := (run platform options environment server).output
      IsLine line output ∧ Json.decode output = .ok value := by
  have regular : Json.Regular Json.nestingLimit value := Json.regular_iff.mpr ⟨wellFormed, nested⟩
  refine ⟨onOneLine_render_json value, Json.decode_text regular whole, ?_, render_raw, ?_⟩
  · intro other other_whole other_wellFormed other_nested
    have other_regular : Json.Regular Json.nestingLimit other :=
      Json.regular_iff.mpr ⟨other_wellFormed, other_nested⟩
    exact Json.text_inj other_regular other_whole regular whole
  · intro platform options environment server found format
    have line := output_of_find found format
    refine ⟨line, ?_⟩
    rw [line.1]
    exact Json.decode_line regular whole

/-- As deep as can be, around a text with a control character. -/
theorem Deep.tower_is_line :
    (Tower.tower 127).integral = true ∧ (Tower.tower 127).WellFormed ∧
      (Tower.tower 127).depth ≤ 127 ∧
      (∀ char ∈ (OutputFormat.json.render (Tower.tower 127)).toList, 0x20 ≤ char.toNat) ∧
      Json.decode (OutputFormat.json.render (Tower.tower 127)) = .ok (Tower.tower 127) := by
  obtain ⟨whole, wellFormed, depth⟩ := Tower.tower_measures 127
  have nested : (Tower.tower 127).depth ≤ 127 := Nat.le_of_eq depth
  obtain ⟨visible, decoded, -⟩ := values_are_lines whole wellFormed nested
  exact ⟨whole, wellFormed, nested, visible, decoded⟩

end PillarLookup.CommandLine
