import PillarLookup.Proofs.CommandLine.Exit

/-!
# What the options decide

A call that is not rejected gives every setting once at most, with a value that can be
read; a setting that it does not give has its default. The timeout and the flag for
certificates reach the configuration that is queried.
-/

namespace PillarLookup.CommandLine

/-- The words give the setting once, with a text that is read, or not at all. -/
inductive Sets {α : Type} (read : String → Option α) (fallback : α) (setting : Setting)
    (words : List Word) : α → Prop where
  | fallback (absent : valuesOf setting words = []) : Sets read fallback setting words fallback
  | given {text : String} {value : α} (once : valuesOf setting words = [some text])
      (spelled : read text = some value) : Sets read fallback setting words value

/-- The words give the flag once at most, and the flag is whether they do. -/
structure Flags (words : List Word) (flag : Bool) : Prop where
  once : words.count .ignoreSsl ≤ 1
  given : flag = true ↔ .ignoreSsl ∈ words

/-- The options that words make up. -/
structure Assembled (words : List Word) (options : Options) : Prop where
  logThreshold : Sets (fun text => LogThreshold.ofChars? text.toList) (some .info) .logLevel words
    options.logThreshold
  maxAttempts : Sets (fun text => Text.natural? greatestAttempts text.toList)
    Extraction.defaultMaxAttempts .maxAttempts words options.maxAttempts
  targetType : Sets TargetType.ofName? .default .targetType words options.targetType
  timeout : Sets (fun text => Text.natural? greatestTimeout text.toList) defaultTimeoutSeconds
    .timeout words options.timeout
  ignoreSsl : Flags words options.ignoreSsl
  output : Sets OutputFormat.ofName? .default .output words options.output
  operands : operandsOf words = [options.target, options.pillar]

section Settings

variable {words : List Word}

theorem readSetting_eq_some_iff {α : Type} {read : String → Option α} {fallback value : α}
    {setting : Setting} :
    readSetting read fallback setting words = some value ↔
      Sets read fallback setting words value := by
  rw [readSetting]
  constructor
  · intro found
    split at found
    · rename_i absent
      cases found
      exact .fallback absent
    · rename_i text once
      exact .given once found
    · cases found
  · intro sets
    cases sets with
    | fallback absent => rw [absent]
    | given once spelled =>
        rw [once]
        exact spelled

theorem readFlag_eq_some_iff {flag : Bool} : readFlag words = some flag ↔ Flags words flag := by
  have counted : words.count .ignoreSsl = (words.filter (· = .ignoreSsl)).length := by
    simp [List.count_eq_length_filter, beq_eq_decide]
  have listed : .ignoreSsl ∈ words ↔ words.filter (· = .ignoreSsl) ≠ [] := by
    simp [List.filter_eq_nil_iff]
  rw [readFlag]
  constructor
  · intro found
    split at found
    · rename_i none
      cases found
      exact ⟨by simp [counted, none], by simp [listed, none]⟩
    · rename_i only one
      cases found
      exact ⟨by simp [counted, one], by simp [listed, one]⟩
    · cases found
  · rintro ⟨once, given⟩
    rw [counted] at once
    rw [listed] at given
    generalize words.filter (· = .ignoreSsl) = kept at once given ⊢
    cases kept with
    | nil =>
        cases flag with
        | false => rfl
        | true => exact absurd rfl (given.mp rfl)
    | cons first rest =>
        -- a flag that is given once at most is not followed by another
        obtain rfl : rest = [] :=
          List.length_eq_zero_iff.mp (Nat.le_zero.mp (Nat.le_of_succ_le_succ once))
        rw [given.mpr (List.cons_ne_nil first [])]

theorem assemble_eq_some_iff {options : Options} :
    assemble words = some options ↔ Assembled words options := by
  simp only [assemble, Option.bind_eq_bind, Option.bind_eq_some_iff, readSetting_eq_some_iff,
    readFlag_eq_some_iff]
  constructor
  · rintro ⟨logThreshold, log, maxAttempts, attempts, targetType, type, timeout, seconds,
      ignoreSsl, flag, output, format, made⟩
    split at made
    · rename_i target pillar operands
      split at made
      · cases made
        exact ⟨log, attempts, type, seconds, flag, format, operands⟩
      · cases made
    · cases made
  · rintro ⟨log, attempts, type, seconds, flag, format, operands⟩
    refine ⟨_, log, _, attempts, _, type, _, seconds, _, flag, _, format, ?_⟩
    rw [operands]
    exact dif_pos options.maxAttempts_pos

theorem parse_eq_ok_iff {arguments : List String} {options : Options} :
    parse arguments = .ok options ↔
      ∃ words, scan none 0 arguments = .ok words ∧ Assembled words options := by
  rw [parse]
  cases scan none 0 arguments with
  | error stop => simp
  | ok words =>
      simp only [Except.ok.injEq, exists_eq_left', ← assemble_eq_some_iff]
      cases assemble words <;> simp

end Settings

/--
What is queried has the timeout that the words of the call give in seconds, or sixty
seconds, and accepts any certificate just if the words have the flag for it.
-/
theorem configured_by_words {arguments : List String} {options : Options} {base config : Config}
    (accepted : parse arguments = .ok options) (configured : Configured options base config) :
    ∃ words seconds, scan none 0 arguments = .ok words ∧
      Sets (fun text => Text.natural? greatestTimeout text.toList) 60 .timeout words seconds ∧
      config.timeout = 1000 * seconds ∧ (config.ignoreSsl = true ↔ .ignoreSsl ∈ words) := by
  obtain ⟨words, scanned, assembled⟩ := parse_eq_ok_iff.mp accepted
  refine ⟨words, options.timeout, scanned, assembled.timeout, configured.timeout, ?_⟩
  rw [configured.ignoreSsl]
  exact assembled.ignoreSsl.given

end PillarLookup.CommandLine
