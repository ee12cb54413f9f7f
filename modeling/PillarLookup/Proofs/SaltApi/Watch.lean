import PillarLookup.Proofs.SaltApi.Exchange

/-!
# The schedule of a wait

A wait for a job is laid out as a sequence of lookups without regard to when it
ends: each starts one poll interval after the end of the one before it, or at the
deadline if that is earlier, and the script alone says what it comes to. The wait
ends at the first lookup that fails or covers every minion, and at the deadline if
there is none. Times are counted from the moment at which the publication was
answered.
-/

namespace PillarLookup.SaltApi

/-- What a lookup comes to. -/
inductive Verdict where
  | failed (error : ApiError)
  | answered (returns : Members Json)
  | abandoned

/-- A job, the server that is asked for it, and how many lookups it answered before. -/
structure Watch where
  config : Config
  server : Server
  job : Job
  /-- The address of the lookups. -/
  url : Url
  earlier : Nat

namespace Watch

def reply (watch : Watch) (index : Nat) : Reply :=
  watch.server.lookup.answer (watch.earlier + index)

/-- When a lookup starts. -/
def start (watch : Watch) : Nat → Nat
  | 0 => 0
  | index + 1 =>
      min watch.config.timeout
        (watch.start index + (watch.reply index).span (watch.config.timeout - watch.start index) +
          watch.config.pollInterval)

/-- When a lookup was answered or given up. -/
def finish (watch : Watch) (index : Nat) : Nat :=
  watch.start index + (watch.reply index).span (watch.config.timeout - watch.start index)

/-- A lookup that would start at the deadline is not sent, so that nothing comes of it. -/
def verdict (watch : Watch) (index : Nat) : Verdict :=
  if watch.config.timeout ≤ watch.start index then .abandoned
  else
    match (watch.reply index).fate (watch.config.timeout - watch.start index) with
    | .overdue => .abandoned
    | .dropped => .failed (.request .lookUp (.connectionClosed watch.url.text))
    | .arrived answer =>
        match judge .lookUp lookupShape answer with
        | .error error => .failed error
        | .ok items => .answered (items.head?.getD [])

/-- A lookup does not end the wait: it is abandoned, or some minion is not in its answer. -/
def Continues (watch : Watch) (index : Nat) : Prop :=
  match watch.verdict index with
  | .failed _ => False
  | .answered returns => ∃ minion ∈ watch.job.minions, returns.contains minion = false
  | .abandoned => True

/-- No lookup before this one ends the wait. -/
def Reaches (watch : Watch) (index : Nat) : Prop :=
  ∀ before < index, watch.Continues before

/-- The map of the last lookup that is answered, and the empty map if none is. -/
def Latest (watch : Watch) (returns : Members Json) : Prop :=
  (∃ index, watch.verdict index = .answered returns ∧
    ∀ later, index < later → watch.verdict later = .abandoned) ∨
  (returns = [] ∧ ∀ index, watch.verdict index = .abandoned)

/-! ## The timeline -/

section Timeline

variable {watch : Watch} {index : Nat}

theorem start_succ (watch : Watch) (index : Nat) :
    watch.start (index + 1) =
      min watch.config.timeout (watch.finish index + watch.config.pollInterval) :=
  rfl

theorem start_le_timeout (watch : Watch) (index : Nat) :
    watch.start index ≤ watch.config.timeout := by
  cases index with
  | zero => exact Nat.zero_le _
  | succ index => exact Nat.min_le_left _ _

theorem finish_le_timeout (watch : Watch) (index : Nat) :
    watch.finish index ≤ watch.config.timeout := by
  have started := watch.start_le_timeout index
  have waited := Reply.span_le (watch.config.timeout - watch.start index) (watch.reply index)
  rw [finish]
  omega

theorem start_le_finish (watch : Watch) (index : Nat) :
    watch.start index ≤ watch.finish index :=
  Nat.le_add_right _ _

/-- Whatever is decided is decided before the deadline. -/
theorem abandoned_or_finish_lt (watch : Watch) (index : Nat) :
    watch.verdict index = .abandoned ∨
      (watch.start index < watch.config.timeout ∧
        watch.finish index < watch.config.timeout) := by
  rw [verdict]
  by_cases late : watch.config.timeout ≤ watch.start index
  · exact .inl (if_pos late)
  · rw [if_neg late]
    cases decided : (watch.reply index).fate (watch.config.timeout - watch.start index) with
    | overdue => exact .inl rfl
    | dropped =>
        cases shape : watch.reply index with
        | answer delay status body =>
            rw [shape, Reply.fate] at decided
            split at decided <;> cases decided
        | stall =>
            rw [shape] at decided
            cases decided
        | drop =>
            refine .inr ⟨Nat.lt_of_not_le late, ?_⟩
            rw [finish]
            rw [shape, Reply.span]
            omega
    | arrived answer =>
        have early := Reply.span_lt_of_arrived decided
        refine .inr ⟨Nat.lt_of_not_le late, ?_⟩
        rw [finish]
        omega

/-- An abandoned lookup lasts until the deadline. -/
theorem finish_of_abandoned (gone : watch.verdict index = .abandoned) :
    watch.finish index = watch.config.timeout := by
  have started := watch.start_le_timeout index
  rw [verdict] at gone
  by_cases late : watch.config.timeout ≤ watch.start index
  · have waited := Reply.span_le (watch.config.timeout - watch.start index) (watch.reply index)
    rw [finish]
    omega
  · rw [if_neg late] at gone
    cases decided : (watch.reply index).fate (watch.config.timeout - watch.start index) with
    | overdue =>
        rw [finish]
        rw [Reply.span_eq_of_overdue decided]
        omega
    | dropped => simp [decided] at gone
    | arrived answer =>
        rw [decided] at gone
        dsimp only at gone
        split at gone <;> cases gone

/-- Nothing is looked up after a lookup was abandoned. -/
theorem abandoned_succ (gone : watch.verdict index = .abandoned) :
    watch.verdict (index + 1) = .abandoned := by
  have ended := finish_of_abandoned gone
  rw [verdict]
  rw [if_pos]
  rw [start_succ, ended]
  omega

theorem abandoned_of_le {later : Nat} (gone : watch.verdict index = .abandoned)
    (after : index ≤ later) : watch.verdict later = .abandoned := by
  induction after with
  | refl => exact gone
  | step _ ih => exact abandoned_succ ih

/-- The clock gains a poll interval with every lookup until it reaches the deadline. -/
theorem min_le_start (watch : Watch) (index : Nat) :
    min watch.config.timeout (index * watch.config.pollInterval) ≤ watch.start index := by
  induction index with
  | zero => simp
  | succ index ih =>
      have later := watch.start_le_finish index
      rw [start_succ, Nat.succ_mul]
      omega

theorem abandoned_timeout (polls : 0 < watch.config.pollInterval) :
    watch.verdict watch.config.timeout = .abandoned := by
  have reached := watch.min_le_start watch.config.timeout
  have scaled : watch.config.timeout ≤ watch.config.timeout * watch.config.pollInterval :=
    Nat.le_mul_of_pos_right _ polls
  rw [verdict]
  rw [if_pos]
  omega

end Timeline

end Watch

end PillarLookup.SaltApi
