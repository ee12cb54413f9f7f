import PillarLookup.Proofs.SaltApi.Course
import PillarLookup.Proofs.Json.Regular

/-!
# How a query closes

A wait that no lookup fails ends with one map, which is no deeper than what can be
written and read again. A reply to a publication that is not incomplete closes with
such a map and with the minions that are not in it. A query that gets a token and a
reply comes to what that reply leads to.
-/

namespace PillarLookup.SaltApi

open Json (Regular)

/-! ## The maps that lookups return -/

/-- No number in the maps that lookups return is a binary fraction. -/
def Server.Integral (server : Server) : Prop :=
  ∀ count delay status body items, server.lookup.answer count = .answer delay status body →
    lookupShape.decode (Answer.text ⟨status, body⟩) = .ok items →
    ∀ returns ∈ items, Json.integral (.obj returns) = true

theorem regular_of_lookup {text : String} {items : List (Members Json)}
    (decoded : lookupShape.decode text = .ok items) {returns : Members Json}
    (listed : returns ∈ items) : Regular Json.nestingLimit (.obj returns) := by
  have yields : Json.Yields (lookupShape.reader Json.nestingLimit)
      fun items => ∀ returns ∈ items, Regular 125 (.obj returns) :=
    Json.yields_reader (by simp [lookupShape, returnShape])
      (Json.yields_readList Json.yields_members 125)
  exact (yields.decodeWith decoded returns listed).mono (by decide)

theorem regular_empty : Regular Json.nestingLimit (.obj []) := by
  simp [Json.nestingLimit, Members.Ascending]

theorem decode_of_judge {α : Type} {task : Task} {shape : Json.Shape α} {answer : Answer}
    {value : α} (judged : judge task shape answer = .ok value) :
    shape.decode answer.text = .ok value := by
  rw [judge_eq_ok_iff] at judged
  split at judged
  · cases decoded : shape.decode answer.text with
    | error error =>
        rw [decoded] at judged
        cases judged
    | ok other =>
        rw [decoded] at judged
        cases judged
        rfl
  · cases judged

namespace Watch

variable {watch : Watch} {index : Nat} {returns : Members Json}

/-- A lookup that is answered has a reply that decodes. -/
theorem exists_items_of_answered (answered : watch.verdict index = .answered returns) :
    ∃ delay status body items, watch.reply index = .answer delay status body ∧
      lookupShape.decode (Answer.text ⟨status, body⟩) = .ok items ∧
      returns = items.head?.getD [] := by
  rw [verdict] at answered
  split at answered
  · cases answered
  · cases decided : (watch.reply index).fate (watch.config.timeout - watch.start index) with
    | overdue =>
        rw [decided] at answered
        cases answered
    | dropped =>
        rw [decided] at answered
        cases answered
    | arrived answer =>
        obtain ⟨delay, reply, -⟩ := exists_delay_of_arrived decided
        rw [decided] at answered
        cases judged : judge .lookUp lookupShape answer with
        | error error => simp [judged] at answered
        | ok items =>
            simp only [judged, Verdict.answered.injEq] at answered
            exact ⟨delay, answer.status, answer.body, items, reply, decode_of_judge judged,
              answered.symm⟩

/-- A map that a lookup returns is no deeper than what can be read again. -/
theorem regular_of_answered (answered : watch.verdict index = .answered returns) :
    Regular Json.nestingLimit (.obj returns) := by
  obtain ⟨delay, status, body, items, -, decoded, rfl⟩ := exists_items_of_answered answered
  cases items with
  | nil => exact regular_empty
  | cons returns others => exact regular_of_lookup decoded (List.mem_cons_self ..)

theorem integral_of_answered (whole : watch.server.Integral)
    (answered : watch.verdict index = .answered returns) :
    Json.integral (.obj returns) = true := by
  obtain ⟨delay, status, body, items, reply, decoded, rfl⟩ := exists_items_of_answered answered
  cases items with
  | nil => rfl
  | cons returns others =>
      exact whole _ delay status body _ reply decoded returns (List.mem_cons_self ..)

/-! ## How a wait ends -/

/--
The map with which a wait ends that no failure ends: that of the first lookup that
covers every minion, and that of the last answered one if there is none.
-/
def Ends (watch : Watch) (returns : Members Json) : Prop :=
  (∃ index, watch.Reaches index ∧ watch.verdict index = .answered returns ∧
    ∀ minion ∈ watch.job.minions, returns.contains minion = true) ∨
  ((∀ index, watch.Continues index) ∧ watch.Latest returns)

theorem Latest.unique {other : Members Json} (latest : watch.Latest returns)
    (again : watch.Latest other) : returns = other := by
  rcases latest with ⟨index, answered, last⟩ | ⟨rfl, silent⟩
  · rcases again with ⟨second, reply, final⟩ | ⟨-, silent⟩
    · rcases Nat.lt_trichotomy index second with before | rfl | after
      · rw [last second before] at reply
        cases reply
      · rw [answered] at reply
        cases reply
        rfl
      · rw [final index after] at answered
        cases answered
    · rw [silent index] at answered
      cases answered
  · rcases again with ⟨second, reply, -⟩ | ⟨rfl, -⟩
    · rw [silent second] at reply
      cases reply
    · rfl

/-- The map that a wait ends with is empty, or that of a lookup. -/
theorem Ends.eq_nil_or_answered (ends : watch.Ends returns) :
    returns = [] ∨ ∃ index, watch.verdict index = .answered returns := by
  rcases ends with ⟨index, -, answered, -⟩ | ⟨-, ⟨index, answered, -⟩ | ⟨empty, -⟩⟩
  · exact .inr ⟨index, answered⟩
  · exact .inr ⟨index, answered⟩
  · exact .inl empty

theorem Ends.regular (ends : watch.Ends returns) :
    Regular Json.nestingLimit (.obj returns) := by
  rcases ends.eq_nil_or_answered with rfl | ⟨index, answered⟩
  · exact regular_empty
  · exact regular_of_answered answered

theorem Ends.integral (whole : watch.server.Integral) (ends : watch.Ends returns) :
    Json.integral (.obj returns) = true := by
  rcases ends.eq_nil_or_answered with rfl | ⟨index, answered⟩
  · rfl
  · exact integral_of_answered whole answered

/-- A wait ends with one map only. -/
theorem Ends.unique {other : Members Json} (ends : watch.Ends returns)
    (again : watch.Ends other) : returns = other := by
  have stops : ∀ index returns, watch.verdict index = .answered returns →
      (∀ minion ∈ watch.job.minions, returns.contains minion = true) →
      ¬ watch.Continues index := by
    intro index returns answered covers continues
    rw [Continues, answered] at continues
    obtain ⟨minion, listed, absent⟩ := continues
    rw [covers minion listed] at absent
    cases absent
  rcases ends with ⟨index, reaches, answered, covers⟩ | ⟨continues, latest⟩
  · rcases again with ⟨second, first, reply, all⟩ | ⟨continues, -⟩
    · rcases Nat.lt_trichotomy index second with before | rfl | after
      · exact absurd (first index before) (stops index returns answered covers)
      · rw [answered] at reply
        cases reply
        rfl
      · exact absurd (reaches second after) (stops second other reply all)
    · exact absurd (continues index) (stops index returns answered covers)
  · rcases again with ⟨second, -, reply, all⟩ | ⟨-, last⟩
    · exact absurd (continues second) (stops second other reply all)
    · exact latest.unique last

/-- Unless a lookup that the wait reaches fails, there is a map that the wait ends with. -/
theorem failed_or_ends (watch : Watch) (polls : 0 < watch.config.pollInterval) :
    (∃ index error, watch.Reaches index ∧ watch.verdict index = .failed error) ∨
      ∃ returns, watch.Ends returns := by
  obtain ⟨index, ends, goes⟩ := watch.exists_first_end polls
  have reaches : watch.Reaches index := by
    intro before less
    exact (watch.continues_iff before).mpr (.inr (goes before less))
  cases decided : watch.verdict index with
  | failed error => exact .inl ⟨index, error, reaches, decided⟩
  | answered returns =>
      have covered := missing_of_not_goesOn ends decided
      exact .inr ⟨returns, .inl ⟨index, reaches, decided, missing_eq_nil_iff.mp covered⟩⟩
  | abandoned =>
      refine .inr ⟨watch.kept index, .inr ⟨?_, latest_kept decided goes⟩⟩
      intro other
      rcases Nat.lt_or_ge other index with before | after
      · exact reaches other before
      · exact (watch.continues_iff other).mpr (.inl (abandoned_of_le decided after))

section Resume

variable {began : Nat} {session : Session}
  (prepared : prepare watch.config .lookUp (some watch.job.token) = .ok watch.url)
  (polls : 0 < watch.config.pollInterval) (stands : watch.Stands began 0 session)

include prepared polls stands

theorem resume_of_ends (ends : watch.Ends returns) :
    (watch.resume began 0 session).result = .ok ⟨returns, watch.job.missing returns⟩ := by
  rcases ends with ⟨index, reaches, answered, covers⟩ | ⟨continues, latest⟩
  · rw [missing_eq_nil_iff.mpr covers]
    exact (resume_of_covering prepared polls stands reaches answered covers).1
  · obtain ⟨-, ⟨other, last, result⟩, -⟩ := resume_of_continues prepared polls stands continues
    rw [latest.unique last]
    exact result

/-- A wait returns what its schedule ends with, and as missing what is not in it. -/
theorem resume_eq_ok_iff {collected : Collected} :
    (watch.resume began 0 session).result = .ok collected ↔
      watch.Ends collected.returns ∧ collected.missing = watch.job.missing collected.returns := by
  constructor
  · intro result
    rcases watch.failed_or_ends polls with ⟨index, error, reaches, failed⟩ | ⟨returns, ends⟩
    · rw [(resume_of_failed prepared polls stands reaches failed).1] at result
      cases result
    · rw [resume_of_ends prepared polls stands ends] at result
      cases result
      exact ⟨ends, rfl⟩
  · obtain ⟨returns, missing⟩ := collected
    rintro ⟨ends, rest⟩
    dsimp only at ends rest
    rw [rest]
    exact resume_of_ends prepared polls stands ends

end Resume

end Watch

theorem waitForReturns_eq_ok_iff {config : Config} {server : Server} {job : Job}
    {session : Session} (polls : 0 < config.pollInterval) {collected : Collected} :
    (waitForReturns config server job session).result = .ok collected ↔
      ∃ url, prepare config .lookUp (some job.token) = .ok url ∧
        Watch.Ends ⟨config, server, job, url, session.lookups⟩ collected.returns ∧
        collected.missing = job.missing collected.returns := by
  cases prepared : prepare config .lookUp (some job.token) with
  | error error =>
      rw [waitForReturns_of_unprepared server session prepared]
      simp
  | ok url =>
      simp only [Except.ok.injEq, exists_eq_left']
      exact Watch.resume_eq_ok_iff prepared polls
        (Watch.stands_zero config server job url session)

/-! ## What a reply leads to -/

/--
How a reply that is not incomplete closes. The empty object stands for no minions at
all; a job is waited for, and what is not in the map that the wait ends with is missing.
-/
def Closes (config : Config) (server : Server) (token : String) (lookups : Nat) (reply : Json)
    (collected : Collected) : Prop :=
  (reply = .obj [] ∧ collected = ⟨[], []⟩) ∨
  ∃ id url, Publication.jobId? reply = some id ∧
    prepare config .lookUp (some token) = .ok url ∧
    let job : Job := ⟨token, id, stringsIn (reply.get? "minions")⟩
    Watch.Ends ⟨config, server, job, url, lookups⟩ collected.returns ∧
    collected.missing = job.missing collected.returns

namespace Closes

variable {config : Config} {server : Server} {token : String} {lookups : Nat} {reply : Json}
  {collected : Collected}

theorem not_isIncomplete (closes : Closes config server token lookups reply collected) :
    ¬ IsIncomplete reply := by
  rintro ⟨jobless, other⟩
  rcases closes with ⟨empty, -⟩ | ⟨id, url, job, -⟩
  · exact other empty
  · rw [jobless] at job
    cases job

theorem missing_eq (closes : Closes config server token lookups reply collected) :
    collected.missing = (stringsIn (reply.get? "minions")).filter
      fun minion => !collected.returns.contains minion := by
  rcases closes with ⟨rfl, rfl⟩ | ⟨id, url, -, -, -, missing⟩
  · rfl
  · exact missing

theorem regular (closes : Closes config server token lookups reply collected) :
    Regular Json.nestingLimit (.obj collected.returns) := by
  rcases closes with ⟨-, rfl⟩ | ⟨id, url, -, -, ends, -⟩
  · exact regular_empty
  · exact ends.regular

theorem ascending (closes : Closes config server token lookups reply collected) :
    collected.returns.Ascending := by
  have regular := closes.regular
  rw [show Json.nestingLimit = 126 + 1 from rfl, Json.regular_obj] at regular
  exact regular.1

theorem integral (whole : server.Integral)
    (closes : Closes config server token lookups reply collected) :
    Json.integral (.obj collected.returns) = true := by
  rcases closes with ⟨-, rfl⟩ | ⟨id, url, -, -, ends, -⟩
  · rfl
  · exact ends.integral whole

/-- A reply closes in one way only. -/
theorem unique {other : Collected} (closes : Closes config server token lookups reply collected)
    (again : Closes config server token lookups reply other) : collected = other := by
  have same : collected.returns = other.returns := by
    rcases closes with ⟨rfl, rfl⟩ | ⟨id, url, job, prepared, ends, -⟩
    · rcases again with ⟨-, rfl⟩ | ⟨id, url, job, -⟩
      · rfl
      · cases job
    · rcases again with ⟨rfl, -⟩ | ⟨second, address, found, built, last, -⟩
      · cases job
      · obtain rfl : id = second := Option.some.inj (job.symm.trans found)
        obtain rfl : url = address := Except.ok.inj (prepared.symm.trans built)
        exact ends.unique last
  have missing : collected.missing = other.missing := by
    rw [closes.missing_eq, again.missing_eq, same]
  cases collected with
  | mk returns rest =>
      cases other with
      | mk others silent =>
          cases same
          cases missing
          rfl

/-- The empty object has no job to wait for. -/
theorem eq_nothing (closes : Closes config server token lookups (.obj []) collected) :
    collected = ⟨[], []⟩ := by
  rcases closes with ⟨-, nothing⟩ | ⟨id, url, job, -⟩
  · exact nothing
  · cases job

end Closes

section Records

variable {config : Config} {server : Server} {token : String} {session : Session} {reply : Json}
  {records : List Record}

theorem jobless_of_ofValue (other : ∀ id minions, Publication.ofValue reply ≠ .job id minions) :
    Publication.jobId? reply = none := by
  cases found : Publication.jobId? reply with
  | none => rfl
  | some id => exact absurd (ofValue_eq_job_iff.mpr ⟨found, rfl⟩) (other id _)

theorem ofValue_empty : Publication.ofValue (.obj []) = .noMinions :=
  rfl

theorem eq_empty_of_ofValue (published : Publication.ofValue reply = .noMinions) :
    reply = .obj [] := by
  by_contra other
  have jobless : Publication.jobId? reply = none :=
    jobless_of_ofValue fun id minions job => by
      rw [published] at job
      cases job
  rw [ofValue_eq_incomplete_iff.mpr ⟨⟨jobless, other⟩, rfl⟩] at published
  cases published

/-- What is collected is the incomplete reply itself, or what the reply closes with. -/
theorem collect_eq_ok_iff (query : Query) (polls : 0 < config.pollInterval) :
    (collect config server token query (.ofValue reply) session).result = .ok records ↔
      (IsIncomplete reply ∧ records = [.incomplete reply.text]) ∨
      ∃ collected, Closes config server token session.lookups reply collected ∧
        records = collected.records := by
  constructor
  · intro result
    cases publication : Publication.ofValue reply with
    | job id minions =>
        obtain ⟨job, rfl⟩ := ofValue_eq_job_iff.mp publication
        rw [publication, (collect_job config server token query session id _).1] at result
        cases waited : (waitForReturns config server
            ⟨token, id, stringsIn (reply.get? "minions")⟩ session).result with
        | error error =>
            rw [waited] at result
            cases result
        | ok collected =>
            rw [waited] at result
            cases result
            obtain ⟨url, prepared, ends, missing⟩ := (waitForReturns_eq_ok_iff polls).mp waited
            exact .inr ⟨collected, .inr ⟨id, url, job, prepared, ends, missing⟩, rfl⟩
    | noMinions =>
        rw [publication] at result
        cases result
        exact .inr ⟨⟨[], []⟩, .inl ⟨eq_empty_of_ofValue publication, rfl⟩, rfl⟩
    | incomplete text =>
        rw [publication] at result
        cases result
        obtain ⟨incomplete, rfl⟩ := ofValue_eq_incomplete_iff.mp publication
        exact .inl ⟨incomplete, rfl⟩
  · rintro (⟨incomplete, rfl⟩ |
      ⟨collected, ⟨rfl, rfl⟩ | ⟨id, url, job, prepared, ends, missing⟩, rfl⟩)
    · rw [ofValue_eq_incomplete_iff.mpr ⟨incomplete, rfl⟩]
      rfl
    · rw [ofValue_empty]
      rfl
    · have waited : (waitForReturns config server
          ⟨token, id, stringsIn (reply.get? "minions")⟩ session).result = .ok collected :=
        (waitForReturns_eq_ok_iff polls).mpr ⟨url, prepared, ends, missing⟩
      rw [ofValue_eq_job_iff.mpr ⟨job, rfl⟩, (collect_job config server token query session id _).1,
        waited]
      rfl

end Records

/-! ## Tokens and publications -/

theorem isHeaderValue_of_prepare {config : Config} {task : Task} {token : String} {url : Url}
    (prepared : prepare config task (some token) = .ok url) :
    Http.isHeaderValue token = true := by
  obtain ⟨address, -, -, legal, -⟩ := prepare_eq_ok_iff.mp prepared
  exact legal

section Asking

variable {config : Config} {server : Server} {session : Session} {token : String} {reply : Json}

/-- There is a token if one is cached or if a login can be sent and yields one. -/
theorem authenticate_eq_ok_iff :
    (authenticate config server session).result = .ok token ↔
      session.token = some token ∨
        session.token = none ∧ (∃ url, prepare config .logIn none = .ok url) ∧
          server.granted config.timeout session.logins = some token := by
  rcases authenticate_cases config server session with
    ⟨held, cached, step⟩ | ⟨empty, unsent, -, -, error, failed⟩ | ⟨empty, sendable, -, -, granted⟩
  · rw [step, cached]
    simp
  · rw [failed, empty]
    simp only [reduceCtorEq, false_or, true_and, false_iff, not_and]
    intro prepared granted
    obtain ⟨logins, held, -⟩ := Option.bind_eq_some_iff.mp granted
    exact unsent ⟨prepared, pos_of_content held⟩
  · rw [granted token, empty]
    simp [sendable.1]

/-- Once there is a token and a reply, what the reply leads to is what the query comes to. -/
theorem ask_of_published (query : Query)
    (authenticated : (authenticate config server session).result = .ok token)
    (prepared : ∃ url, prepare config .publish (some token) = .ok url)
    (held : server.published config.timeout session.publishes = some reply) :
    ∃ middle, middle.token = some token ∧ middle.publishes = session.publishes + 1 ∧
      middle.lookups = session.lookups ∧
      let rest := collect config server token query (.ofValue reply) middle
      (ask config server query session).result = rest.result ∧
        (ask config server query session).state = rest.state := by
  obtain ⟨-, publishes, lookups, cached, -⟩ := authenticate_frame config server session
  obtain ⟨values, content, -⟩ := Option.map_eq_some_iff.mp held
  obtain ⟨state, -⟩ := publish_of_sendable server (authenticate config server session).state query
    ⟨prepared, pos_of_content content⟩
  have published : (publish config server token query
      (authenticate config server session).state).result = .ok (.ofValue reply) :=
    publish_eq_ok_iff.mpr ⟨prepared, reply, publishes ▸ held, rfl⟩
  refine ⟨(authenticate config server session).state.awaited server .publish config.timeout,
    cached token authenticated, congrArg Nat.succ publishes, lookups, ?_⟩
  rw [ask, Step.andThen_ok authenticated, Step.andThen_ok published, state]
  exact ⟨rfl, rfl⟩

/-- A query that does not fail has had a token and a reply. -/
theorem exists_published_of_ask {query : Query} {records : List Record}
    (answered : (ask config server query session).result = .ok records) :
    ∃ token reply, (authenticate config server session).result = .ok token ∧
      (∃ url, prepare config .publish (some token) = .ok url) ∧
      server.published config.timeout session.publishes = some reply := by
  obtain ⟨-, publishes, -⟩ := authenticate_frame config server session
  rw [ask, Step.andThen_result_ok_iff] at answered
  obtain ⟨token, authenticated, published⟩ := answered
  rw [Step.andThen_result_ok_iff] at published
  obtain ⟨publication, result, -⟩ := published
  obtain ⟨prepared, reply, held, -⟩ := publish_eq_ok_iff.mp result
  exact ⟨token, reply, authenticated, prepared, publishes ▸ held⟩

end Asking

end PillarLookup.SaltApi
