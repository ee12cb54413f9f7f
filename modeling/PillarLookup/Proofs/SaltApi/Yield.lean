import PillarLookup.Proofs.SaltApi.Phases
import PillarLookup.Proofs.SaltApi.Value

/-!
# What a query yields

A query that does not fail has got a reply to its publication. An incomplete reply
makes one record; any other one closes with a map of what came back and a list of the
minions that did not answer, and makes two. Every minion that was published is in
exactly one of the map and the list.
-/

namespace PillarLookup.SaltApi

section Records

variable {config : Config} {server : Server} {query : Query} {session : Session} {reply : Json}
  {records : List Record}

/-- The records of a query are those of the reply to its publication. -/
theorem ask_eq_ok_iff (polls : 0 < config.pollInterval) :
    (ask config server query session).result = .ok records ↔
      ∃ token reply, (authenticate config server session).result = .ok token ∧
        (∃ url, prepare config .publish (some token) = .ok url) ∧
        server.published config.timeout session.publishes = some reply ∧
        ((IsIncomplete reply ∧ records = [.incomplete reply.text]) ∨
          ∃ collected, Closes config server token session.lookups reply collected ∧
            records = collected.records) := by
  constructor
  · intro answered
    obtain ⟨token, reply, authenticated, prepared, held⟩ := exists_published_of_ask answered
    obtain ⟨middle, -, -, lookups, result, -⟩ :=
      ask_of_published query authenticated prepared held
    rw [result, collect_eq_ok_iff query polls, lookups] at answered
    exact ⟨token, reply, authenticated, prepared, held, answered⟩
  · rintro ⟨token, reply, authenticated, prepared, held, yields⟩
    obtain ⟨middle, -, -, lookups, result, -⟩ :=
      ask_of_published query authenticated prepared held
    rw [result, collect_eq_ok_iff query polls, lookups]
    exact yields

/-- Where the reply has no job, nothing is looked up. -/
theorem not_lookUp_of_jobless
    (held : server.published config.timeout session.publishes = some reply)
    (jobless : Publication.jobId? reply = none) {request : Http.Request}
    (listed : request ∈ requestsOf (ask config server query session).events) :
    taskOf? request ≠ some .lookUp := by
  intro looks
  obtain ⟨logins, publishes, lookups, sent, phases, -⟩ := ask_inPhases config server query session
  rw [sent] at listed
  obtain ⟨last, other, id, token, length, found, job, -⟩ :=
    phases.looks_up request (phases.mem_lookups listed looks)
  have first : last = 0 := by
    have most := phases.publishes_le
    omega
  rw [first, Nat.add_zero, held] at found
  cases found
  rw [jobless] at job
  cases job

end Records

section Yields

variable {config : Config} {server : Server} {query : Query} {session : Session}
  {records : List Record}

/--
A query that does not fail yields one record or two. An incomplete reply makes one,
with the reply as it is. Any other reply makes two: the map of what came back, its keys
in order, and the list of the published minions that are not in the map, in their order
and as often as they were published. Its status tells whether that list is empty. The
empty object makes an empty map and an empty list, and nothing is looked up.
-/
theorem ask_yields_one_or_two (polls : 0 < config.pollInterval)
    (answered : (ask config server query session).result = .ok records) :
    ∃ reply, server.published config.timeout session.publishes = some reply ∧
      (records.length = 1 ∨ records.length = 2) ∧
      (records.length = 1 ↔ Publication.jobId? reply = none ∧ reply ≠ .obj []) ∧
      (records.length = 1 → records = [⟨some 1, reply.text⟩]) ∧
      (records.length = 2 → ∃ (returns : Members Json) (failed : List String),
        records =
          [⟨some 0, (Json.obj returns).text⟩,
            ⟨some (if failed = [] then 0 else 1),
              (Json.obj [("Failed", .arr (failed.map .str))]).text⟩] ∧
        returns.Ascending ∧
        failed = (stringsIn (reply.get? "minions")).filter (fun minion =>
          !returns.contains minion) ∧
        (∀ minion ∈ stringsIn (reply.get? "minions"),
          minion ∈ failed ↔ minion ∉ returns.keys) ∧
        (reply = .obj [] → returns = [] ∧ failed = [] ∧
          ∀ request ∈ requestsOf (ask config server query session).events,
            taskOf? request ≠ some .lookUp)) := by
  obtain ⟨token, reply, -, -, held, yields⟩ := (ask_eq_ok_iff polls).mp answered
  refine ⟨reply, held, ?_⟩
  rcases yields with ⟨incomplete, rfl⟩ | ⟨collected, closes, rfl⟩
  · refine ⟨.inl rfl, iff_of_true rfl incomplete, fun _ => rfl, ?_⟩
    intro two
    cases two
  · refine ⟨.inr rfl, iff_of_false ?_ closes.not_isIncomplete, ?_, ?_⟩
    · intro one
      cases one
    · intro one
      cases one
    · intro _
      refine ⟨collected.returns, collected.missing, rfl, closes.ascending, closes.missing_eq, ?_, ?_⟩
      · intro minion listed
        rw [closes.missing_eq, List.mem_filter, Bool.not_eq_true', ← Bool.not_eq_true,
          Members.contains_eq_true_iff]
        exact ⟨And.right, And.intro listed⟩
      · rintro rfl
        rw [closes.eq_nothing]
        exact ⟨rfl, rfl, fun request listed => not_lookUp_of_jobless held rfl listed⟩

end Yields

/-! ## A minion that is published twice and never answers -/

namespace Silence

def jobText : String :=
  "\x7b\"return\":[\x7b\"jid\":\"7\",\"minions\":[\"web\",\"db\",5,\"web\"]\x7d]\x7d"

def job : Json :=
  .obj [("jid", .str "7"), ("minions", .arr [.str "web", .str "db", .int 5, .str "web"])]

/-- The second lookup is not answered. -/
def server : Server :=
  ⟨.ofList .drop [], .ofList .drop [Retry.reply jobText],
    .ofList .drop [Retry.reply "\x7b\"return\":[\x7b\"db\":1\x7d]\x7d", .stall]⟩

def session : Session :=
  { Session.start with token := some "t0" }

def collected : Collected :=
  ⟨[("db", .int 1)], ["web", "web"]⟩

theorem published_job : server.published 100 0 = some job := by
  have text : Answer.text ⟨200, Text.Utf8.encode jobText⟩ = jobText := by cbv
  have decoded : publishShape.decode jobText = .ok [job] := by cbv
  have held : server.content .publish publishShape 100 0 = some [job] :=
    content_of_answer rfl (by decide) (by decide) (text.symm ▸ decoded)
  rw [Server.published, held]
  rfl

theorem closes_job : Closes Deadline.config server "t0" 0 job collected := by
  let watch : Watch :=
    ⟨Deadline.config, server, ⟨"t0", "7", ["web", "db", "web"]⟩, Deadline.config.url, 0⟩
  have answered : watch.verdict 0 = .answered [("db", .int 1)] := by cbv
  have abandoned : watch.verdict 1 = .abandoned := by cbv
  have silent : ∀ later, 0 < later → watch.verdict later = .abandoned :=
    fun later after => Watch.abandoned_of_le abandoned after
  refine .inr ⟨"7", Deadline.config.url, rfl, by rfl, .inr ⟨?_, .inl ⟨0, answered, silent⟩⟩, rfl⟩
  intro index
  rw [Watch.continues_iff]
  cases index with
  | zero => exact .inr ⟨_, answered, by decide⟩
  | succ index => exact .inl (silent (index + 1) (Nat.succ_pos index))

/-- It is listed twice; what is no string counts for nothing. -/
theorem ask_lists_silent_minion :
    0 < Deadline.config.pollInterval ∧
      (ask Deadline.config server Retry.query session).result = .ok collected.records ∧
      ∃ (returns : Members Json) (failed : List String),
        collected.records =
          [⟨some 0, (Json.obj returns).text⟩,
            ⟨some (if failed = [] then 0 else 1),
              (Json.obj [("Failed", .arr (failed.map .str))]).text⟩] ∧
        failed = ["web", "db", "web"].filter fun minion => !returns.contains minion := by
  have polls : 0 < Deadline.config.pollInterval := by decide
  have answered : (ask Deadline.config server Retry.query session).result =
      .ok collected.records :=
    (ask_eq_ok_iff polls).mpr ⟨"t0", job, rfl, ⟨Deadline.config.url, by rfl⟩, published_job,
      .inr ⟨collected, closes_job, rfl⟩⟩
  obtain ⟨reply, held, -, -, -, two⟩ := ask_yields_one_or_two polls answered
  obtain ⟨returns, failed, records, -, missing, -⟩ := two rfl
  obtain rfl : job = reply := Option.some.inj (published_job.symm.trans held)
  exact ⟨polls, answered, returns, failed, records, missing⟩

end Silence

end PillarLookup.SaltApi
