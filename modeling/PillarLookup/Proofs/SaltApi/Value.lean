import PillarLookup.Proofs.Extraction
import PillarLookup.Proofs.Records
import PillarLookup.Proofs.SaltApi.Closing

/-!
# When an extraction yields a value

The conditions under which an extraction yields a value, in terms of what the
server's replies hold and of the schedule of the wait, and their equivalence with
what the client and the extraction do.
-/

namespace PillarLookup.SaltApi

/-! ## What a reply leads to -/

/--
The reply to a publication has a job, and the wait for it ends with a map in which
every minion is, that has one entry only, and that does not pass for a failure
record.
-/
def Delivers (config : Config) (server : Server) (token : String) (lookups : Nat)
    (reply value : Json) : Prop :=
  ∃ id url returns, Publication.jobId? reply = some id ∧
    prepare config .lookUp (some token) = .ok url ∧
    let job : Job := ⟨token, id, stringsIn (reply.get? "minions")⟩
    Watch.Ends ⟨config, server, job, url, lookups⟩ returns ∧
    (∀ minion ∈ job.minions, returns.contains minion = true) ∧
    ∃ minion, returns = [(minion, value)] ∧
      ¬ (minion = failedKey ∧ ∃ failed : List String, value = .arr (failed.map .str))

section Replies

variable {config : Config} {server : Server} {token : String} {session : Session}
  {reply value : Json}

theorem not_delivers (jobless : Publication.jobId? reply = none) (lookups : Nat) :
    ¬ Delivers config server token lookups reply value := by
  rintro ⟨id, url, returns, job, -⟩
  rw [jobless] at job
  cases job

/-- Collecting comes to a value exactly if the reply delivers it. -/
theorem collect_comes_to_iff (query : Query) (polls : 0 < config.pollInterval)
    (whole : server.Integral) :
    (∃ records, (collect config server token query (.ofValue reply) session).result = .ok records ∧
        Outcome.ofRecords records = .ok value) ↔
      Delivers config server token session.lookups reply value := by
  simp only [collect_eq_ok_iff query polls]
  constructor
  · rintro ⟨records, ⟨-, rfl⟩ | ⟨collected, closes, rfl⟩, outcome⟩
    · cases outcome
    · obtain ⟨complete, minion, only, harmless⟩ :=
        (ofRecords_records_eq_ok_iff closes.regular (closes.integral whole)).mp outcome
      rcases closes with ⟨-, rfl⟩ | ⟨id, url, job, prepared, ends, missing⟩
      · cases only
      · exact ⟨id, url, collected.returns, job, prepared, ends,
          missing_eq_nil_iff.mp (missing.symm.trans complete), minion, only, harmless⟩
  · rintro ⟨id, url, returns, job, prepared, ends, covers, only⟩
    have closes : Closes config server token session.lookups reply ⟨returns, []⟩ :=
      .inr ⟨id, url, job, prepared, ends, (missing_eq_nil_iff.mpr covers).symm⟩
    exact ⟨_, .inr ⟨_, closes, rfl⟩,
      (ofRecords_records_eq_ok_iff closes.regular (closes.integral whole)).mpr ⟨rfl, only⟩⟩

end Replies

/-! ## Attempts -/

section Attempts

open Extraction (Attains)

variable {config : Config} {server : Server} {query : Query} {most left : Nat}
  {last : List Record} {session : Session} {value : Json}

/-- Before one of the next replies, all are incomplete, and that one delivers a value. -/
def Arrives (config : Config) (server : Server) (token : String) (session : Session) (left : Nat)
    (value : Json) : Prop :=
  ∃ attempt < left,
    (∀ earlier < attempt, ∃ reply,
      server.published config.timeout (session.publishes + earlier) = some reply ∧
        IsIncomplete reply) ∧
    ∃ reply, server.published config.timeout (session.publishes + attempt) = some reply ∧
      Delivers config server token session.lookups reply value

/-- The first of the next replies is there in any case. -/
theorem Arrives.exists_published {token : String}
    (arrives : Arrives config server token session left value) :
    ∃ reply, server.published config.timeout session.publishes = some reply := by
  obtain ⟨attempt, -, incomplete, reply, held, -⟩ := arrives
  cases attempt with
  | zero => exact ⟨reply, held⟩
  | succ attempt =>
      obtain ⟨first, held, -⟩ := incomplete 0 (Nat.succ_pos attempt)
      exact ⟨first, held⟩

/-- After an incomplete reply the value has to come of the replies after it. -/
theorem arrives_of_incomplete {token : String} {reply : Json} {middle : Session}
    (held : server.published config.timeout session.publishes = some reply)
    (incomplete : IsIncomplete reply) (publishes : middle.publishes = session.publishes + 1)
    (lookups : middle.lookups = session.lookups) :
    Arrives config server token session (left + 1) value ↔
      Arrives config server token middle left value := by
  have shift : ∀ index, middle.publishes + index = session.publishes + (index + 1) := by
    intro index
    rw [publishes, Nat.add_assoc, Nat.add_comm 1]
  unfold Arrives
  simp only [shift, lookups]
  constructor
  · rintro ⟨attempt, within, before, last, found, delivers⟩
    cases attempt with
    | zero =>
        obtain rfl : reply = last := Option.some.inj (held.symm.trans found)
        exact absurd delivers (not_delivers incomplete.1 _)
    | succ attempt =>
        exact ⟨attempt, Nat.lt_of_succ_lt_succ within,
          fun earlier less => before (earlier + 1) (Nat.succ_lt_succ less), last, found, delivers⟩
  · rintro ⟨attempt, within, before, last, found, delivers⟩
    refine ⟨attempt + 1, Nat.succ_lt_succ within, ?_, last, found, delivers⟩
    intro earlier less
    cases earlier with
    | zero => exact ⟨reply, held, incomplete⟩
    | succ earlier => exact before earlier (Nat.lt_of_succ_lt_succ less)

/-- After any other reply the value has to come of that reply. -/
theorem arrives_of_complete {token : String} {reply : Json}
    (held : server.published config.timeout session.publishes = some reply)
    (complete : ¬ IsIncomplete reply) :
    Arrives config server token session (left + 1) value ↔
      Delivers config server token session.lookups reply value := by
  constructor
  · rintro ⟨attempt, -, before, last, found, delivers⟩
    cases attempt with
    | zero =>
        obtain rfl : reply = last := Option.some.inj (held.symm.trans found)
        exact delivers
    | succ attempt =>
        obtain ⟨other, found, incomplete⟩ := before 0 (Nat.succ_pos attempt)
        obtain rfl : reply = other := Option.some.inj (held.symm.trans found)
        exact absurd incomplete complete
  · intro delivers
    exact ⟨0, Nat.succ_pos left, fun earlier less => absurd less (Nat.not_lt_zero earlier), reply,
      held, delivers⟩

/-- An incomplete reply leaves the value to the next attempts. -/
theorem attains_of_incomplete {reply : Json} {token : String} (incomplete : IsIncomplete reply)
    {middle : Session}
    (result : (ask config server query session).result =
      (collect config server token query (.ofValue reply) middle).result)
    (state : (ask config server query session).state =
      (collect config server token query (.ofValue reply) middle).state) :
    Attains (client config server) query most (left + 1) last session value ↔
      Attains (client config server) query most left [.incomplete reply.text] middle value := by
  rw [ofValue_eq_incomplete_iff.mpr ⟨incomplete, rfl⟩] at result state
  have answered := (client_ask_eq_ok_iff config server query session).mpr result
  rw [Extraction.attains_of_few answered (by simp)]
  change Attains _ _ _ _ _ (ask config server query session).state value ↔ _
  rw [state]
  rfl

/-- Any other reply ends the attempts, whether or not it delivers the value. -/
theorem attains_of_complete (polls : 0 < config.pollInterval) (whole : server.Integral)
    {token : String} {reply : Json} (complete : ¬ IsIncomplete reply) {middle : Session}
    (result : (ask config server query session).result =
      (collect config server token query (.ofValue reply) middle).result) :
    Attains (client config server) query most (left + 1) last session value ↔
      Delivers config server token middle.lookups reply value := by
  rw [← collect_comes_to_iff query polls whole]
  constructor
  · intro attains
    cases answered : ((client config server).ask query session).result with
    | error message => exact absurd attains (Extraction.not_attains_of_error answered)
    | ok records =>
        have collected := (client_ask_eq_ok_iff config server query session).mp answered
        rw [result] at collected
        by_cases full : 1 < records.length
        · exact ⟨records, collected, (Extraction.attains_of_full answered full).mp attains⟩
        · obtain ⟨text, publication⟩ := exists_incomplete_of_length_le_one config server token query
            (.ofValue reply) middle collected (Nat.le_of_not_lt full)
          exact absurd (ofValue_eq_incomplete_iff.mp publication).1 complete
  · rintro ⟨records, collected, outcome⟩
    have answered :=
      (client_ask_eq_ok_iff config server query session).mpr (result.trans collected)
    have full : 1 < records.length := by
      by_cases full : 1 < records.length
      · exact full
      · exact absurd outcome (Extraction.not_ok_of_few full)
    exact (Extraction.attains_of_full answered full).mpr outcome

/-- The attempts that are left come to a value if there is a token and the value arrives. -/
theorem attains_iff (polls : 0 < config.pollInterval) (whole : server.Integral)
    (few : ¬ 1 < last.length) :
    Attains (client config server) query most left last session value ↔
      ∃ token, (authenticate config server session).result = .ok token ∧
        (∃ url, prepare config .publish (some token) = .ok url) ∧
        Arrives config server token session left value := by
  induction left generalizing last session with
  | zero =>
      refine iff_of_false (Extraction.not_attains_zero few) ?_
      rintro ⟨token, -, -, attempt, within, -⟩
      exact absurd within (Nat.not_lt_zero attempt)
  | succ left ih =>
      by_cases reached : ∃ token reply, (authenticate config server session).result = .ok token ∧
          (∃ url, prepare config .publish (some token) = .ok url) ∧
          server.published config.timeout session.publishes = some reply
      · obtain ⟨token, reply, authenticated, prepared, held⟩ := reached
        obtain ⟨middle, cached, publishes, lookups, result, state⟩ :=
          ask_of_published query authenticated prepared held
        have same : (∃ token, (authenticate config server session).result = .ok token ∧
            (∃ url, prepare config .publish (some token) = .ok url) ∧
            Arrives config server token session (left + 1) value) ↔
            Arrives config server token session (left + 1) value := by
          simp [authenticated, prepared]
        rw [same]
        by_cases incomplete : IsIncomplete reply
        · have again : (authenticate config server middle).result = .ok token :=
            authenticate_eq_ok_iff.mpr (.inl cached)
          rw [attains_of_incomplete incomplete result state, ih (by simp),
            arrives_of_incomplete held incomplete publishes lookups]
          simp [again, prepared]
        · rw [arrives_of_complete held incomplete, ← lookups]
          exact attains_of_complete polls whole incomplete result
      · refine iff_of_false ?_ ?_
        · intro attains
          cases answered : ((client config server).ask query session).result with
          | error message => exact Extraction.not_attains_of_error answered attains
          | ok records =>
              exact reached (exists_published_of_ask
                ((client_ask_eq_ok_iff config server query session).mp answered))
        · rintro ⟨token, authenticated, prepared, arrives⟩
          obtain ⟨reply, held⟩ := arrives.exists_published
          exact reached ⟨token, reply, authenticated, prepared, held⟩

/--
An extraction yields a value if and only if there is a token that can be sent, cached
or from a login; a publication can be sent with it; and within `most` attempts, after
nothing but incomplete replies, there is a reply with a job whose wait ends with that
value of the only minion that returned one, and with no minion missing.
-/
theorem extract_eq_ok_iff_arrives (polls : 0 < config.pollInterval) (whole : server.Integral) :
    (extract (client config server) query most session).result = .ok value ↔
      ∃ token,
        (session.token = some token ∨
          session.token = none ∧ (∃ url, prepare config .logIn none = .ok url) ∧
            server.granted config.timeout session.logins = some token) ∧
        Http.isHeaderValue token = true ∧
        (∃ url, prepare config .publish (some token) = .ok url) ∧
        Arrives config server token session most value := by
  rw [extract_eq_ok_iff, attains_iff polls whole (by simp)]
  refine exists_congr fun token => ?_
  rw [authenticate_eq_ok_iff]
  refine and_congr_right fun _ => ?_
  constructor
  · rintro ⟨⟨url, prepared⟩, arrives⟩
    exact ⟨isHeaderValue_of_prepare prepared, ⟨url, prepared⟩, arrives⟩
  · rintro ⟨-, prepared, arrives⟩
    exact ⟨prepared, arrives⟩

end Attempts

/-! ## A job in the second attempt -/

namespace Retry

def reply (text : String) : Reply :=
  .answer 10 200 (Text.Utf8.encode text)

def jobText : String :=
  "\x7b\"return\":[\x7b\"jid\":\"7\",\"minions\":[\"db\"]\x7d]\x7d"

def job : Json :=
  .obj [("jid", .str "7"), ("minions", .arr [.str "db"])]

/-- The first publication yields no job, and the only lookup covers the only minion. -/
def server : Server :=
  ⟨.ofList .drop [reply "\x7b\"return\":[\x7b\"token\":\"t0\"\x7d]\x7d"],
    .ofList .drop [reply "\x7b\"return\":[[]]\x7d", reply jobText],
    .ofList .drop [reply "\x7b\"return\":[\x7b\"db\":5\x7d]\x7d"]⟩

def query : Query :=
  ⟨"db", "port", .glob, by decide, by decide⟩

theorem integral_server : server.Integral := by
  intro count delay status body items answered decoded returns listed
  have same : server.lookup.answer count = reply "\x7b\"return\":[\x7b\"db\":5\x7d]\x7d" := by
    cases count <;> rfl
  cases same.symm.trans answered
  have read : lookupShape.decode (Answer.text ⟨200, Text.Utf8.encode
      "\x7b\"return\":[\x7b\"db\":5\x7d]\x7d"⟩) = .ok [[("db", .int 5)]] := by cbv
  cases read.symm.trans decoded
  rw [List.mem_singleton.mp listed]
  rfl

theorem delivers_job : Delivers Deadline.config server "t0" 0 job (.int 5) := by
  have only : ∀ minion ∈ stringsIn (job.get? "minions"),
      Members.contains [("db", Json.int 5)] minion = true := by
    intro minion listed
    rw [show minion = "db" from List.mem_singleton.mp listed]
    rfl
  refine ⟨"7", Deadline.config.url, [("db", .int 5)], rfl, by rfl, .inl ⟨0, ?_, ?_, only⟩, only,
    "db", rfl, ?_⟩
  · intro before less
    exact absurd less (Nat.not_lt_zero before)
  · cbv
  · rintro ⟨-, failed, contrary⟩
    cases contrary

theorem published_job : server.published 100 1 = some job := by
  have text : Answer.text ⟨200, Text.Utf8.encode jobText⟩ = jobText := by cbv
  have decoded : publishShape.decode jobText = .ok [job] := by cbv
  have held : server.content .publish publishShape 100 1 = some [job] :=
    content_of_answer rfl (by decide) (by decide) (text.symm ▸ decoded)
  rw [Server.published, held]
  rfl

/-- A value that a login, a second publication and a lookup lead to. -/
theorem extract_yields_value :
    0 < Deadline.config.pollInterval ∧ server.Integral ∧
      (extract (client Deadline.config server) query 3 .start).result = .ok (.int 5) := by
  have polls : 0 < Deadline.config.pollInterval := by decide
  have granted : server.granted 100 0 = some "t0" := by cbv
  have refused : server.published 100 0 = some (.arr []) := by cbv
  refine ⟨polls, integral_server, (extract_eq_ok_iff_arrives polls integral_server).mpr ?_⟩
  refine ⟨"t0", .inr ⟨rfl, ⟨_, rfl⟩, granted⟩, by decide, ⟨Deadline.config.url, by rfl⟩, 1,
    by decide, ?_, job, published_job, delivers_job⟩
  intro earlier less
  rw [Nat.lt_one_iff.mp less]
  exact ⟨.arr [], refused, rfl, by simp⟩

end Retry

end PillarLookup.SaltApi
