import PillarLookup.Proofs.Answers
import PillarLookup.Proofs.SaltApi.Yield

/-!
# What an extraction complains about

If no exchange fails, what an extraction comes to is a matter of the replies to its
publications and of the map that the wait for the job ends with. A map that passes for
a failure record comes before minions that are missing, and those come before a number
of minions other than one. The records are always understood, as they have just been
written.
-/

namespace PillarLookup.SaltApi

open Json (Regular)

/-! ## What a job is complained about -/

/-- A minion is named like the key of a failure record and returned nothing but strings. -/
def PassesForFailure (returns : Members Json) : Prop :=
  ∃ failed : List String, returns.get? "Failed" = some (.arr (failed.map .str))

/-- What is said about a map and the minions that are missing in it. -/
structure Diagnosed (collected : Collected) (outcome : Outcome) : Prop where
  malformed_iff : (∃ first second, outcome = .error (.malformed first second)) ↔
    PassesForFailure collected.returns
  remote_iff : ∀ status valueStatus failed,
    outcome = .error (.remote status valueStatus failed) ↔
      ¬ PassesForFailure collected.returns ∧ collected.missing ≠ [] ∧
        status = some 1 ∧ valueStatus = some 0 ∧ failed = collected.missing
  noTargets_iff : outcome = .error .noTargets ↔
    ¬ PassesForFailure collected.returns ∧ collected.missing = [] ∧ collected.returns = []
  ambiguous_iff : ∀ targets, outcome = .error (.ambiguous targets) ↔
    ¬ PassesForFailure collected.returns ∧ collected.missing = [] ∧
      2 ≤ collected.returns.length ∧ targets = collected.returns.keys
  value_iff : ∀ value, outcome = .ok value ↔
    ¬ PassesForFailure collected.returns ∧ collected.missing = [] ∧
      ∃ minion, collected.returns = [(minion, value)]
  /-- There is nothing else to be said. -/
  exhaustive : outcome ≠ .error .emptyResponse ∧
    (∀ count, outcome ≠ .error (.tooManyResults count)) ∧
    (∀ error, outcome ≠ .error (.undecodable error)) ∧
    ∀ message, outcome ≠ .error (.client message)

theorem passesForFailure_iff {returns : Members Json} :
    PassesForFailure returns ↔
      ∃ failed, FailureRecord.failedIn? (.obj returns) = some failed := by
  simp only [failedIn?_eq_some_iff]
  rfl

section Diagnosed

variable {returns : Members Json} {missing : List String}
  (regular : Regular Json.nestingLimit (.obj returns))
  (whole : Json.integral (.obj returns) = true)

include regular whole

theorem diagnosed_of_passes (passes : PassesForFailure returns) :
    Diagnosed ⟨returns, missing⟩ (Outcome.ofRecords (Collected.records ⟨returns, missing⟩)) := by
  obtain ⟨failed, found⟩ := passesForFailure_iff.mp passes
  rw [ofRecords_of_passes regular whole found]
  constructor
  · exact iff_of_true ⟨_, _, rfl⟩ passes
  · intro status valueStatus failed
    exact iff_of_false (by simp) fun other => other.1 passes
  · exact iff_of_false (by simp) fun other => other.1 passes
  · intro targets
    exact iff_of_false (by simp) fun other => other.1 passes
  · intro value
    exact iff_of_false (by simp) fun other => other.1 passes
  · simp

/-- Missing minions are complained about however many others returned. -/
theorem diagnosed_of_missing (harmless : ¬ PassesForFailure returns) (incomplete : missing ≠ []) :
    Diagnosed ⟨returns, missing⟩ (Outcome.ofRecords (Collected.records ⟨returns, missing⟩)) := by
  have none : FailureRecord.failedIn? (.obj returns) = none := by
    rw [Option.eq_none_iff_forall_ne_some]
    exact fun failed found => harmless (passesForFailure_iff.mpr ⟨failed, found⟩)
  rw [ofRecords_of_harmless regular whole none, if_neg incomplete]
  constructor
  · exact iff_of_false (by simp) harmless
  · intro status valueStatus failed
    simp only [Except.error.injEq, Failure.remote.injEq]
    constructor
    · rintro ⟨rfl, rfl, rfl⟩
      exact ⟨harmless, incomplete, rfl, rfl, rfl⟩
    · rintro ⟨-, -, rfl, rfl, rfl⟩
      exact ⟨rfl, rfl, rfl⟩
  · exact iff_of_false (by simp) fun other => incomplete other.2.1
  · intro targets
    exact iff_of_false (by simp) fun other => incomplete other.2.1
  · intro value
    exact iff_of_false (by simp) fun other => incomplete other.2.1
  · simp

/-- If every minion has answered, there has to be one of them. -/
theorem diagnosed_of_complete (harmless : ¬ PassesForFailure returns) :
    Diagnosed ⟨returns, []⟩ (Outcome.ofRecords (Collected.records ⟨returns, []⟩)) := by
  have none : FailureRecord.failedIn? (.obj returns) = none := by
    rw [Option.eq_none_iff_forall_ne_some]
    exact fun failed found => harmless (passesForFailure_iff.mpr ⟨failed, found⟩)
  rw [ofRecords_of_harmless regular whole none, if_pos rfl]
  match returns with
  | [] =>
      constructor <;> simp [Outcome.ofReturns, harmless]
  | [(minion, value)] =>
      constructor <;> simp [Outcome.ofReturns, harmless]
  | first :: second :: rest =>
      constructor <;> simp [Outcome.ofReturns, harmless, eq_comm]

/-- The records of a job are judged by the map and by what is missing in it. -/
theorem diagnosed_records :
    Diagnosed ⟨returns, missing⟩ (Outcome.ofRecords (Collected.records ⟨returns, missing⟩)) := by
  by_cases passes : PassesForFailure returns
  · exact diagnosed_of_passes regular whole passes
  · by_cases complete : missing = []
    · subst complete
      exact diagnosed_of_complete regular whole passes
    · exact diagnosed_of_missing regular whole passes complete

end Diagnosed

/-! ## Attempts of which none fails -/

/-- The reply to a publication after `count` others is incomplete. -/
def Server.Refuses (server : Server) (limit count : Nat) : Prop :=
  ∃ reply, server.published limit count = some reply ∧ IsIncomplete reply

/--
No exchange of up to `most` attempts fails. As long as the replies are incomplete there
is a reply to the next publication, and no lookup fails that the wait for its job
reaches.
-/
def Unfailing (config : Config) (server : Server) (token : String) (url : Url)
    (session : Session) (most : Nat) : Prop :=
  ∀ attempt < most,
    (∀ earlier < attempt, server.Refuses config.timeout (session.publishes + earlier)) →
    ∃ reply, server.published config.timeout (session.publishes + attempt) = some reply ∧
      ∀ id, Publication.jobId? reply = some id →
        let job : Job := ⟨token, id, stringsIn (reply.get? "minions")⟩
        let watch : Watch := ⟨config, server, job, url, session.lookups⟩
        ∀ index error, watch.Reaches index → watch.verdict index ≠ .failed error

section Attempts

variable {config : Config} {server : Server} {session : Session} {token : String} {url : Url}
  {most : Nat}

/-- A reply that is there and is not incomplete closes, as no lookup of its job fails. -/
theorem Unfailing.closes (unfailing : Unfailing config server token url session most)
    (polls : 0 < config.pollInterval)
    (prepared : prepare config .publish (some token) = .ok url) {attempt : Nat}
    (within : attempt < most)
    (refused : ∀ earlier < attempt, server.Refuses config.timeout (session.publishes + earlier))
    (other : ¬ server.Refuses config.timeout (session.publishes + attempt)) :
    ∃ reply collected, server.published config.timeout (session.publishes + attempt) = some reply ∧
      Closes config server token session.lookups reply collected := by
  obtain ⟨reply, held, answered⟩ := unfailing attempt within refused
  cases job : Publication.jobId? reply with
  | none =>
      have empty : reply = .obj [] := by
        by_contra differ
        exact other ⟨reply, held, job, differ⟩
      exact ⟨reply, ⟨[], []⟩, held, .inl ⟨empty, rfl⟩⟩
  | some id =>
      let watch : Watch :=
        ⟨config, server, ⟨token, id, stringsIn (reply.get? "minions")⟩, url, session.lookups⟩
      rcases watch.failed_or_ends polls with ⟨index, error, reaches, failed⟩ | ⟨returns, ends⟩
      · exact absurd failed (answered id job index error reaches)
      · exact ⟨reply, ⟨returns, watch.job.missing returns⟩, held,
          .inr ⟨id, url, job, prepare_lookUp prepared, ends, rfl⟩⟩

variable (query : Query)
  (authenticated : (authenticate config server session).result = .ok token)
  (prepared : prepare config .publish (some token) = .ok url)

include authenticated prepared

/-- After an incomplete reply a query has one record, and the next one has the token. -/
theorem ask_of_refused (refused : server.Refuses config.timeout session.publishes) :
    let step := ask config server query session
    (∃ record, step.result = .ok [record]) ∧
      (authenticate config server step.state).result = .ok token ∧
      step.state.publishes = session.publishes + 1 ∧ step.state.lookups = session.lookups := by
  obtain ⟨reply, held, incomplete⟩ := refused
  obtain ⟨middle, cached, publishes, lookups, result, state⟩ :=
    ask_of_published query authenticated ⟨url, prepared⟩ held
  rw [ofValue_eq_incomplete_iff.mpr ⟨incomplete, rfl⟩] at result state
  dsimp only
  rw [result, state]
  exact ⟨⟨_, rfl⟩, authenticate_eq_ok_iff.mpr (.inl cached), publishes, lookups⟩

/-- As long as the replies are incomplete, each attempt takes the next one. -/
theorem stateAfter_of_refused {count : Nat}
    (refused : ∀ attempt < count, server.Refuses config.timeout (session.publishes + attempt)) :
    let there := (client config server).stateAfter query session count
    (authenticate config server there).result = .ok token ∧
      there.publishes = session.publishes + count ∧ there.lookups = session.lookups := by
  induction count with
  | zero => exact ⟨authenticated, rfl, rfl⟩
  | succ count ih =>
      obtain ⟨again, publishes, lookups⟩ :=
        ih fun attempt less => refused attempt (Nat.lt_succ_of_lt less)
      have next := refused count (Nat.lt_succ_self count)
      rw [← publishes] at next
      obtain ⟨-, cached, counted, same⟩ := ask_of_refused query again prepared next
      refine ⟨cached, counted.trans ?_, same.trans lookups⟩
      rw [publishes, Nat.add_assoc]

theorem answer_of_refused {count attempt : Nat} (less : attempt < count)
    (refused : ∀ attempt < count, server.Refuses config.timeout (session.publishes + attempt)) :
    ∃ record, (client config server).answer query session attempt = .ok [record] := by
  obtain ⟨again, publishes, -⟩ := stateAfter_of_refused query authenticated prepared
    fun earlier before => refused earlier (Nat.lt_trans before less)
  have next := refused attempt less
  rw [← publishes] at next
  obtain ⟨⟨record, result⟩, -⟩ := ask_of_refused query again prepared next
  exact ⟨record, (client_ask_eq_ok_iff config server query _).mpr result⟩

/-- If all replies are incomplete, there is nothing in the end. -/
theorem extract_of_refused
    (refused : ∀ attempt < most, server.Refuses config.timeout (session.publishes + attempt)) :
    (extract (client config server) query most session).result = .error .emptyResponse := by
  cases most with
  | zero => rfl
  | succ most =>
      have few : ∀ asked < most + 1,
          ¬ IsFinal ((client config server).answer query session asked) := by
        intro asked less
        obtain ⟨record, answered⟩ := answer_of_refused query authenticated prepared less refused
        rw [answered]
        exact Nat.lt_irrefl 1
      have isLast : (client config server).IsLast query session (most + 1) most :=
        ⟨Nat.lt_succ_self most, fun asked less => few asked (Nat.lt_succ_of_lt less), .inr rfl⟩
      obtain ⟨record, answered⟩ :=
        answer_of_refused query authenticated prepared (Nat.lt_succ_self most) refused
      rw [extract_of_isLast isLast, answered]
      rfl

/-- The first reply that closes decides. -/
theorem extract_of_closes (polls : 0 < config.pollInterval) {attempt : Nat}
    (within : attempt < most)
    (refused : ∀ earlier < attempt, server.Refuses config.timeout (session.publishes + earlier))
    {reply : Json} {collected : Collected}
    (held : server.published config.timeout (session.publishes + attempt) = some reply)
    (closes : Closes config server token session.lookups reply collected) :
    (extract (client config server) query most session).result =
      Outcome.ofRecords collected.records := by
  obtain ⟨again, publishes, lookups⟩ :=
    stateAfter_of_refused query authenticated prepared refused
  rw [← publishes] at held
  rw [← lookups] at closes
  have answered : (client config server).answer query session attempt = .ok collected.records :=
    (client_ask_eq_ok_iff config server query _).mpr
      ((ask_eq_ok_iff polls).mpr ⟨token, reply, again, ⟨url, prepared⟩, held,
        .inr ⟨collected, closes, rfl⟩⟩)
  have isLast : (client config server).IsLast query session most attempt := by
    constructor
    · exact within
    · intro asked less
      obtain ⟨record, few⟩ := answer_of_refused query authenticated prepared less refused
      rw [few]
      exact Nat.lt_irrefl 1
    · left
      rw [answered]
      exact Nat.lt_succ_self 1
  rw [extract_of_isLast isLast, answered]
  rfl

end Attempts

section Extract

variable {config : Config} {server : Server} {session : Session} {token : String} {url : Url}
  {most : Nat}

/--
What an extraction comes to if there is a token and no exchange fails. The response is
empty if and only if all replies are incomplete. Otherwise the first reply that is not
closes, in one way, and what it closes with is what the diagnosis says: the records are
malformed if the map passes for a failure record, else a minion is missing, else there
is no minion, or there are several, named in order, or there is one and its value. No
other failure is possible; the exit code of a missing minion is zero.
-/
theorem extract_diagnoses (query : Query) (polls : 0 < config.pollInterval)
    (whole : server.Integral)
    (authenticated : session.token = some token ∨
      session.token = none ∧ (∃ url, prepare config .logIn none = .ok url) ∧
        server.granted config.timeout session.logins = some token)
    (prepared : prepare config .publish (some token) = .ok url)
    (unfailing : Unfailing config server token url session most) :
    let outcome := (extract (client config server) query most session).result
    let refuses := fun attempt => server.Refuses config.timeout (session.publishes + attempt)
    (∀ count, outcome ≠ .error (.tooManyResults count)) ∧
      (∀ error, outcome ≠ .error (.undecodable error)) ∧
      (∀ message, outcome ≠ .error (.client message)) ∧
      (outcome = .error .emptyResponse ↔ ∀ attempt < most, refuses attempt) ∧
      (∀ status valueStatus failed, outcome = .error (.remote status valueStatus failed) →
        Failure.exitCode (.remote status valueStatus failed) = 0) ∧
      ((∃ attempt < most, ¬ refuses attempt) →
        ∃ attempt < most, (∀ earlier < attempt, refuses earlier) ∧
          ∃ reply collected,
            server.published config.timeout (session.publishes + attempt) = some reply ∧
            ¬ IsIncomplete reply ∧
            Closes config server token session.lookups reply collected ∧
            Diagnosed collected outcome ∧
            collected.returns.keys.Pairwise (fun first second => first < second)) := by
  have cached := authenticate_eq_ok_iff.mpr authenticated
  dsimp only
  by_cases all : ∀ attempt < most, server.Refuses config.timeout (session.publishes + attempt)
  · rw [extract_of_refused query cached prepared all]
    refine ⟨by simp, by simp, by simp, iff_of_true rfl all, by simp, ?_⟩
    rintro ⟨attempt, within, other⟩
    exact absurd (all attempt within) other
  · classical
    have accepted : ∃ attempt, attempt < most ∧
        ¬ server.Refuses config.timeout (session.publishes + attempt) := by
      simpa only [not_forall, exists_prop] using all
    obtain ⟨within, other⟩ := Nat.find_spec accepted
    have refused : ∀ earlier < Nat.find accepted,
        server.Refuses config.timeout (session.publishes + earlier) := by
      intro earlier less
      by_contra differs
      exact Nat.find_min accepted less ⟨Nat.lt_trans less within, differs⟩
    obtain ⟨reply, collected, held, closes⟩ :=
      unfailing.closes polls prepared within refused other
    have diagnosed : Diagnosed collected (Outcome.ofRecords collected.records) :=
      diagnosed_records closes.regular (closes.integral whole)
    rw [extract_of_closes query cached prepared polls within refused held closes]
    obtain ⟨notEmpty, few, decoded, heard⟩ := diagnosed.exhaustive
    refine ⟨few, decoded, heard, iff_of_false notEmpty all, ?_, fun _ =>
      ⟨Nat.find accepted, within, refused, reply, collected, held, closes.not_isIncomplete, closes,
        diagnosed, List.pairwise_map.mpr closes.ascending⟩⟩
    intro status valueStatus failed remote
    obtain ⟨-, -, -, rfl, -⟩ := (diagnosed.remote_iff status valueStatus failed).mp remote
    rfl

end Extract

/-! ## A minion that is named like a key -/

namespace Impostor

def jobText : String :=
  "\x7b\"return\":[\x7b\"jid\":\"7\",\"minions\":[\"Failed\",\"web\"]\x7d]\x7d"

def job : Json :=
  .obj [("jid", .str "7"), ("minions", .arr [.str "Failed", .str "web"])]

def lookupText : String :=
  "\x7b\"return\":[\x7b\"Failed\":[\"db\"]\x7d]\x7d"

/-- The job is in the second reply, and its second lookup is not answered. -/
def server : Server :=
  ⟨.ofList .drop [], .ofList .drop [Retry.reply "\x7b\"return\":[[]]\x7d", Retry.reply jobText],
    .ofList .drop [Retry.reply lookupText, .stall]⟩

def session : Session :=
  { Session.start with token := some "t0" }

def collected : Collected :=
  ⟨[("Failed", .arr [.str "db"])], ["web"]⟩

def watch : Watch :=
  ⟨Deadline.config, server, ⟨"t0", "7", ["Failed", "web"]⟩, Deadline.config.url, 0⟩

theorem verdicts :
    watch.verdict 0 = .answered collected.returns ∧
      ∀ later, 0 < later → watch.verdict later = .abandoned := by
  have abandoned : watch.verdict 1 = .abandoned := by cbv
  constructor
  · cbv
  · exact fun later after => Watch.abandoned_of_le abandoned after

theorem integral_server : server.Integral := by
  intro count delay status body items answered decoded returns listed
  cases count with
  | zero =>
      have same : server.lookup.answer 0 = Retry.reply lookupText := rfl
      cases same.symm.trans answered
      have read : lookupShape.decode (Answer.text ⟨200, Text.Utf8.encode lookupText⟩) =
          .ok [collected.returns] := by cbv
      cases read.symm.trans decoded
      rw [List.mem_singleton.mp listed]
      rfl
  | succ count =>
      have same : server.lookup.answer (count + 1) = .stall := by cases count <;> rfl
      cases same.symm.trans answered

theorem published :
    server.published 100 0 = some (.arr []) ∧ server.published 100 1 = some job := by
  have text : Answer.text ⟨200, Text.Utf8.encode jobText⟩ = jobText := by cbv
  have decoded : publishShape.decode jobText = .ok [job] := by cbv
  have held : server.content .publish publishShape 100 1 = some [job] :=
    content_of_answer rfl (by decide) (by decide) (text.symm ▸ decoded)
  constructor
  · cbv
  · rw [Server.published, held]
    rfl

theorem not_refuses : ¬ server.Refuses 100 1 := by
  rintro ⟨reply, held, jobless, -⟩
  obtain rfl : job = reply := Option.some.inj (published.2.symm.trans held)
  cases jobless

theorem closes_job : Closes Deadline.config server "t0" 0 job collected := by
  obtain ⟨answered, silent⟩ := verdicts
  refine .inr ⟨"7", Deadline.config.url, rfl, by rfl, .inr ⟨?_, .inl ⟨0, answered, silent⟩⟩, rfl⟩
  intro index
  apply (Watch.continues_iff watch index).mpr
  cases index with
  | zero => exact .inr ⟨_, answered, by decide⟩
  | succ index => exact .inl (silent (index + 1) (Nat.succ_pos index))

theorem unfailing : Unfailing Deadline.config server "t0" Deadline.config.url session 2 := by
  intro attempt within refused
  match attempt, within with
  | 0, _ => exact ⟨.arr [], published.1, fun id found => nomatch found⟩
  | 1, _ =>
      refine ⟨job, published.2, ?_⟩
      rintro id ⟨⟩ job watch index error - failed
      obtain ⟨answered, silent⟩ := verdicts
      cases index with
      | zero => cases answered.symm.trans failed
      | succ index => cases (silent (index + 1) (Nat.succ_pos index)).symm.trans failed

/-- What it returned passes for a failure record, which counts before the other's silence. -/
theorem extract_is_malformed :
    0 < Deadline.config.pollInterval ∧ server.Integral ∧ session.token = some "t0" ∧
      prepare Deadline.config .publish (some "t0") = .ok Deadline.config.url ∧
      Unfailing Deadline.config server "t0" Deadline.config.url session 2 ∧
      ∃ first second, (extract (client Deadline.config server) Retry.query 2 session).result =
        .error (.malformed first second) := by
  have polls : 0 < Deadline.config.pollInterval := by decide
  have prepared : prepare Deadline.config .publish (some "t0") = .ok Deadline.config.url := by rfl
  obtain ⟨-, -, -, -, -, closing⟩ := extract_diagnoses Retry.query polls integral_server
    (.inl rfl : session.token = some "t0" ∨ _) prepared unfailing
  obtain ⟨attempt, within, -, reply, other, held, complete, closes, diagnosed, -⟩ :=
    closing ⟨1, Nat.one_lt_two, not_refuses⟩
  refine ⟨polls, integral_server, rfl, prepared, unfailing, ?_⟩
  match attempt, within with
  | 0, _ =>
      obtain rfl : Json.arr [] = reply := Option.some.inj (published.1.symm.trans held)
      exact absurd ⟨rfl, Json.noConfusion⟩ complete
  | 1, _ =>
      obtain rfl : job = reply := Option.some.inj (published.2.symm.trans held)
      obtain rfl : collected = other := closes_job.unique closes
      exact diagnosed.malformed_iff.mpr ⟨["db"], rfl⟩

end Impostor

end PillarLookup.SaltApi
