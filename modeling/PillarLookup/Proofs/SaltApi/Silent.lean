import PillarLookup.Proofs.SaltApi.Diagnosis

/-!
# When minions stay silent

An extraction ends in a remote error for one reason only. The first reply that is not
incomplete has a job, whose wait no lookup ends, so that it lasts until the deadline;
some minion of the job is not in the map obtained by then, and that map does not pass
for a failure record. Nothing is assumed about exchanges that fail.
-/

namespace PillarLookup.SaltApi

/-! ## Attempts before the last one -/

section Attempts

variable {config : Config} {server : Server} {query : Query} {session : Session}

/-- An answer of one record at most is that of an incomplete reply. -/
theorem ask_of_few {records : List Record}
    (answered : (ask config server query session).result = .ok records)
    (few : ¬ 1 < records.length) :
    server.Refuses config.timeout session.publishes ∧
      ∃ token, (authenticate config server session).result = .ok token ∧
        let after := (ask config server query session).state
        (authenticate config server after).result = .ok token ∧
          after.publishes = session.publishes + 1 ∧ after.lookups = session.lookups := by
  obtain ⟨token, reply, authenticated, prepared, held⟩ := exists_published_of_ask answered
  obtain ⟨middle, cached, publishes, lookups, result, state⟩ :=
    ask_of_published query authenticated prepared held
  rw [result] at answered
  obtain ⟨text, publication⟩ := exists_incomplete_of_length_le_one config server token query
    (.ofValue reply) middle answered (Nat.le_of_not_lt few)
  refine ⟨⟨reply, held, (ofValue_eq_incomplete_iff.mp publication).1⟩, token, authenticated, ?_⟩
  rw [publication] at state
  dsimp only
  rw [state]
  exact ⟨authenticate_eq_ok_iff.mpr (.inl cached), publishes, lookups⟩

/--
As long as no answer is final, the replies are incomplete, each attempt takes the next
one, and the token of a later attempt is that of the first.
-/
theorem refuses_of_not_isFinal {count : Nat}
    (few : ∀ asked < count, ¬ IsFinal ((client config server).answer query session asked)) :
    (∀ asked < count, server.Refuses config.timeout (session.publishes + asked)) ∧
      let there := (client config server).stateAfter query session count
      there.publishes = session.publishes + count ∧ there.lookups = session.lookups ∧
        ∀ token, (authenticate config server there).result = .ok token →
          (authenticate config server session).result = .ok token := by
  induction count with
  | zero => exact ⟨by simp, rfl, rfl, fun token => id⟩
  | succ count ih =>
      obtain ⟨refused, publishes, lookups, same⟩ :=
        ih fun asked less => few asked (Nat.lt_succ_of_lt less)
      have last := few count (Nat.lt_succ_self count)
      cases answered : (client config server).answer query session count with
      | error message =>
          rw [answered] at last
          exact absurd trivial last
      | ok records =>
          rw [answered] at last
          obtain ⟨refuses, token, authenticated, again, published, looked⟩ :=
            ask_of_few ((client_ask_eq_ok_iff config server query _).mp answered) last
          refine ⟨?_, ?_, looked.trans lookups, ?_⟩
          · intro asked less
            rcases Nat.lt_succ_iff_lt_or_eq.mp less with before | rfl
            · exact refused asked before
            · exact publishes ▸ refuses
          · exact published.trans (congrArg Nat.succ publishes)
          · intro other found
            obtain rfl : token = other := Except.ok.inj (again.symm.trans found)
            exact same token authenticated

end Attempts

/-! ## Silence -/

/--
The first of the next replies that is not incomplete has a job. No lookup ends the wait
for it before the deadline, `returns` is the map obtained by then, and `silent` are the
minions that are not in it, of which there is one at least.
-/
def StaySilent (config : Config) (server : Server) (token : String) (session : Session)
    (most : Nat) (returns : Members Json) (silent : List String) : Prop :=
  ∃ attempt < most,
    (∀ earlier < attempt, server.Refuses config.timeout (session.publishes + earlier)) ∧
    ∃ reply id url, server.published config.timeout (session.publishes + attempt) = some reply ∧
      Publication.jobId? reply = some id ∧
      prepare config .lookUp (some token) = .ok url ∧
      let minions := stringsIn (reply.get? "minions")
      let watch : Watch := ⟨config, server, ⟨token, id, minions⟩, url, session.lookups⟩
      (∀ index, watch.Continues index) ∧ watch.Latest returns ∧
        silent = minions.filter (fun minion => !returns.contains minion) ∧ silent ≠ []

section Silence

variable {config : Config} {server : Server} {session : Session} {token : String}
  {reply : Json} {collected : Collected}

/-- Where a minion is missing at the close, the wait has lasted until the deadline. -/
theorem Closes.lasts {lookups : Nat} (closes : Closes config server token lookups reply collected)
    (incomplete : collected.missing ≠ []) :
    ∃ id url, Publication.jobId? reply = some id ∧ prepare config .lookUp (some token) = .ok url ∧
      let minions := stringsIn (reply.get? "minions")
      let watch : Watch := ⟨config, server, ⟨token, id, minions⟩, url, lookups⟩
      (∀ index, watch.Continues index) ∧ watch.Latest collected.returns ∧
        collected.missing = minions.filter fun minion => !collected.returns.contains minion := by
  rcases closes with ⟨-, rfl⟩ | ⟨id, url, job, prepared, ends, missing⟩
  · exact absurd rfl incomplete
  · refine ⟨id, url, job, prepared, ?_⟩
    rcases ends with ⟨index, -, -, covers⟩ | ⟨continues, latest⟩
    · rw [missing] at incomplete
      exact absurd (missing_eq_nil_iff.mpr covers) incomplete
    · exact ⟨continues, latest, missing⟩

/--
An extraction ends in a remote error if and only if there is a token that a publication
can be sent with, minions of the job stay silent until the deadline, and the map obtained
by then does not pass for a failure record. The error names them, and the status of the
value record, which becomes the exit code, is zero.
-/
theorem extract_eq_remote_iff (query : Query) (most : Nat) (polls : 0 < config.pollInterval)
    (whole : server.Integral) {status valueStatus : Option Int} {failed : List String} :
    (extract (client config server) query most session).result =
        .error (.remote status valueStatus failed) ↔
      status = some 1 ∧ valueStatus = some 0 ∧
        ∃ token returns, (authenticate config server session).result = .ok token ∧
          (∃ url, prepare config .publish (some token) = .ok url) ∧
          StaySilent config server token session most returns failed ∧
          ¬ PassesForFailure returns := by
  constructor
  · intro result
    cases most with
    | zero => cases result
    | succ most =>
        obtain ⟨last, isLast⟩ :=
          (client config server).exists_isLast query session (Nat.succ_pos most)
        rw [extract_of_isLast isLast] at result
        obtain ⟨refused, publishes, lookups, same⟩ := refuses_of_not_isFinal isLast.earlier
        cases answered : (client config server).answer query session last with
        | error message =>
            rw [answered] at result
            cases result
        | ok records =>
            rw [answered] at result
            obtain ⟨token, reply, authenticated, prepared, held, yields⟩ :=
              (ask_eq_ok_iff polls).mp ((client_ask_eq_ok_iff config server query _).mp answered)
            rcases yields with ⟨-, rfl⟩ | ⟨collected, closes, rfl⟩
            · cases result
            · have diagnosed : Diagnosed collected (Outcome.ofRecords collected.records) :=
                diagnosed_records closes.regular (closes.integral whole)
              obtain ⟨harmless, incomplete, one, zero, rfl⟩ :=
                (diagnosed.remote_iff status valueStatus failed).mp result
              rw [publishes] at held
              rw [lookups] at closes
              obtain ⟨id, url, job, address, continues, latest, missing⟩ :=
                closes.lasts incomplete
              exact ⟨one, zero, token, collected.returns, same token authenticated, prepared,
                ⟨last, isLast.within, refused, reply, id, url, held, job, address, continues,
                  latest, missing, incomplete⟩, harmless⟩
  · rintro ⟨rfl, rfl, token, returns, authenticated, ⟨url, prepared⟩, silent, harmless⟩
    obtain ⟨attempt, within, refused, reply, id, address, held, job, looked, continues, latest,
      missing, incomplete⟩ := silent
    have closes : Closes config server token session.lookups reply ⟨returns, failed⟩ :=
      .inr ⟨id, address, job, looked, .inr ⟨continues, latest⟩, missing⟩
    have diagnosed : Diagnosed ⟨returns, failed⟩
        (Outcome.ofRecords (Collected.records ⟨returns, failed⟩)) :=
      diagnosed_records closes.regular (closes.integral whole)
    rw [extract_of_closes query authenticated prepared polls within refused held closes]
    exact (diagnosed.remote_iff _ _ _).mpr ⟨harmless, incomplete, rfl, rfl, rfl⟩

end Silence

end PillarLookup.SaltApi
