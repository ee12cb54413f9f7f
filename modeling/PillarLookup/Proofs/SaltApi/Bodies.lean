import PillarLookup.Proofs.SaltApi.Phases

/-!
# What requests say

Every body that a client sends reads as one of three structures of fixed keys. The texts of
the caller and the job id of the server stand in it character for character, whatever they
are, so none of them can add a field or change one, and a body tells the query that it is of.
-/

namespace PillarLookup.SaltApi

theorem jobId?_eq_some_iff {reply : Json} {id : String} :
    Publication.jobId? reply = some id ↔ reply.get? "jid" = some (.str id) := by
  rw [Publication.jobId?]
  constructor
  · intro found
    obtain ⟨value, held, text⟩ := Option.bind_eq_some_iff.mp found
    cases value with
    | str content =>
        cases text
        exact held
    | _ => cases text
  · intro held
    rw [held]
    rfl

/-- A body of publications is that of one query. -/
theorem publishBody_inj {first second : Query} :
    (publishBody first).text = (publishBody second).text ↔ first = second := by
  have regular : ∀ query, Json.Regular Json.nestingLimit (publishBody query) :=
    fun query => (regular_publishBody query).mono (by decide)
  rw [Json.text_inj (regular first) rfl (regular second) rfl]
  constructor
  · intro same
    simp only [publishBody, Json.arr.injEq, List.cons.injEq, Json.obj.injEq, Prod.mk.injEq,
      Json.str.injEq, true_and, and_true] at same
    obtain ⟨pillar, target, type⟩ := same
    cases first
    cases second
    cases pillar
    cases target
    cases TargetType.name_injective type
    rfl
  · intro same
    rw [same]

/--
The bodies of requests say what the caller gave and, in a lookup, the id that stands in the
reply to the last publication.
-/
structure Verbatim (config : Config) (server : Server) (query : Query) (session : Session)
    (logins publishes lookups : List Http.Request) : Prop where
  login : ∀ request ∈ logins, Json.decode request.body =
    .ok (.obj [("eauth", .str config.eauth), ("password", .str config.password),
      ("username", .str config.username)])
  publish : ∀ request ∈ publishes, request.body = (publishBody query).text ∧
    Json.decode request.body =
      .ok (.arr [.obj [("arg", .arr [.str query.pillar]), ("client", .str "local_async"),
        ("fun", .str "pillar.get"), ("tgt", .str query.target),
        ("tgt_type", .str query.targetType.name)]])
  lookup : ∀ request ∈ lookups, ∃ last reply id, publishes.length = last + 1 ∧
    server.published config.timeout (session.publishes + last) = some reply ∧
    reply.get? "jid" = some (.str id) ∧
    Json.decode request.body =
      .ok (.arr [.obj [("client", .str "runner"), ("fun", .str "jobs.lookup_jid"),
        ("jid", .str id)]])

theorem InPhases.verbatim {config : Config} {server : Server} {query : Query}
    {session after : Session} {most : Nat} {logins publishes lookups : List Http.Request}
    (phases : InPhases config server query session after most logins publishes lookups) :
    Verbatim config server query session logins publishes lookups := by
  constructor
  · intro request listed
    exact (phases.logs_in request listed).decode_body (regular_loginBody config) rfl
  · intro request listed
    obtain ⟨token, posts⟩ := phases.asks request listed
    exact ⟨posts.body_eq, posts.decode_body (regular_publishBody query) rfl⟩
  · intro request listed
    obtain ⟨last, reply, id, token, length, held, found, posts⟩ := phases.looks_up request listed
    exact ⟨last, reply, id, length, held, jobId?_eq_some_iff.mp found,
      posts.decode_body (regular_lookupBody id) rfl⟩

/--
A query, and an extraction of any number of attempts, sends logins, then publications, then
lookups, and every body says what was given and nothing else. The body of a publication is
that of no other query.
-/
theorem bodies_are_verbatim (config : Config) (server : Server) (query : Query)
    (session : Session) :
    (∃ logins publishes lookups,
      requestsOf (ask config server query session).events = logins ++ publishes ++ lookups ∧
      Verbatim config server query session logins publishes lookups) ∧
    (∀ most, ∃ logins publishes lookups,
      requestsOf (extract (client config server) query most session).events =
        logins ++ publishes ++ lookups ∧
      Verbatim config server query session logins publishes lookups) ∧
    ∀ other, (publishBody other).text = (publishBody query).text ↔ other = query := by
  refine ⟨?_, ?_, ?_⟩
  · obtain ⟨logins, publishes, lookups, sent, phases, -⟩ :=
      ask_inPhases config server query session
    exact ⟨logins, publishes, lookups, sent, phases.verbatim⟩
  · intro most
    obtain ⟨logins, publishes, lookups, sent, phases⟩ :=
      attempts_inPhases config server query session most most []
    obtain ⟨-, events⟩ := extract_frame (client config server) query most session
    exact ⟨logins, publishes, lookups, events ▸ sent, phases.verbatim⟩
  · intro other
    exact publishBody_inj

/-- A job id that looks like the end of its field and another field is one text. -/
example : Json.decode (lookupBody "7\",\"fun\":\"test.ping\n").text =
    .ok (lookupBody "7\",\"fun\":\"test.ping\n") := by cbv

end PillarLookup.SaltApi
