import PillarLookup.CommandLine.Run
import PillarLookup.Proofs.Configuration
import PillarLookup.Proofs.Judgement
import PillarLookup.Proofs.SaltApi.Silent

/-!
# What a call exits with

A call that is not rejected prints the value or nothing, and exits with zero or one.
Faults are found in a fixed order, and nothing is sent before the configuration and the
query are valid. A call that prints nothing exits with zero for one reason only, which
is that minions stay silent.
-/

namespace PillarLookup.CommandLine

open SaltApi (Server client authenticate prepare StaySilent PassesForFailure)
open Url (Domains)

/-- What goes to the standard error; every diagnostic ends its line. -/
def Report.errorOutput (time : String) (report : Report) : String :=
  String.join (report.diagnostics.map fun diagnostic => diagnostic.line time ++ "\n")

/--
The configuration that is queried. The options decide on the timeout, which they give in
seconds, and on certificates, and the environment on all the rest.
-/
structure Configured (options : Options) (base config : Config) : Prop where
  timeout : config.timeout = 1000 * options.timeout
  ignoreSsl : config.ignoreSsl = options.ignoreSsl
  others : config = { base with timeout := config.timeout, ignoreSsl := config.ignoreSsl }

/-- The first fault in the order in which they are looked for, or what is extracted. -/
inductive Finds (domains : Domains) (options : Options) (environment : Environment)
    (server : Server) : Except RunError Json → Prop where
  | badConfig {error : ConfigError}
      (read : Config.ofEnvironment domains environment = .error error) :
      Finds domains options environment server (.error (.config error))
  | emptyTarget {base : Config} (read : Config.ofEnvironment domains environment = .ok base)
      (empty : options.target = "") :
      Finds domains options environment server (.error (.query .emptyTarget))
  | emptyPillar {base : Config} (read : Config.ofEnvironment domains environment = .ok base)
      (present : options.target ≠ "") (empty : options.pillar = "") :
      Finds domains options environment server (.error (.query .emptyPillar))
  | extraction {base config : Config} {query : Query}
      (read : Config.ofEnvironment domains environment = .ok base)
      (configured : Configured options base config)
      (target : query.target = options.target) (pillar : query.pillar = options.pillar)
      (targetType : query.targetType = options.targetType) :
      Finds domains options environment server
        ((extract (client config server) query options.maxAttempts .start).result.mapError
          .extraction)

/-- The configuration and the query are valid, and minions stay silent until the deadline. -/
def MinionsSilent (domains : Domains) (options : Options) (environment : Environment)
    (server : Server) : Prop :=
  ∃ base config, Config.ofEnvironment domains environment = .ok base ∧
    Configured options base config ∧ options.target ≠ "" ∧ options.pillar ≠ "" ∧
    ∃ token returns failed, (authenticate config server .start).result = .ok token ∧
      (∃ url, prepare config .publish (some token) = .ok url) ∧
      StaySilent config server token .start options.maxAttempts returns failed ∧
      ¬ PassesForFailure returns

/-! ## What is found -/

section Finding

variable {domains : Domains} {options : Options} {environment : Environment} {server : Server}

/-- The timeout and the flag of the options reach the configuration, and nothing else does. -/
theorem configured_iff {base config : Config} :
    Configured options base config ↔ config = configure options base := by
  constructor
  · rintro ⟨timeout, ignoreSsl, others⟩
    rw [others, timeout, ignoreSsl, Nat.mul_comm]
    rfl
  · rintro rfl
    exact ⟨Nat.mul_comm _ _, rfl, rfl⟩

theorem pollInterval_of_ofEnvironment {config : Config}
    (read : Config.ofEnvironment domains environment = .ok config) :
    config.pollInterval = Config.defaultPollInterval :=
  (Config.ofEnvironment_eq_ok_iff.mp read).others.2.2

/-- The poll interval is that of the environment, which is positive. -/
theorem Configured.pollInterval_pos {base config : Config}
    (configured : Configured options base config)
    (read : Config.ofEnvironment domains environment = .ok base) : 0 < config.pollInterval := by
  rw [configured.others, pollInterval_of_ofEnvironment read]
  decide

/-- With a valid configuration and a valid query a run comes to what the extraction comes to. -/
theorem find_of_valid {base config : Config}
    (read : Config.ofEnvironment domains environment = .ok base)
    (configured : Configured options base config)
    (present : options.target ≠ "") (named : options.pillar ≠ "") :
    ∃ query : Query, query.target = options.target ∧ query.pillar = options.pillar ∧
      query.targetType = options.targetType ∧
      (find domains options environment server).result =
        (extract (client config server) query options.maxAttempts .start).result.mapError
          .extraction := by
  refine ⟨⟨options.target, options.pillar, options.targetType, present, named⟩, rfl, rfl, rfl, ?_⟩
  rw [find, read, configured_iff.mp configured]
  dsimp only
  rw [lookUp, Query.make, dif_neg present, dif_neg named]
  rfl

/-- What a run finds is the first fault, and before the extraction nothing is sent. -/
theorem find_finds (domains : Domains) (options : Options) (environment : Environment)
    (server : Server) :
    let step := find domains options environment server
    Finds domains options environment server step.result ∧
      ∀ error, step.result = .error error → (∀ failure, error ≠ .extraction failure) →
        requestsOf step.events = [] := by
  cases read : Config.ofEnvironment domains environment with
  | error error =>
      rw [find, read]
      exact ⟨.badConfig read, fun _ _ _ => rfl⟩
  | ok base =>
      by_cases empty : options.target = ""
      · rw [find, read]
        dsimp only
        rw [lookUp, Query.make, dif_pos empty]
        exact ⟨.emptyTarget read empty, fun _ _ _ => rfl⟩
      · by_cases blank : options.pillar = ""
        · rw [find, read]
          dsimp only
          rw [lookUp, Query.make, dif_neg empty, dif_pos blank]
          exact ⟨.emptyPillar read empty blank, fun _ _ _ => rfl⟩
        · have configured : Configured options base (configure options base) :=
            configured_iff.mpr rfl
          obtain ⟨query, target, pillar, targetType, result⟩ :=
            find_of_valid read configured empty blank
          dsimp only
          rw [result]
          refine ⟨.extraction read configured target pillar targetType, ?_⟩
          intro error failed other
          cases extracted : (extract (client (configure options base) server) query
              options.maxAttempts .start).result with
          | error failure =>
              rw [extracted] at failed
              exact absurd (Except.error.inj failed).symm (other failure)
          | ok value =>
              rw [extracted] at failed
              cases failed

theorem mapError_eq_error_iff {outcome : Outcome} {failure : Failure} :
    outcome.mapError RunError.extraction = .error (.extraction failure) ↔
      outcome = .error failure := by
  cases outcome <;> simp [Except.mapError]

/-- A remote error is found only if minions stay silent, and forwards a success. -/
theorem minionsSilent_of_find (whole : server.Integral) {status valueStatus : Option Int}
    {failed : List String}
    (result : (find domains options environment server).result =
      .error (.extraction (.remote status valueStatus failed))) :
    valueStatus = some 0 ∧ MinionsSilent domains options environment server := by
  obtain ⟨finds, -⟩ := find_finds domains options environment server
  rw [result] at finds
  generalize found : Except.error (RunError.extraction (.remote status valueStatus failed)) =
    outcome at finds
  cases finds with
  | badConfig read => cases found
  | emptyTarget read empty => cases found
  | emptyPillar read present empty => cases found
  | @extraction base config query read configured target pillar targetType =>
      obtain ⟨-, forwarded, token, returns, silent⟩ :=
        (SaltApi.extract_eq_remote_iff query options.maxAttempts (configured.pollInterval_pos read)
          whole).mp (mapError_eq_error_iff.mp found.symm)
      exact ⟨forwarded, base, config, read, configured, target ▸ query.target_ne_empty,
        pillar ▸ query.pillar_ne_empty, token, returns, failed, silent⟩

/-- If minions stay silent, that is what is found. -/
theorem find_of_minionsSilent (whole : server.Integral)
    (minions : MinionsSilent domains options environment server) :
    ∃ failed, (find domains options environment server).result =
      .error (.extraction (.remote (some 1) (some 0) failed)) := by
  obtain ⟨base, config, read, configured, present, named, token, returns, failed, silent⟩ := minions
  obtain ⟨query, -, -, -, result⟩ := find_of_valid read configured present named
  refine ⟨failed, ?_⟩
  rw [result, mapError_eq_error_iff, SaltApi.extract_eq_remote_iff query options.maxAttempts
    (configured.pollInterval_pos read) whole]
  exact ⟨rfl, rfl, token, returns, silent⟩

theorem exitStatus_of_not_remote {error : RunError}
    (other : ∀ status valueStatus failed,
      error ≠ .extraction (.remote status valueStatus failed)) : error.exitStatus = 1 := by
  cases error with
  | config error => rfl
  | query error => rfl
  | extraction failure =>
      refine exitCode_of_not_remote ?_
      rintro status valueStatus failed rfl
      exact other status valueStatus failed rfl

/-- An error exits with one unless it is that minions stay silent. -/
theorem exitStatus_of_find (whole : server.Integral) {error : RunError}
    (found : (find domains options environment server).result = .error error) :
    (error.exitStatus = 0 ∧ (∃ status valueStatus failed,
        error = .extraction (.remote status valueStatus failed)) ∧
        MinionsSilent domains options environment server) ∨
      (error.exitStatus = 1 ∧ (∀ status valueStatus failed,
        error ≠ .extraction (.remote status valueStatus failed)) ∧
        ¬ MinionsSilent domains options environment server) := by
  by_cases remote : ∃ status valueStatus failed,
      error = .extraction (.remote status valueStatus failed)
  · obtain ⟨status, valueStatus, failed, rfl⟩ := remote
    obtain ⟨rfl, silent⟩ := minionsSilent_of_find whole found
    exact .inl ⟨rfl, ⟨status, some 0, failed, rfl⟩, silent⟩
  · have other : ∀ status valueStatus failed,
        error ≠ .extraction (.remote status valueStatus failed) :=
      fun status valueStatus failed same => remote ⟨status, valueStatus, failed, same⟩
    refine .inr ⟨exitStatus_of_not_remote other, other, ?_⟩
    intro silent
    obtain ⟨failed, result⟩ := find_of_minionsSilent whole silent
    rw [result] at found
    exact remote ⟨some 1, some 0, failed, (Except.error.inj found).symm⟩

end Finding

/-! ## What is reported -/

section Reporting

variable {platform : Platform} {options : Options} {environment : Environment} {server : Server}

theorem errorOutput_append (time : String) (status : Int) (output : String)
    (before : List Diagnostic) (last : String) (requests : List Http.Request) :
    ∃ first, Report.errorOutput time ⟨status, output, before ++ [.text last], requests⟩ =
      first ++ last ++ "\n" := by
  refine ⟨String.join (before.map fun diagnostic => diagnostic.line time ++ "\n"), ?_⟩
  rw [Report.errorOutput, String.join, List.map_append, List.foldl_append, String.append_assoc]
  rfl

/-- A run that finds a value prints it, and one that does not prints nothing. -/
theorem run_reports (platform : Platform) (options : Options) (environment : Environment)
    (server : Server) :
    let step := find platform.domains options environment server
    let report := run platform options environment server
    report.requests = requestsOf step.events ∧
      (∀ value, step.result = .ok value →
        report.exitStatus = 0 ∧ report.output = options.output.render value ++ "\n") ∧
      ∀ error, step.result = .error error →
        report.exitStatus = error.exitStatus ∧ report.output = "" ∧
          ∀ time, ∃ before, report.errorOutput time = before ++ error.message ++ "\n" := by
  rw [run]
  dsimp only
  cases (find platform.domains options environment server).result with
  | error error =>
      refine ⟨rfl, by simp, ?_⟩
      rintro other ⟨⟩
      exact ⟨rfl, rfl, fun time => errorOutput_append time _ _ _ _ _⟩
  | ok value =>
      refine ⟨rfl, ?_, by simp⟩
      rintro other ⟨⟩
      exact ⟨rfl, rfl⟩

/-- Nothing printed and an exit with zero mean that minions stay silent. -/
theorem exits_silently_iff (whole : server.Integral) :
    (run platform options environment server).exitStatus = 0 ∧
        (run platform options environment server).output = "" ↔
      MinionsSilent platform.domains options environment server := by
  obtain ⟨-, printed, refused⟩ := run_reports platform options environment server
  cases found : (find platform.domains options environment server).result with
  | ok value =>
      obtain ⟨-, output⟩ := printed value found
      refine iff_of_false ?_ ?_
      · rintro ⟨-, empty⟩
        rw [output] at empty
        simp at empty
      · intro silent
        obtain ⟨failed, remote⟩ := find_of_minionsSilent whole silent
        rw [remote] at found
        cases found
  | error error =>
      obtain ⟨status, output, -⟩ := refused error found
      rw [status, output]
      rcases exitStatus_of_find whole found with ⟨zero, -, silent⟩ | ⟨one, -, heard⟩
      · exact iff_of_true ⟨zero, rfl⟩ silent
      · exact iff_of_false (by simp [one]) heard

end Reporting

/-! ## A minion that never answers -/

namespace Unanswered

def arguments : List String :=
  ["--timeout", "1", "db", "port"]

def options : Options :=
  ⟨some .info, 3, .glob, 1, false, .raw, "db", "port", by decide⟩

def environment : Environment := fun key =>
  if key = Config.usernameVariable then some (Text.Utf8.encode "salt")
  else if key = Config.passwordVariable then some (Text.Utf8.encode "hunter2")
  else none

/-- The job is accepted, and no lookup is answered. -/
def server : Server :=
  ⟨.ofList .drop [SaltApi.Retry.reply "\x7b\"return\":[\x7b\"token\":\"t0\"\x7d]\x7d"],
    .ofList .drop [SaltApi.Retry.reply SaltApi.Retry.jobText], .ofList .stall []⟩

theorem parse_arguments : parse arguments = .ok options := by cbv

theorem integral_server : server.Integral := by
  intro count delay status body items answered
  have silent : server.lookup.answer count = .stall := by cases count <;> rfl
  cases silent.symm.trans answered

def base : Config :=
  Config.make Config.localService "salt" "hunter2"

theorem ofEnvironment_environment (domains : Domains) :
    Config.ofEnvironment domains environment = .ok base :=
  Config.ofEnvironment_eq_ok_iff.mpr
    { url := ⟨Config.defaultUrl, .fallback (.unset rfl), Config.parse_defaultUrl domains⟩
      username := rfl
      password := rfl
      eauth := .fallback (.unset rfl)
      others := ⟨rfl, rfl, rfl⟩ }

def watch : SaltApi.Watch :=
  ⟨configure options base, server, ⟨"t0", "7", ["db"]⟩, base.url, 0⟩

theorem abandoned (index : Nat) : watch.verdict index = .abandoned := by
  have first : watch.verdict 0 = .abandoned := by cbv
  exact SaltApi.Watch.abandoned_of_le first (Nat.zero_le index)

theorem published_job : server.published 1000 0 = some SaltApi.Retry.job := by
  have text : SaltApi.Answer.text ⟨200, Text.Utf8.encode SaltApi.Retry.jobText⟩ =
      SaltApi.Retry.jobText := by cbv
  have decoded : SaltApi.publishShape.decode SaltApi.Retry.jobText =
      .ok [SaltApi.Retry.job] := by cbv
  have held : server.content .publish SaltApi.publishShape 1000 0 = some [SaltApi.Retry.job] :=
    SaltApi.content_of_answer rfl (by decide) (by decide) (text.symm ▸ decoded)
  rw [Server.published, held]
  rfl

theorem prepare_publish : prepare (configure options base) .publish (some "t0") = .ok base.url := by
  refine SaltApi.prepare_eq_ok_iff.mpr
    ⟨base.url, by decide, rfl, by decide, by decide, ?_, by decide⟩
  have length : base.url.withoutCredentials.chars.length = 23 := by cbv
  rw [Url.isSendable, length]
  decide

def gate : Url :=
  { base.url with path := .segments ["login"] }

theorem prepare_logIn : prepare (configure options base) .logIn none = .ok gate := by
  refine SaltApi.prepare_eq_ok_iff.mpr ⟨gate, by cbv, rfl, rfl, by decide, ?_, by decide⟩
  have length : gate.withoutCredentials.chars.length = 28 := by cbv
  rw [Url.isSendable, length]
  decide

theorem staySilent : StaySilent (configure options base) server "t0" .start 3 [] ["db"] := by
  have address := SaltApi.prepare_lookUp prepare_publish
  refine ⟨0, by decide, by simp, SaltApi.Retry.job, "7", base.url, published_job, rfl, address, ?_,
    .inr ⟨rfl, abandoned⟩, rfl, by decide⟩
  exact fun index => (watch.continues_iff index).mpr (.inl (abandoned index))

theorem minionsSilent (domains : Domains) :
    MinionsSilent domains options environment server := by
  have granted : server.granted 1000 0 = some "t0" := by cbv
  have authenticated : (authenticate (configure options base) server .start).result = .ok "t0" :=
    SaltApi.authenticate_eq_ok_iff.mpr (.inr ⟨rfl, ⟨gate, prepare_logIn⟩, granted⟩)
  refine ⟨base, configure options base, ofEnvironment_environment domains, configured_iff.mpr rfl,
    by decide, by decide, "t0", [], ["db"], authenticated, ⟨base.url, prepare_publish⟩, staySilent,
    ?_⟩
  rintro ⟨failed, found⟩
  cases found

end Unanswered

/-! ## Calls -/

/--
What a calling script can rely on. A call that is not rejected either prints the value
and a line end and exits with zero, or prints nothing, ends the error output with the
message of the first fault and a line end, and exits with zero if that is a remote error
and with one otherwise. It is a remote error exactly if minions stay silent, so that
nothing printed and an exit with zero mean just that; and there are such calls. Before
the configuration and the query are valid nothing is sent. All this holds in whatever way
names of hosts are brought to ASCII and patterns in the log filter are read.
-/
theorem call_exits (platform : Platform) {arguments : List String} {options : Options}
    (environment : Environment) {server : Server} (accepted : parse arguments = .ok options)
    (whole : server.Integral) :
    (∃ report, call platform arguments environment server = .ran report ∧
      ((∃ value, Finds platform.domains options environment server (.ok value) ∧
          report.exitStatus = 0 ∧ report.output = options.output.render value ++ "\n") ∨
        ∃ error, Finds platform.domains options environment server (.error error) ∧
          report.output = "" ∧
          (∀ time, ∃ before, report.errorOutput time = before ++ error.message ++ "\n") ∧
          (report.exitStatus = 0 ∨ report.exitStatus = 1) ∧
          (report.exitStatus = 0 ↔ ∃ status valueStatus failed,
            error = .extraction (.remote status valueStatus failed)) ∧
          ((∀ failure, error ≠ .extraction failure) → report.requests = [])) ∧
      (report.exitStatus = 0 ∧ report.output = "" ↔
        MinionsSilent platform.domains options environment server)) ∧
    ∃ words setting silent report, Server.Integral silent ∧
      call platform words setting silent = .ran report ∧ report.exitStatus = 0 ∧
      report.output = "" := by
  refine ⟨?_, ?_⟩
  · obtain ⟨finds, unsent⟩ := find_finds platform.domains options environment server
    obtain ⟨requests, printed, refused⟩ := run_reports platform options environment server
    refine ⟨run platform options environment server, by rw [call, accepted], ?_, ?_⟩
    · cases found : (find platform.domains options environment server).result with
      | ok value =>
          obtain ⟨status, output⟩ := printed value found
          exact .inl ⟨value, found ▸ finds, status, output⟩
      | error error =>
          obtain ⟨status, output, message⟩ := refused error found
          refine .inr ⟨error, found ▸ finds, output, message, ?_, ?_, ?_⟩
          · rw [status]
            rcases exitStatus_of_find whole found with ⟨zero, -⟩ | ⟨one, -⟩
            · exact .inl zero
            · exact .inr one
          · rw [status]
            rcases exitStatus_of_find whole found with ⟨zero, remote, -⟩ | ⟨one, other, -⟩
            · exact iff_of_true zero remote
            · refine iff_of_false (by simp [one]) ?_
              rintro ⟨status, valueStatus, failed, same⟩
              exact other status valueStatus failed same
          · intro other
            rw [requests]
            exact unsent error found other
    · exact exits_silently_iff whole
  · exact ⟨Unanswered.arguments, Unanswered.environment, Unanswered.server, _,
      Unanswered.integral_server, by rw [call, Unanswered.parse_arguments],
      (exits_silently_iff Unanswered.integral_server).mpr
        (Unanswered.minionsSilent platform.domains)⟩

/-- A minion that never answers. -/
theorem Unanswered.call_exits_silently :
    parse arguments = .ok options ∧ server.Integral ∧
      ∃ report, call .plain arguments environment server = .ran report ∧
        report.exitStatus = 0 ∧ report.output = "" := by
  obtain ⟨⟨report, ran, -, silent⟩, -⟩ :=
    call_exits .plain environment parse_arguments integral_server
  exact ⟨parse_arguments, integral_server, report, ran,
    silent.mpr (minionsSilent Platform.plain.domains)⟩

end PillarLookup.CommandLine
