import Mathlib
import PillarLookup.Proofs.SaltApi.Exchange
import PillarLookup.Proofs.Url.Domain
import PillarLookup.Proofs.Url.Resolve

/-!
# Where requests go

Publications and lookups go to the directory that the base address names, with or without a
slash at its end, and logins to a name in that directory. An address without a hierarchy of
paths has no directories, so that a client with such a base cannot even log in.
-/

namespace PillarLookup.SaltApi

theorem settled_login (kind : Url.SchemeKind) : Url.Path.Settled kind "login".toList := by
  have letters : ∀ char ∈ "login".toList, char.isAlpha = true := List.all_eq_true.mp (by decide)
  exact ⟨fun char listed => Url.Path.isPlain_of_isAlpha (letters char listed), by decide, by decide⟩

theorem schemeKind_of_isWebScheme {scheme : String} (web : isWebScheme scheme = true) :
    scheme ≠ "file" ∧ ∃ port, Url.schemeKind scheme = .network port := by
  simp only [isWebScheme, Bool.or_eq_true, decide_eq_true_eq] at web
  rcases web with rfl | rfl
  · exact ⟨by decide, 80, by decide⟩
  · exact ⟨by decide, 443, by decide⟩

/-- Reading the text of the path of an address leads to the path. -/
def ReadsBack (url : Url) : Prop :=
  Url.pathAfterHost (Url.schemeKind url.scheme) url.path.chars = url.path

theorem ReadsBack.path_eq {first second : Url} (reads : ReadsBack first)
    (others : ReadsBack second) (scheme : first.scheme = second.scheme)
    (text : first.path.chars = second.path.chars) : first.path = second.path := by
  rw [← reads, ← others, scheme, text]

/-- Where the tasks of a configuration are posted, told by the texts of the paths. -/
structure Addressed (config : Config) (jobs login : Url) : Prop where
  publish : endpoint config .publish = .ok jobs
  lookUp : endpoint config .lookUp = .ok jobs
  logIn : endpoint config .logIn = .ok login
  jobs_eq : jobs = { config.url with path := jobs.path, fragment := none }
  login_eq : login = { config.url with path := login.path, query := none, fragment := none }
  jobs_path : jobs.path.chars =
    if config.url.path.chars.getLast? = some '/' then config.url.path.chars
    else config.url.path.chars ++ ['/']
  login_path : login.path.chars = jobs.path.chars ++ "login".toList
  directory : login.path.directory = jobs.path.directory
  jobs_reads_back : ReadsBack jobs
  login_reads_back : ReadsBack login

variable {config other : Config} {jobs login jobs' login' : Url}

theorem addressed_of_parse {domains : Url.Domains} {text : String}
    (parsed : Url.parse domains text = .ok config.url)
    (web : isWebScheme config.url.scheme = true) : ∃ jobs login, Addressed config jobs login := by
  obtain ⟨not_file, port, network⟩ := schemeKind_of_isWebScheme web
  obtain ⟨parts, path, -, settled⟩ := Url.settled_of_parse parsed network
  have elsewhere : config.url.isFile = false := decide_eq_false not_file
  have slash := Url.withFinalSlash_eq elsewhere path
  have inside : ∀ {name : String}, Url.Path.Settled (.network port) name.toList →
      Url.Path.AllSettled (.network port) (Url.Path.enclosing parts ++ [name]) :=
    fun named => settled.enclosing.append (Url.Path.allSettled_singleton named)
  have root : Url.Path.Settled (.network port) "".toList := Url.Path.settled_nil _
  refine ⟨{ config.url with
      path := .segments (Url.Path.enclosing parts ++ [""])
      fragment := none },
    { config.url with
      path := .segments (Url.Path.enclosing parts ++ ["login"])
      query := none
      fragment := none }, ?_⟩
  exact
    { publish := by
        rw [endpoint, slash]
        exact Url.resolve_empty _
      lookUp := by
        rw [endpoint, slash]
        exact Url.resolve_empty _
      logIn := by
        rw [endpoint, slash, Task.endpoint,
          Url.resolve_name (by decide) (settled_login .other) elsewhere, List.dropLast_concat]
      jobs_eq := rfl
      login_eq := rfl
      jobs_path := by
        rw [path]
        exact Url.Path.segmentChars_enclosing settled
      login_path := by
        simp [Url.Path.chars, Url.Path.segmentChars_concat]
      directory := by
        rw [Url.Path.directory_concat (settled_login (.network port)),
          Url.Path.directory_concat root]
      jobs_reads_back := by
        rw [ReadsBack, network]
        exact (inside root).pathAfterHost (by simp)
      login_reads_back := by
        rw [ReadsBack, network]
        exact (inside (settled_login _)).pathAfterHost (by simp) }

namespace Addressed

/-- The last segment of the base stays. -/
theorem keeps_path (addressed : Addressed config jobs login) :
    config.url.path.chars <+: login.path.chars := by
  have base : config.url.path.chars <+: jobs.path.chars := by
    rw [addressed.jobs_path]
    split
    · exact List.prefix_rfl
    · exact List.prefix_append _ _
  rw [addressed.login_path]
  exact base.trans (List.prefix_append _ _)

/-- Bases that differ in their paths only lead to the same addresses if they do so for jobs. -/
theorem eq_of_chars_eq (addressed : Addressed config jobs login)
    (others : Addressed other jobs' login')
    (base : other.url = { config.url with path := other.url.path })
    (same : jobs'.path.chars = jobs.path.chars) : jobs' = jobs ∧ login' = login := by
  have scheme : other.url.scheme = config.url.scheme := by rw [base]
  have jobs_scheme : jobs'.scheme = jobs.scheme := by
    rw [addressed.jobs_eq, others.jobs_eq]
    exact scheme
  have login_scheme : login'.scheme = login.scheme := by
    rw [addressed.login_eq, others.login_eq]
    exact scheme
  have login_same : login'.path.chars = login.path.chars := by
    rw [addressed.login_path, others.login_path, same]
  have jobs_path := others.jobs_reads_back.path_eq addressed.jobs_reads_back jobs_scheme same
  have login_path :=
    others.login_reads_back.path_eq addressed.login_reads_back login_scheme login_same
  constructor
  · rw [addressed.jobs_eq, others.jobs_eq, base, jobs_path]
  · rw [addressed.login_eq, others.login_eq, base, login_path]

/-- A slash behind the path of a base makes no difference. -/
theorem endpoint_eq (addressed : Addressed config jobs login)
    (others : Addressed other jobs' login')
    (base : other.url = { config.url with path := other.url.path })
    (open_end : config.url.path.chars.getLast? ≠ some '/')
    (slash : other.url.path.chars = config.url.path.chars ++ ['/']) (task : Task) :
    endpoint other task = endpoint config task := by
  have same : jobs'.path.chars = jobs.path.chars := by
    rw [others.jobs_path, addressed.jobs_path, if_neg open_end, slash, if_pos (by simp)]
  obtain ⟨rfl, rfl⟩ := addressed.eq_of_chars_eq others base same
  cases task with
  | logIn => rw [others.logIn, addressed.logIn]
  | publish => rw [others.publish, addressed.publish]
  | lookUp => rw [others.lookUp, addressed.lookUp]

end Addressed

theorem endpoint_of_plain {content : String} (path : config.url.path = .plain content)
    (task : Task) : endpoint config task = .error .noHierarchy := by
  have same : config.url.withFinalSlash = config.url := by
    rw [Url.withFinalSlash, path]
  rw [endpoint, same, Url.resolve, path]

/-- Without an address for the login nothing is sent. -/
theorem logIn_of_unaddressed {fault : Url.Fault}
    (unaddressed : endpoint config .logIn = .error fault) (server : Server) (session : Session) :
    logIn config server session =
      ⟨.error (.endpoint "login" fault), session, [.logged (loginEntry config)]⟩ := by
  have unbuilt : prepare config .logIn none = .error (.endpoint "login" fault) := by
    rw [prepare, unaddressed]
    rfl
  rw [logIn, post, unbuilt]
  rfl

/--
Publications and lookups go to the base, with a slash behind its path unless there is one,
with its query and without its fragment; logins go to a name behind that, without query and
fragment. Nothing else of the base changes, no segment of its path is lost, and a base that
has the slash already has the same endpoints. If the base has no hierarchy, a login and any
query that needs one fail over the endpoint, and nothing is sent. All this holds of every text
that is read as an address, in whatever way the names of hosts are brought to ASCII.
-/
theorem endpoints_lie_in_base {domains : Url.Domains} {text : String}
    (parsed : Url.parse domains text = .ok config.url) :
    (isWebScheme config.url.scheme = true → ∃ jobs login,
      Addressed config jobs login ∧ config.url.path.chars <+: login.path.chars ∧
      ∀ (other : Config) (otherText : String), Url.parse domains otherText = .ok other.url →
        other.url = { config.url with path := other.url.path } →
        config.url.path.chars.getLast? ≠ some '/' →
        other.url.path.chars = config.url.path.chars ++ ['/'] →
        ∀ task, endpoint other task = endpoint config task) ∧
    ∀ content, config.url.path = .plain content → ∀ (server : Server) (session : Session),
      logIn config server session =
        ⟨.error (.endpoint "login" .noHierarchy), session, [.logged (loginEntry config)]⟩ ∧
      (session.token = none → ∀ query, ask config server query session =
        ⟨.error (.endpoint "login" .noHierarchy), session, [.logged (loginEntry config)]⟩) := by
  constructor
  · intro web
    obtain ⟨jobs, login, addressed⟩ := addressed_of_parse parsed web
    refine ⟨jobs, login, addressed, addressed.keeps_path, ?_⟩
    intro other otherText otherParsed base open_end slash task
    have same : other.url.scheme = config.url.scheme := by rw [base]
    obtain ⟨jobs', login', others⟩ := addressed_of_parse otherParsed (by rw [same, web])
    exact addressed.endpoint_eq others base open_end slash task
  · intro content path server session
    have failed := logIn_of_unaddressed (endpoint_of_plain path .logIn) server session
    refine ⟨failed, ?_⟩
    intro fresh query
    rw [ask, authenticate, fresh]
    dsimp only
    rw [failed]
    rfl

namespace Gateway

/-- A base with everything in it that an address can have, and a host beyond ASCII. -/
def base (path : Url.Path) : Config :=
  .make ⟨"https", "salt", some "key", some (.name "xn--mnchen-3ya.example"), some 8000, path,
    some "q", some "f"⟩ "salt" "key"

def room : Config :=
  base (.segments ["", "a", "b%20c"])

def opened : Config :=
  base (.segments ["", "a", "b%20c", ""])

def mailbox : Config :=
  .make ⟨"mailto", "", none, none, none, .plain "salt@localhost", none, none⟩ "salt" "key"

/-- With and without the slash, tasks go to the same places. A mailbox has none. -/
theorem endpoints_lie_in_room :
    Url.parse .withMunich "https://salt:key@münchen.example:8000//a/x/../b c?q#f" =
        .ok room.url ∧
      Url.parse .withMunich "https://salt:key@m%C3%BCnchen.example:8000//a/b c/./?q#f" =
        .ok opened.url ∧
      Url.parse .ascii "mailto:salt@localhost" = .ok mailbox.url ∧
      (∃ jobs login, Addressed room jobs login ∧
        ∀ task, endpoint opened task = endpoint room task) ∧
      ∀ server, logIn mailbox server Session.start =
        ⟨.error (.endpoint "login" .noHierarchy), Session.start,
          [.logged (loginEntry mailbox)]⟩ := by
  have room_parsed : Url.parse .withMunich
      "https://salt:key@münchen.example:8000//a/x/../b c?q#f" = .ok room.url := by cbv
  have opened_parsed : Url.parse .withMunich
      "https://salt:key@m%C3%BCnchen.example:8000//a/b c/./?q#f" = .ok opened.url := by cbv
  have mailbox_parsed : Url.parse .ascii "mailto:salt@localhost" = .ok mailbox.url := by cbv
  refine ⟨room_parsed, opened_parsed, mailbox_parsed, ?_, ?_⟩
  · obtain ⟨jobs, login, addressed, -, alike⟩ := (endpoints_lie_in_base room_parsed).1 (by decide)
    have same := alike opened _ opened_parsed rfl (by decide) (by decide)
    exact ⟨jobs, login, addressed, same⟩
  · intro server
    exact ((endpoints_lie_in_base mailbox_parsed).2 "salt@localhost" rfl server Session.start).1

end Gateway

end PillarLookup.SaltApi
