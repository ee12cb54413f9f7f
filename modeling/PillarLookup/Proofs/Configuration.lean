import PillarLookup.Config
import PillarLookup.Proofs.Url.Domain

/-!
# Reading the configuration

A variable holds a text or cannot be read, because it is not set or its bytes encode no text.
Three variables are judged, each on its own, and the first of them that offends decides the
error. If none does, a configuration is found that has the texts of the variables unchanged.
-/

namespace PillarLookup

namespace Environment

/-- The variable is set to the encoding of a text. -/
def Holds (environment : Environment) (key text : String) : Prop :=
  environment key = some (Text.Utf8.encode text)

/-- The variable is not set, or it is set to what encodes no text. -/
inductive Unreadable (environment : Environment) (key : String) : ReadFault → Prop where
  | unset (absent : environment key = none) : Unreadable environment key .unset
  | notText {bytes : List UInt8} (present : environment key = some bytes)
      (foreign : ∀ text, bytes ≠ Text.Utf8.encode text) :
      Unreadable environment key (.notText bytes)

/-- The variable holds the text, or it cannot be read and the text is the fallback. -/
inductive Supplies (environment : Environment) (key fallback : String) : String → Prop where
  | held {text : String} (holds : environment.Holds key text) :
      Supplies environment key fallback text
  | fallback {fault : ReadFault} (unreadable : environment.Unreadable key fault) :
      Supplies environment key fallback fallback

variable {environment other : Environment} {key text : String} {fault : ReadFault}

theorem read_eq_ok_iff : environment.read key = .ok text ↔ environment.Holds key text := by
  rw [read, Holds]
  cases environment key with
  | none => simp
  | some bytes =>
      dsimp only
      rw [Option.some_inj, ← Text.Utf8.decode?_eq_some_iff]
      cases Text.Utf8.decode? bytes <;> simp

theorem read_eq_error_iff :
    environment.read key = .error fault ↔ environment.Unreadable key fault := by
  rw [read]
  constructor
  · intro failed
    split at failed
    · rename_i absent
      cases failed
      exact .unset absent
    · rename_i bytes present
      split at failed
      · rename_i undecoded
        cases failed
        exact .notText present (Text.Utf8.decode?_eq_none_iff.mp undecoded)
      · cases failed
  · intro unreadable
    cases unreadable with
    | unset absent => rw [absent]
    | notText present foreign =>
        rw [present]
        dsimp only
        rw [Text.Utf8.decode?_eq_none_iff.mpr foreign]

theorem readD_eq_iff {fallback : String} :
    environment.readD key fallback = text ↔ environment.Supplies key fallback text := by
  rw [readD]
  constructor
  · rintro rfl
    cases found : environment.read key with
    | ok text => exact .held (read_eq_ok_iff.mp found)
    | error fault => exact .fallback (read_eq_error_iff.mp found)
  · intro supplies
    cases supplies with
    | held holds => rw [read_eq_ok_iff.mpr holds]
    | fallback unreadable => rw [read_eq_error_iff.mpr unreadable]

theorem Holds.not_unreadable (holds : environment.Holds key text) :
    ¬ environment.Unreadable key fault := by
  intro unreadable
  cases (read_eq_ok_iff.mpr holds).symm.trans (read_eq_error_iff.mpr unreadable)

theorem read_congr (same : other key = environment key) :
    other.read key = environment.read key := by
  rw [read, read, same]

theorem readD_congr {fallback : String} (same : other key = environment key) :
    other.readD key fallback = environment.readD key fallback := by
  rw [readD, readD, read_congr same]

theorem Holds.congr (same : other key = environment key) (holds : environment.Holds key text) :
    other.Holds key text :=
  same.trans holds

theorem Unreadable.congr (same : other key = environment key)
    (unreadable : environment.Unreadable key fault) : other.Unreadable key fault :=
  read_eq_error_iff.mp ((read_congr same).trans (read_eq_error_iff.mpr unreadable))

end Environment

namespace Config

/-- The credentials, which have no defaults. -/
def required : List String :=
  [usernameVariable, passwordVariable]

/-- The variables that can make the reading fail, in the order in which they are judged. -/
def judged : List String :=
  urlVariable :: required

def consulted : List String :=
  judged ++ [eauthVariable]

/-- What is wrong with a variable, whatever the others hold. -/
inductive Offends (domains : Url.Domains) (environment : Environment) :
    String → ConfigError → Prop where
  | address {text : String} {fault : Url.Fault} (holds : environment.Holds urlVariable text)
      (bad : Url.parse domains text = .error fault) :
      Offends domains environment urlVariable (.badUrl text fault)
  | credential {key : String} {fault : Environment.ReadFault} (needed : key ∈ required)
      (unreadable : environment.Unreadable key fault) :
      Offends domains environment key (.unreadable key fault)

/-- Of `keys` the ones before `key` are fine, and `key` is not. -/
structure FirstOffence (domains : Url.Domains) (environment : Environment)
    (keys before : List String) (key : String) (error : ConfigError) : Prop where
  order : before ++ [key] <+: keys
  clear : ∀ earlier ∈ before, ∀ other, ¬ Offends domains environment earlier other
  offends : Offends domains environment key error

/-- The configuration that the variables describe. -/
structure Found (domains : Url.Domains) (environment : Environment) (config : Config) : Prop where
  url : ∃ address, environment.Supplies urlVariable defaultUrl address ∧
    Url.parse domains address = .ok config.url
  username : environment.Holds usernameVariable config.username
  password : environment.Holds passwordVariable config.password
  eauth : environment.Supplies eauthVariable defaultEauth config.eauth
  others : config.ignoreSsl = false ∧ config.timeout = defaultTimeout ∧
    config.pollInterval = defaultPollInterval

end Config

/-- The first word between quotes in the message of an error. -/
def ConfigError.Names (error : ConfigError) (key : String) : Prop :=
  ∃ opening rest, error.message = opening ++ "'" ++ key ++ "'" ++ rest ∧
    '\x27' ∉ opening.toList

namespace Config

variable {domains : Url.Domains} {environment other : Environment} {keys before : List String}
  {key : String} {error : ConfigError}

/-! ## Offences -/

theorem offends_url_iff :
    Offends domains environment urlVariable error ↔ ∃ text fault, error = .badUrl text fault ∧
      environment.Holds urlVariable text ∧ Url.parse domains text = .error fault := by
  constructor
  · intro offends
    generalize same : urlVariable = key at offends
    cases offends with
    | address holds bad => exact ⟨_, _, rfl, holds, bad⟩
    | credential needed unreadable =>
        subst same
        exact absurd needed (by decide)
  · rintro ⟨text, fault, rfl, holds, bad⟩
    exact .address holds bad

theorem offends_required_iff (needed : key ∈ required) :
    Offends domains environment key error ↔
      ∃ fault, error = .unreadable key fault ∧ environment.Unreadable key fault := by
  constructor
  · intro offends
    cases offends with
    | address holds bad => exact absurd needed (by decide)
    | credential needed unreadable => exact ⟨_, rfl, unreadable⟩
  · rintro ⟨fault, rfl, unreadable⟩
    exact .credential needed unreadable

theorem names_of_offends (offends : Offends domains environment key error) : error.Names key := by
  cases offends with
  | @address text fault holds bad =>
      refine ⟨"Unable to parse ", " from '" ++ text ++ "': " ++ fault.message, ?_, by simp⟩
      change "Unable to parse '" ++ urlVariable ++ "' from '" ++ text ++ "': " ++ fault.message = _
      simp [String.ext_iff, String.toList_append]
  | @credential key fault needed unreadable =>
      refine ⟨"Unable to read environment variable ", ": " ++ fault.message, ?_, by simp⟩
      change "Unable to read environment variable '" ++ key ++ "': " ++ fault.message = _
      simp [String.ext_iff, String.toList_append]

theorem Offends.congr (same : other key = environment key)
    (offends : Offends domains environment key error) : Offends domains other key error := by
  cases offends with
  | address holds bad => exact .address (holds.congr same) bad
  | credential needed unreadable => exact .credential needed (unreadable.congr same)

/-- Only the variables up to the one that offends matter. -/
theorem FirstOffence.congr (agree : ∀ near ∈ before ++ [key], other near = environment near)
    (first : FirstOffence domains environment keys before key error) :
    FirstOffence domains other keys before key error where
  order := first.order
  clear := by
    intro earlier member fault offends
    have same : environment earlier = other earlier :=
      (agree earlier (List.mem_append_left _ member)).symm
    exact first.clear earlier member fault (offends.congr same)
  offends := first.offends.congr (agree key (by simp))

theorem firstOffence_or_clear (domains : Url.Domains) (environment : Environment)
    (keys : List String) :
    (∃ before key error, FirstOffence domains environment keys before key error) ∨
      ∀ key ∈ keys, ∀ error, ¬ Offends domains environment key error := by
  induction keys with
  | nil => exact .inr (by simp)
  | cons first rest ih =>
      by_cases offended : ∃ error, Offends domains environment first error
      · obtain ⟨error, offends⟩ := offended
        exact .inl ⟨[], first, error, by simp, by simp, offends⟩
      · have clear := not_exists.mp offended
        rcases ih with ⟨before, key, error, found⟩ | fine
        · exact .inl ⟨first :: before, key, error, by simpa using found.order,
            List.forall_mem_cons.mpr ⟨clear, found.clear⟩, found.offends⟩
        · exact .inr (List.forall_mem_cons.mpr ⟨clear, fine⟩)

/-- What the default is the address of. -/
def localService : Url :=
  ⟨"https", "", none, some (.name "localhost"), some 8000, .segments [""], none, none⟩

theorem parseAuthority_localhost (domains : Url.Domains) (body : Url.Body) :
    Url.parseAuthority domains "https" (.network 443) body "localhost:8000".toList =
      .ok localService := by
  have first : "localhost:8000".toList.takeWhile
      (fun char => !(Url.SchemeKind.network 443).isSlash char) = "localhost:8000".toList := by
    decide
  have behind : "localhost:8000".toList.dropWhile
      (fun char => !(Url.SchemeKind.network 443).isSlash char) = [] := by decide
  have anonymous : Url.cutAtLastAt? "localhost:8000".toList = none := by decide
  have sides : Url.cutHost false "localhost:8000".toList =
      ("localhost".toList, ":8000".toList) := by decide
  have plain : Url.Domain.isPlain "localhost".toList = true := by decide
  have host : (Url.SchemeKind.network 443).parseHost domains "localhost".toList =
      .ok (.name "localhost") :=
    Url.SchemeKind.parseHost_of_isPlain domains rfl plain (by decide) (by decide)
  have port : Url.parsePortPart (Url.SchemeKind.network 443).standardPort ":8000".toList =
      .ok (some 8000, []) := by rfl
  have root : Url.pathAfterHost (.network 443) [] = .segments [""] := by decide
  rw [Url.parseAuthority_of_parseHost body first behind anonymous sides host rfl port,
    List.append_nil, root]
  rfl

theorem parse_defaultUrl (domains : Url.Domains) :
    Url.parse domains defaultUrl = .ok localService := by
  have cut : Url.cutScheme? (Text.trim Text.isControlOrSpace defaultUrl.toList) =
      some ("https", "//localhost:8000".toList) := by cbv
  have scheme : Url.schemeKind "https" = .network 443 := by decide
  have hierarchy : (Text.withoutTabsAndBreaks
      (Url.Body.ofChars "//localhost:8000".toList).hierarchy).dropWhile
        (Url.SchemeKind.network 443).isSlash = "localhost:8000".toList := by decide
  rw [Url.parse, cut]
  dsimp only
  rw [Url.parseBody, scheme]
  dsimp only
  rw [hierarchy, parseAuthority_localhost]
  rfl

theorem exists_url_of_clear (clear : ∀ error, ¬ Offends domains environment urlVariable error) :
    ∃ url, Url.parse domains (environment.readD urlVariable defaultUrl) = .ok url := by
  have supplies : environment.Supplies urlVariable defaultUrl
      (environment.readD urlVariable defaultUrl) := Environment.readD_eq_iff.mp rfl
  cases parsed : Url.parse domains (environment.readD urlVariable defaultUrl) with
  | ok url => exact ⟨url, rfl⟩
  | error fault =>
      generalize environment.readD urlVariable defaultUrl = address at supplies parsed
      cases supplies with
      | held holds => exact absurd (.address holds parsed) (clear _)
      | fallback unreadable =>
          -- The default is an address, so a variable that cannot be read is no offence.
          cases (parse_defaultUrl domains).symm.trans parsed

theorem exists_text_of_clear (needed : key ∈ required)
    (clear : ∀ error, ¬ Offends domains environment key error) :
    ∃ text, environment.Holds key text := by
  cases found : environment.read key with
  | ok text => exact ⟨text, Environment.read_eq_ok_iff.mp found⟩
  | error fault =>
      exact absurd (.credential needed (Environment.read_eq_error_iff.mp found)) (clear _)

/-! ## What the reading comes to -/

theorem firstOffence_cases (first : FirstOffence domains environment judged before key error) :
    (before = [] ∧ key = urlVariable) ∨ (before = [urlVariable] ∧ key = usernameVariable) ∨
      (before = [urlVariable, usernameVariable] ∧ key = passwordVariable) := by
  obtain ⟨after, split⟩ := first.order
  rcases before with _ | ⟨near, _ | ⟨middle, _ | ⟨far, more⟩⟩⟩
  all_goals simp_all [judged, required]

theorem ofEnvironment_of_firstOffence
    (first : FirstOffence domains environment judged before key error) :
    ofEnvironment domains environment = .error error := by
  rcases firstOffence_cases first with ⟨rfl, rfl⟩ | ⟨rfl, rfl⟩ | ⟨rfl, rfl⟩
  · obtain ⟨text, fault, rfl, holds, bad⟩ := offends_url_iff.mp first.offends
    rw [ofEnvironment, Environment.readD_eq_iff.mpr (.held holds)]
    dsimp only
    rw [bad]
  · obtain ⟨url, parsed⟩ := exists_url_of_clear (first.clear _ (by simp))
    obtain ⟨fault, rfl, unreadable⟩ := (offends_required_iff (by decide)).mp first.offends
    rw [ofEnvironment]
    dsimp only
    rw [parsed, Environment.read_eq_error_iff.mpr unreadable]
  · obtain ⟨url, parsed⟩ := exists_url_of_clear (first.clear _ (by simp))
    obtain ⟨username, holds⟩ :=
      exists_text_of_clear (by decide) (first.clear usernameVariable (by simp))
    obtain ⟨fault, rfl, unreadable⟩ := (offends_required_iff (by decide)).mp first.offends
    rw [ofEnvironment]
    dsimp only
    rw [parsed, Environment.read_eq_ok_iff.mpr holds]
    dsimp only
    rw [Environment.read_eq_error_iff.mpr unreadable]

theorem ofEnvironment_of_found {config : Config} (found : Found domains environment config) :
    ofEnvironment domains environment = .ok config := by
  obtain ⟨address, supplies, parsed⟩ := found.url
  rw [ofEnvironment, Environment.readD_eq_iff.mpr supplies,
    Environment.readD_eq_iff.mpr found.eauth]
  dsimp only
  rw [parsed, Environment.read_eq_ok_iff.mpr found.username,
    Environment.read_eq_ok_iff.mpr found.password]
  obtain ⟨unverified, timeout, pollInterval⟩ := found.others
  change Except.ok ⟨config.url, config.username, config.password, config.eauth, false,
    defaultTimeout, defaultPollInterval⟩ = Except.ok config
  rw [← unverified, ← timeout, ← pollInterval]

theorem firstOffence_or_found (domains : Url.Domains) (environment : Environment) :
    (∃ before key error, FirstOffence domains environment judged before key error) ∨
      ∃ config, Found domains environment config := by
  rcases firstOffence_or_clear domains environment judged with first | clear
  · exact .inl first
  · obtain ⟨url, parsed⟩ := exists_url_of_clear (clear _ (by decide))
    obtain ⟨username, named⟩ :=
      exists_text_of_clear (by decide) (clear usernameVariable (by decide))
    obtain ⟨password, keyed⟩ :=
      exists_text_of_clear (by decide) (clear passwordVariable (by decide))
    exact .inr ⟨{ make url username password with
        eauth := environment.readD eauthVariable defaultEauth },
      ⟨_, Environment.readD_eq_iff.mp rfl, parsed⟩, named, keyed,
      Environment.readD_eq_iff.mp rfl, rfl, rfl, rfl⟩

theorem ofEnvironment_eq_error_iff :
    ofEnvironment domains environment = .error error ↔
      ∃ before key, FirstOffence domains environment judged before key error := by
  constructor
  · intro failed
    rcases firstOffence_or_found domains environment with
      ⟨before, key, other, first⟩ | ⟨config, found⟩
    · cases (ofEnvironment_of_firstOffence first).symm.trans failed
      exact ⟨before, key, first⟩
    · cases (ofEnvironment_of_found found).symm.trans failed
  · rintro ⟨before, key, first⟩
    exact ofEnvironment_of_firstOffence first

theorem ofEnvironment_eq_ok_iff {config : Config} :
    ofEnvironment domains environment = .ok config ↔ Found domains environment config := by
  constructor
  · intro read
    rcases firstOffence_or_found domains environment with
      ⟨before, key, error, first⟩ | ⟨other, found⟩
    · cases (ofEnvironment_of_firstOffence first).symm.trans read
    · cases (ofEnvironment_of_found found).symm.trans read
      exact found
  · exact ofEnvironment_of_found

/-- The backend is never a reason to fail, nor are default values. -/
theorem exists_error_iff :
    (∃ error, ofEnvironment domains environment = .error error) ↔
      (∃ text fault, environment.Holds urlVariable text ∧ Url.parse domains text = .error fault) ∨
        (∃ fault, environment.Unreadable usernameVariable fault) ∨
        ∃ fault, environment.Unreadable passwordVariable fault := by
  constructor
  · rintro ⟨error, failed⟩
    obtain ⟨before, key, first⟩ := ofEnvironment_eq_error_iff.mp failed
    rcases firstOffence_cases first with ⟨-, rfl⟩ | ⟨-, rfl⟩ | ⟨-, rfl⟩
    · obtain ⟨text, fault, -, offence⟩ := offends_url_iff.mp first.offends
      exact .inl ⟨text, fault, offence⟩
    · obtain ⟨fault, -, unreadable⟩ := (offends_required_iff (by decide)).mp first.offends
      exact .inr (.inl ⟨fault, unreadable⟩)
    · obtain ⟨fault, -, unreadable⟩ := (offends_required_iff (by decide)).mp first.offends
      exact .inr (.inr ⟨fault, unreadable⟩)
  · intro offence
    cases read : ofEnvironment domains environment with
    | error error => exact ⟨error, rfl⟩
    | ok config =>
        have found := ofEnvironment_eq_ok_iff.mp read
        rcases offence with ⟨text, fault, holds, bad⟩ | ⟨fault, unreadable⟩ | ⟨fault, unreadable⟩
        · obtain ⟨address, supplies, parsed⟩ := found.url
          have same : address = text :=
            (Environment.readD_eq_iff.mpr supplies).symm.trans
              (Environment.readD_eq_iff.mpr (.held holds))
          rw [same, bad] at parsed
          cases parsed
        · exact absurd unreadable found.username.not_unreadable
        · exact absurd unreadable found.password.not_unreadable

theorem ofEnvironment_error_congr (agree : ∀ key ∈ judged, other key = environment key)
    (failed : ofEnvironment domains environment = .error error) :
    ofEnvironment domains other = .error error := by
  obtain ⟨before, key, first⟩ := ofEnvironment_eq_error_iff.mp failed
  refine ofEnvironment_of_firstOffence (first.congr ?_)
  intro near member
  exact agree near (first.order.subset member)

theorem ofEnvironment_congr (agree : ∀ key ∈ consulted, other key = environment key) :
    ofEnvironment domains other = ofEnvironment domains environment := by
  have url := agree urlVariable (by decide)
  have username := agree usernameVariable (by decide)
  have password := agree passwordVariable (by decide)
  have eauth := agree eauthVariable (by decide)
  simp only [ofEnvironment, Environment.readD_congr url, Environment.read_congr username,
    Environment.read_congr password, Environment.readD_congr eauth]

/--
The reading fails just if the address is a text that is no address, or a credential cannot be
read. The first offender decides the error, which names it, whatever other variables hold.
Otherwise the configuration that the variables describe is found. The authentication backend
makes no difference to failures, and other variables make none at all. All this holds in
whatever way names of hosts are brought to ASCII; that plain names are kept is needed only
for the default to be an address.
-/
theorem variables_decide_configuration (domains : Url.Domains) (environment : Environment) :
    ((∃ error, ofEnvironment domains environment = .error error) ↔
      (∃ text fault, environment.Holds urlVariable text ∧ Url.parse domains text = .error fault) ∨
        (∃ fault, environment.Unreadable usernameVariable fault) ∨
        ∃ fault, environment.Unreadable passwordVariable fault) ∧
    (∀ error, ofEnvironment domains environment = .error error ↔
      ∃ before key, FirstOffence domains environment judged before key error) ∧
    (∀ before key error, FirstOffence domains environment judged before key error →
      error.Names key ∧
        ∀ other : Environment, (∀ near ∈ before ++ [key], other near = environment near) →
          ofEnvironment domains other = .error error) ∧
    (∀ config, ofEnvironment domains environment = .ok config ↔ Found domains environment config) ∧
    (∀ other : Environment, (∀ key ∈ judged, other key = environment key) →
      ∀ error, ofEnvironment domains other = .error error ↔
        ofEnvironment domains environment = .error error) ∧
    ∀ other : Environment, (∀ key ∈ consulted, other key = environment key) →
      ofEnvironment domains other = ofEnvironment domains environment := by
  refine ⟨exists_error_iff, fun error => ofEnvironment_eq_error_iff, ?_,
    fun config => ofEnvironment_eq_ok_iff, ?_, fun other agree => ofEnvironment_congr agree⟩
  · intro before key error first
    refine ⟨names_of_offends first.offends, ?_⟩
    intro other agree
    exact ofEnvironment_of_firstOffence (first.congr agree)
  · intro other agree error
    have back : ∀ key ∈ judged, environment key = other key :=
      fun key member => (agree key member).symm
    exact ⟨ofEnvironment_error_congr back, ofEnvironment_error_congr agree⟩

namespace Mixed

/-- Bytes that are no text. -/
def noise : List UInt8 :=
  [0x73, 0xFF]

/-- The address is none, and neither credential can be read. -/
def hopeless : Environment := fun key =>
  if key = urlVariable then some (Text.Utf8.encode "not a url")
  else if key = passwordVariable then some noise
  else none

/-- Nothing but the credentials can be read, one of which is empty. -/
def sparse : Environment := fun key =>
  if key = usernameVariable then some (Text.Utf8.encode "")
  else if key = passwordVariable then some (Text.Utf8.encode "hunter2")
  else some noise

theorem unreadable_noise {key : String} (other : key ≠ usernameVariable)
    (another : key ≠ passwordVariable) : sparse.Unreadable key (.notText noise) := by
  have undecoded : Text.Utf8.decode? noise = none := by decide
  refine .notText ?_ (Text.Utf8.decode?_eq_none_iff.mp undecoded)
  rw [sparse, if_neg other, if_neg another]

/-- Only the address is set, and its host lies beyond ASCII. -/
def abroad : Environment := fun key =>
  if key = urlVariable then some (Text.Utf8.encode "https://münchen.example:8000") else none

theorem not_offends_abroad (error : ConfigError) :
    ¬ Offends .withMunich abroad urlVariable error := by
  intro offends
  obtain ⟨text, fault, -, holds, bad⟩ := offends_url_iff.mp offends
  have address : abroad.Holds urlVariable "https://münchen.example:8000" := rfl
  have parsed : Url.parse .withMunich "https://münchen.example:8000" =
      .ok { localService with host := some (.name "xn--mnchen-3ya.example") } := by cbv
  cases (Environment.read_eq_ok_iff.mpr holds).symm.trans (Environment.read_eq_ok_iff.mpr address)
  cases bad.symm.trans parsed

/--
An address that is none is found before credentials are missed, and noise is passed over. A
host beyond ASCII is no fault, so that the credentials are missed behind it.
-/
theorem reading_mixed :
    FirstOffence .ascii hopeless judged [] urlVariable (.badUrl "not a url" .noScheme) ∧
      ofEnvironment .ascii hopeless = .error (.badUrl "not a url" .noScheme) ∧
      Found .ascii sparse (make localService "" "hunter2") ∧
      ofEnvironment .ascii sparse = .ok (make localService "" "hunter2") ∧
      ofEnvironment .withMunich abroad = .error (.unreadable usernameVariable .unset) := by
  have first : FirstOffence .ascii hopeless judged [] urlVariable (.badUrl "not a url" .noScheme) :=
    ⟨by decide, by simp, .address rfl (by cbv)⟩
  have found : Found .ascii sparse (make localService "" "hunter2") :=
    { url := ⟨defaultUrl, .fallback (unreadable_noise (by decide) (by decide)),
        parse_defaultUrl .ascii⟩
      username := rfl
      password := rfl
      eauth := .fallback (unreadable_noise (by decide) (by decide))
      others := ⟨rfl, rfl, rfl⟩ }
  have missing : FirstOffence .withMunich abroad judged [urlVariable] usernameVariable
      (.unreadable usernameVariable .unset) :=
    ⟨by decide, by simpa using not_offends_abroad, .credential (by decide) (.unset rfl)⟩
  obtain ⟨-, fails_iff, -⟩ := variables_decide_configuration .ascii hopeless
  obtain ⟨-, -, -, reads_iff, -⟩ := variables_decide_configuration .ascii sparse
  obtain ⟨-, misses_iff, -⟩ := variables_decide_configuration .withMunich abroad
  exact ⟨first, (fails_iff _).mpr ⟨[], urlVariable, first⟩, found, (reads_iff _).mpr found,
    (misses_iff _).mpr ⟨[urlVariable], usernameVariable, missing⟩⟩

end Mixed

end Config

end PillarLookup
