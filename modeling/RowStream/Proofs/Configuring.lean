import RowStream.Proofs.Numerals
import RowStream.Proofs.Serving

/-!
# What an environment configures

Every variable has values that it admits.  The settings can be read if and only if each variable
that is set has such a value, and else the first one that has not is reported with its value as it
stands.  Each field of the settings comes from its own variable (`adopt`).  The server comes from
two: the port file and what it holds count only while no server is named, and whatever it holds
there is a port to go by.
-/

set_option autoImplicit false

namespace RowStream

def Variable.Admits : Variable → String → Prop
  | .serverUrl, raw => ∃ url, Url.parse (Text.trim raw) = .ok url
  | .portFile, _ => True
  | .maxLineBytes, raw => ∃ value, Numeral (Text.trim raw).toList value ∧ value < Nat.pow 2 64
  | .connectTimeout, raw => ∃ value, Numeral (Text.trim raw).toList value ∧ value < Nat.pow 2 64
  | .requestTimeout, raw => ∃ value, Numeral (Text.trim raw).toList value ∧ value < Nat.pow 2 64
  | .logDirectory, _ => True

def Variable.numeric : List Variable := [.maxLineBytes, .connectTimeout, .requestTimeout]

theorem Variable.admits_numeric {name : Variable} (isNumeric : name ∈ numeric) (raw : String) :
    name.Admits raw ↔ ∃ value, readNatural (Nat.pow 2 64) (Text.trim raw) = .ok value := by
  have positive : 0 < Nat.pow 2 64 := by decide
  have numeral_iff := readNatural_eq_ok_iff positive (Text.trim raw)
  simp only [numeric, List.mem_cons, List.not_mem_nil, or_false] at isNumeric
  rcases isNumeric with rfl | rfl | rfl <;> exact exists_congr fun value => (numeral_iff value).symm

namespace Environment

def set (environment : Environment) (name : Variable) (value : Option String) : Environment :=
  { environment with
    value? := fun other => if other = name then value else environment.value? other }

def withFiles (environment : Environment) (files : String → Option Bytes) : Environment :=
  { environment with file? := files }

def portFile? (environment : Environment) : Option Bytes :=
  environment.file? ((environment.value? .portFile).getD defaultPortFile)

def Settable (environment : Environment) (name : Variable) : Prop :=
  ∀ raw, environment.value? name = some raw → name.Admits raw

theorem value?_set_of_ne (environment : Environment) {name other : Variable}
    (different : other ≠ name) (value : Option String) :
    (environment.set name value).value? other = environment.value? other :=
  if_neg different

end Environment

/-! ## The port file -/

def DenotesPort (contents : Option Bytes) (port : Nat) : Prop :=
  ∃ text, contents.bind Bytes.toText? = some text ∧ Numeral (Text.trim text).toList port ∧
    port < Nat.pow 2 16

theorem portOfFile_of_denotes {contents : Option Bytes} {port : Nat}
    (denotes : DenotesPort contents port) : portOfFile contents = UInt16.ofNat port := by
  obtain ⟨text, text_eq, numeral⟩ := denotes
  have positive : 0 < 65536 := by decide
  have read := (readNatural_eq_ok_iff positive _ port).mpr numeral
  simp only [portOfFile, text_eq, Option.map_some]
  rw [read]

theorem portOfFile_of_silent {contents : Option Bytes}
    (silent : ∀ port, ¬ DenotesPort contents port) : portOfFile contents = fallbackPort := by
  unfold portOfFile
  cases text_eq : contents.bind Bytes.toText? with
  | none => rfl
  | some text =>
      cases read : readNatural 65536 (Text.trim text) with
      | error error => simp [read]
      | ok port =>
          have numeral := (readNatural_eq_ok_iff (by decide) _ port).mp read
          exact absurd ⟨text, text_eq, numeral⟩ (silent port)

namespace Settings

open Url.Parse (ok_of_bind)
open Environment (Settable)

/-! ## One variable -/

/-- A variable was looked at: it can be had and the result fits, or its value is refused. -/
inductive Checked (environment : Environment) (name : Variable) {α : Type} (Fits : α → Prop) :
    Except SettingsError α → Prop where
  | ok (value : α) (settable : environment.Settable name) (fits : Fits value) :
      Checked environment name Fits (.ok value)
  | error (error : SettingsError) (raw : String) (isSet : environment.value? name = some raw)
      (refused : ¬ name.Admits raw) (message_eq : error.message = SettingsError.invalid name raw) :
      Checked environment name Fits (.error error)

def NamesServer (environment : Environment) (url : Url) : Prop :=
  (∀ raw, environment.value? .serverUrl = some raw → Url.parse (Text.trim raw) = .ok url) ∧
    (environment.value? .serverUrl = none →
      (∀ port, DenotesPort environment.portFile? port → url = loopbackUrl (UInt16.ofNat port)) ∧
      ((∀ port, ¬ DenotesPort environment.portFile? port) → url = loopbackUrl 8080))

def HoldsNumber (environment : Environment) (name : Variable) (number : Option Nat) : Prop :=
  (∀ raw, environment.value? name = some raw →
      ∃ value, number = some value ∧ Numeral (Text.trim raw).toList value) ∧
    (environment.value? name = none → number = none)

theorem checked_serverUrlOf (environment : Environment) :
    Checked environment .serverUrl (NamesServer environment) (serverUrlOf environment) := by
  cases value_eq : environment.value? .serverUrl with
  | some raw =>
      cases parsed : Url.parse (Text.trim raw) with
      | error cause =>
          have refused : serverUrlOf environment = .error (.invalidUrl raw cause) := by
            simp only [serverUrlOf, value_eq, parsed]
            rfl
          rw [refused]
          refine .error _ raw value_eq ?_ rfl
          rintro ⟨url, read⟩
          cases parsed.symm.trans read
      | ok url =>
          have named : serverUrlOf environment = .ok url := by
            simp only [serverUrlOf, value_eq, parsed]
            rfl
          rw [named]
          refine .ok url ?_ ?_
          · simp [Settable, value_eq, Variable.Admits, parsed]
          · simp [NamesServer, value_eq, parsed]
  | none =>
      have expected : serverUrlOf environment =
          .ok (loopbackUrl (portOfFile environment.portFile?)) := by
        simp [serverUrlOf, value_eq, Environment.portFile?]
      rw [expected]
      refine .ok _ (by simp [Settable, value_eq]) ⟨by simp [value_eq], fun _ => ⟨?_, ?_⟩⟩
      · intro port denotes
        rw [portOfFile_of_denotes denotes]
      · intro silent
        rw [portOfFile_of_silent silent]
        rfl

theorem checked_numberOf (environment : Environment) {name : Variable}
    (isNumeric : name ∈ Variable.numeric) :
    Checked environment name (HoldsNumber environment name) (numberOf environment name) := by
  cases value_eq : environment.value? name with
  | none =>
      have unset : numberOf environment name = .ok none := by simp [numberOf, value_eq]
      rw [unset]
      refine .ok none ?_ ?_
      · simp [Settable, value_eq]
      · simp [HoldsNumber, value_eq]
  | some raw =>
      have admits_iff := Variable.admits_numeric isNumeric raw
      cases read : readNatural (Nat.pow 2 64) (Text.trim raw) with
      | error cause =>
          have refused : numberOf environment name = .error (.invalidNumber name raw cause) := by
            simp only [numberOf, value_eq, read]
            rfl
          rw [refused]
          refine .error _ raw value_eq ?_ rfl
          rw [admits_iff, read]
          rintro ⟨value, same⟩
          cases same
      | ok value =>
          have held : numberOf environment name = .ok (some value) := by
            simp only [numberOf, value_eq, read]
            rfl
          have positive : 0 < Nat.pow 2 64 := by decide
          have numeral := ((readNatural_eq_ok_iff positive _ value).mp read).1
          rw [held]
          refine .ok (some value) ?_ ?_
          · simpa [Settable, value_eq] using admits_iff.mpr ⟨value, read⟩
          · simpa [HoldsNumber, value_eq] using numeral

/-! ## All variables -/

/-- The settings with the field of one variable taken from others. -/
def adopt (settings other : Settings) : Variable → Settings
  | .serverUrl => { settings with serverUrl := other.serverUrl }
  | .portFile => { settings with serverUrl := other.serverUrl }
  | .maxLineBytes => { settings with lineLimit := other.lineLimit }
  | .connectTimeout => { settings with connectTimeout := other.connectTimeout }
  | .requestTimeout => { settings with requestTimeout := other.requestTimeout }
  | .logDirectory => { settings with logDirectory := other.logDirectory }

structure Reflects (environment : Environment) (settings : Settings) : Prop where
  server : NamesServer environment settings.serverUrl
  lineLimit : ∃ number, HoldsNumber environment .maxLineBytes number ∧
    settings.lineLimit = number.getD 16777216
  connectTimeout : ∃ number, HoldsNumber environment .connectTimeout number ∧
    settings.connectTimeout = number.getD 10
  /-- Zero means that there is none. -/
  requestTimeout : ∃ number, HoldsNumber environment .requestTimeout number ∧
    settings.requestTimeout = if number = some 0 then none else number
  logDirectory : settings.logDirectory = environment.value? .logDirectory

def FirstRefused (environment : Environment) (name : Variable) (raw : String) : Prop :=
  environment.value? name = some raw ∧ ¬ name.Admits raw ∧
    ∃ before after, Variable.all = before ++ name :: after ∧
      ∀ earlier ∈ before, environment.Settable earlier

def assemble (environment : Environment) (serverUrl : Url)
    (lineLimit connectTimeout requestTimeout : Option Nat) : Settings :=
  { serverUrl
    lineLimit := lineLimit.getD default.lineLimit
    connectTimeout := connectTimeout.getD default.connectTimeout
    requestTimeout := requestTimeout.filter (0 < ·)
    logDirectory := environment.value? .logDirectory }

theorem read_eq_ok_iff (environment : Environment) (settings : Settings) :
    read environment = .ok settings ↔ ∃ serverUrl lineLimit connectTimeout requestTimeout,
      serverUrlOf environment = .ok serverUrl ∧
      numberOf environment .maxLineBytes = .ok lineLimit ∧
      numberOf environment .connectTimeout = .ok connectTimeout ∧
      numberOf environment .requestTimeout = .ok requestTimeout ∧
      settings = assemble environment serverUrl lineLimit connectTimeout requestTimeout := by
  constructor
  · intro configured
    obtain ⟨serverUrl, server_eq, configured⟩ := ok_of_bind configured
    obtain ⟨lineLimit, limit_eq, configured⟩ := ok_of_bind configured
    obtain ⟨connectTimeout, connect_eq, configured⟩ := ok_of_bind configured
    obtain ⟨requestTimeout, request_eq, configured⟩ := ok_of_bind configured
    exact ⟨serverUrl, lineLimit, connectTimeout, requestTimeout, server_eq, limit_eq, connect_eq,
      request_eq, (Except.ok.inj configured).symm⟩
  · rintro ⟨serverUrl, lineLimit, connectTimeout, requestTimeout, server_eq, limit_eq, connect_eq,
      request_eq, rfl⟩
    simp only [read, server_eq, limit_eq, connect_eq, request_eq, bind, Except.bind]
    rfl

inductive Configured (environment : Environment) : Except SettingsError Settings → Prop where
  | ok (settings : Settings) (settable : ∀ name, environment.Settable name)
      (reflects : Reflects environment settings) : Configured environment (.ok settings)
  | error (error : SettingsError) (name : Variable) (raw : String)
      (refused : FirstRefused environment name raw)
      (message_eq : error.message = SettingsError.invalid name raw) :
      Configured environment (.error error)

theorem settable_portFile (environment : Environment) : environment.Settable .portFile :=
  fun _ _ => trivial

theorem settable_logDirectory (environment : Environment) : environment.Settable .logDirectory :=
  fun _ _ => trivial

theorem configured_read (environment : Environment) :
    Configured environment (read environment) := by
  have server := checked_serverUrlOf environment
  have limit := checked_numberOf environment (by decide : Variable.maxLineBytes ∈ _)
  have connect := checked_numberOf environment (by decide : Variable.connectTimeout ∈ _)
  have request := checked_numberOf environment (by decide : Variable.requestTimeout ∈ _)
  unfold read
  -- The variables are looked at in their order, and the first refusal is the result.
  generalize serverUrlOf environment = server? at server
  cases server with
  | error error raw isSet refused message_eq =>
      exact .error error _ raw ⟨isSet, refused, [], _, rfl, by simp⟩ message_eq
  | ok url serverSettable names =>
  generalize numberOf environment .maxLineBytes = limit? at limit
  cases limit with
  | error error raw isSet refused message_eq =>
      refine .error error _ raw ⟨isSet, refused, [.serverUrl, .portFile], _, rfl, ?_⟩ message_eq
      simp [serverSettable, settable_portFile]
  | ok lineLimit limitSettable limitHeld =>
  generalize numberOf environment .connectTimeout = connect? at connect
  cases connect with
  | error error raw isSet refused message_eq =>
      refine .error error _ raw
        ⟨isSet, refused, [.serverUrl, .portFile, .maxLineBytes], _, rfl, ?_⟩ message_eq
      simp [serverSettable, settable_portFile, limitSettable]
  | ok connectTimeout connectSettable connectHeld =>
  generalize numberOf environment .requestTimeout = request? at request
  cases request with
  | error error raw isSet refused message_eq =>
      refine .error error _ raw
        ⟨isSet, refused, [.serverUrl, .portFile, .maxLineBytes, .connectTimeout], _, rfl, ?_⟩
        message_eq
      simp [serverSettable, settable_portFile, limitSettable, connectSettable]
  | ok requestTimeout requestSettable requestHeld =>
      refine .ok _ ?_ ⟨names, ⟨lineLimit, limitHeld, rfl⟩, ⟨connectTimeout, connectHeld, rfl⟩,
        ⟨requestTimeout, requestHeld, ?_⟩, rfl⟩
      · intro name
        cases name with
        | serverUrl => exact serverSettable
        | portFile => exact settable_portFile environment
        | maxLineBytes => exact limitSettable
        | connectTimeout => exact connectSettable
        | requestTimeout => exact requestSettable
        | logDirectory => exact settable_logDirectory environment
      · cases requestTimeout with
        | none => rfl
        | some seconds => cases seconds <;> rfl

/-! ## One variable changed -/

section

variable {environment : Environment} {name : Variable}

theorem serverUrlOf_set (notServer : name ≠ .serverUrl) (notFile : name ≠ .portFile)
    (value : Option String) :
    serverUrlOf (environment.set name value) = serverUrlOf environment := by
  simp only [serverUrlOf, environment.value?_set_of_ne notServer.symm,
    environment.value?_set_of_ne notFile.symm]
  rfl

theorem numberOf_set {other : Variable} (different : other ≠ name) (value : Option String) :
    numberOf (environment.set name value) other = numberOf environment other := by
  simp only [numberOf, environment.value?_set_of_ne different]

theorem eq_adopt_of_read_set {settings changed : Settings} {value : Option String}
    (configured : read environment = .ok settings)
    (configuredToo : read (environment.set name value) = .ok changed) :
    changed = settings.adopt changed name := by
  obtain ⟨url, limit, connect, request, url_eq, limit_eq, connect_eq, request_eq, rfl⟩ :=
    (read_eq_ok_iff _ _).mp configured
  obtain ⟨url', limit', connect', request', url_eq', limit_eq', connect_eq', request_eq', rfl⟩ :=
    (read_eq_ok_iff _ _).mp configuredToo
  have sameUrl : name ≠ .serverUrl → name ≠ .portFile → url' = url := by
    intro notServer notFile
    rw [serverUrlOf_set notServer notFile, url_eq] at url_eq'
    exact (Except.ok.inj url_eq').symm
  have sameLimit : .maxLineBytes ≠ name → limit' = limit := by
    intro different
    rw [numberOf_set different, limit_eq] at limit_eq'
    exact (Except.ok.inj limit_eq').symm
  have sameConnect : .connectTimeout ≠ name → connect' = connect := by
    intro different
    rw [numberOf_set different, connect_eq] at connect_eq'
    exact (Except.ok.inj connect_eq').symm
  have sameRequest : .requestTimeout ≠ name → request' = request := by
    intro different
    rw [numberOf_set different, request_eq] at request_eq'
    exact (Except.ok.inj request_eq').symm
  have sameDirectory : .logDirectory ≠ name →
      (environment.set name value).value? .logDirectory = environment.value? .logDirectory :=
    fun different => environment.value?_set_of_ne different value
  cases name <;> simp_all [adopt, assemble]

end

theorem read_of_named {environment : Environment} (named : environment.value? .serverUrl ≠ none)
    (files : String → Option Bytes) (path : Option String) :
    read ((environment.withFiles files).set .portFile path) = read environment := by
  have sameUrl : serverUrlOf ((environment.withFiles files).set .portFile path) =
      serverUrlOf environment := by
    obtain ⟨raw, isSet⟩ := Option.ne_none_iff_exists'.mp named
    have stillSet : ((environment.withFiles files).set .portFile path).value? .serverUrl =
        some raw := isSet
    simp only [serverUrlOf, isSet, stillSet]
  have sameNumber : ∀ other, other ≠ .portFile →
      numberOf ((environment.withFiles files).set .portFile path) other =
        numberOf environment other := fun _ different => numberOf_set different path
  simp only [read, sameUrl, sameNumber .maxLineBytes (by decide),
    sameNumber .connectTimeout (by decide), sameNumber .requestTimeout (by decide)]
  rfl

theorem exists_read_iff (environment : Environment) :
    (∃ settings, read environment = .ok settings) ↔ ∀ name, environment.Settable name := by
  have configured := configured_read environment
  generalize read environment = result at configured
  cases configured with
  | ok settings settable reflects => exact ⟨fun _ => settable, fun _ => ⟨settings, rfl⟩⟩
  | error error name raw refused message_eq =>
      constructor
      · rintro ⟨settings, same⟩
        cases same
      · intro settable
        exact absurd (settable name raw refused.1) refused.2.1

/-- Whether the settings of an environment can be read, what is reported when they cannot, and which
variable decides which field when they can.  What a port file holds makes no difference to the first
of these, and none at all when a server is named. -/
theorem read_by_variable (environment : Environment) :
    ((∃ settings, read environment = .ok settings) ↔ ∀ name, environment.Settable name) ∧
    (∀ error, read environment = .error error → ∃ name raw, FirstRefused environment name raw ∧
      error.message = "Invalid " ++ name.name ++ ": " ++ raw) ∧
    (∀ settings, read environment = .ok settings → Reflects environment settings ∧
      ∀ name value changed, read (environment.set name value) = .ok changed →
        changed = settings.adopt changed name) ∧
    (environment.value? .serverUrl ≠ none → ∀ files path,
      read ((environment.withFiles files).set .portFile path) = read environment) ∧
    ∀ files path,
      (∃ settings, read ((environment.withFiles files).set .portFile path) = .ok settings) ↔
        ∃ settings, read environment = .ok settings := by
  have configured := configured_read environment
  refine ⟨exists_read_iff environment, ?_, ?_, read_of_named, ?_⟩
  · intro error failed
    rw [failed] at configured
    cases configured with
    | error _ name raw refused message_eq => exact ⟨name, raw, refused, message_eq⟩
  · intro settings succeeded
    have reflected := configured
    rw [succeeded] at reflected
    cases reflected with
    | ok _ settable reflects =>
        exact ⟨reflects, fun _ _ _ changed => eq_adopt_of_read_set succeeded changed⟩
  · intro files path
    rw [exists_read_iff, exists_read_iff]
    refine forall_congr' fun name => ?_
    by_cases isFile : name = .portFile
    · subst isFile
      exact iff_of_true (settable_portFile _) (settable_portFile _)
    · rw [Settable, Environment.value?_set_of_ne _ isFile]
      rfl

example : portOfFile (some (Bytes.ofText " +065535\n")) = 65535 ∧
    portOfFile (some (Bytes.ofText "65536")) = fallbackPort := by
  decide +kernel

end Settings

end RowStream
