import RowStream.Decimal.Natural
import RowStream.Frame
import RowStream.Url.Parse

/-!
# Settings

What the program takes from its environment: where the server is, how long a line may be, how
long to wait.  The server is named by an explicit URL, else it listens on this machine at the
port that its port file holds, else at port 8080.  A variable that cannot be read is an error;
a port file that cannot be read is not.
-/

set_option autoImplicit false

namespace RowStream

inductive Variable where
  | serverUrl
  | portFile
  | maxLineBytes
  | connectTimeout
  | requestTimeout
  | logDirectory
  deriving DecidableEq, Repr

def Variable.all : List Variable :=
  [.serverUrl, .portFile, .maxLineBytes, .connectTimeout, .requestTimeout, .logDirectory]

def Variable.name : Variable → String
  | .serverUrl => "BANQUET_SERVER_URL"
  | .portFile => "BANQUET_PORT_FILE"
  | .maxLineBytes => "BANQUET_MAX_LINE_BYTES"
  | .connectTimeout => "BANQUET_CONNECT_TIMEOUT_SECS"
  | .requestTimeout => "BANQUET_REQUEST_TIMEOUT_SECS"
  | .logDirectory => "BANQUET_LOG_DIR"

structure Environment where
  value? : Variable → Option String
  file? : String → Option Bytes

def defaultPortFile : String := "/tmp/metalsqlite.port"

def fallbackPort : UInt16 := 8080

def loopbackUrl (port : UInt16) : Url :=
  { scheme := "http", username := "", password := ""
    host := some (.ipv6 [0, 0, 0, 0, 0, 0, 0, 1])
    port := if port = 80 then none else some port
    path := .segments [""], query := none, fragment := none }

/-- The port that a port file holds. -/
def portOfFile (contents : Option Bytes) : UInt16 :=
  match (contents.bind Bytes.toText?).map fun text => readNatural 65536 (Text.trim text) with
  | some (.ok port) => UInt16.ofNat port
  | _ => fallbackPort

inductive SettingsError where
  | invalidUrl (raw : String) (cause : UrlError)
  | invalidNumber (name : Variable) (raw : String) (cause : NumeralError)
  deriving DecidableEq, Repr

namespace SettingsError

def invalid (name : Variable) (raw : String) : String := "Invalid " ++ name.name ++ ": " ++ raw

def message : SettingsError → String
  | .invalidUrl raw _ => invalid .serverUrl raw
  | .invalidNumber name raw _ => invalid name raw

def cause : SettingsError → String
  | .invalidUrl _ cause => cause.message
  | .invalidNumber _ _ cause => cause.message

end SettingsError

structure Settings where
  serverUrl : Url
  lineLimit : Nat
  /-- In seconds. -/
  connectTimeout : Nat
  /-- In seconds; a request may take for ever when there is none. -/
  requestTimeout : Option Nat
  logDirectory : Option String
  deriving DecidableEq, Repr

namespace Settings

/-- The settings of an empty environment. -/
def default : Settings :=
  { serverUrl := loopbackUrl fallbackPort
    lineLimit := defaultLineLimit
    connectTimeout := 10
    requestTimeout := none
    logDirectory := none }

def serverUrlOf (environment : Environment) : Except SettingsError Url :=
  match environment.value? .serverUrl with
  | some raw => (Url.parse (Text.trim raw)).mapError (.invalidUrl raw)
  | none =>
      let path := (environment.value? .portFile).getD defaultPortFile
      .ok (loopbackUrl (portOfFile (environment.file? path)))

def numberOf (environment : Environment) (name : Variable) : Except SettingsError (Option Nat) :=
  match environment.value? name with
  | none => .ok none
  | some raw =>
      ((readNatural (Nat.pow 2 64) (Text.trim raw)).mapError (.invalidNumber name raw)).map some

/-- Reads the settings; of several variables that cannot be read the first one is reported. -/
def read (environment : Environment) : Except SettingsError Settings := do
  let serverUrl ← serverUrlOf environment
  let lineLimit ← numberOf environment .maxLineBytes
  let connectTimeout ← numberOf environment .connectTimeout
  let requestTimeout ← numberOf environment .requestTimeout
  return {
    serverUrl
    lineLimit := lineLimit.getD default.lineLimit
    connectTimeout := connectTimeout.getD default.connectTimeout
    requestTimeout := requestTimeout.filter (0 < ·)
    logDirectory := environment.value? .logDirectory }

end Settings

end RowStream
