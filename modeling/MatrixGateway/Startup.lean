import MatrixGateway.Flags
import MatrixGateway.Media
import MatrixGateway.Net.Admission
import MatrixGateway.SettingsFile
import MatrixGateway.Transport.Overlay

/-!
# Startup

Flags and file make the settings; settings, environment and engine make a
gateway; the machine opens it. Each stage refuses what a later one could
not use, and nothing is opened before all is checked.
-/

set_option autoImplicit false

namespace MatrixGateway

inductive FileFailure where
  | notFound
  | isDirectory
  | notDirectory
  | notText
  | invalidName
  deriving DecidableEq

def FileFailure.message : FileFailure → String
  | .notFound => "No such file or directory (os error 2)"
  | .isDirectory => "Is a directory (os error 21)"
  | .notDirectory => "Not a directory (os error 20)"
  | .notText => "stream did not contain valid UTF-8"
  | .invalidName => "file name contained an unexpected NUL byte"

inductive ConfigError where
  | unreadable (path : String) (cause : FileFailure)
  | syntaxError (path : String)
  | mismatch (path excerpt : String) (m : SettingsFile.Mismatch)
  | invalid (faults : List Settings.Fault)
  deriving DecidableEq

def ConfigError.message : ConfigError → String
  | .unreadable path cause => "cannot read " ++ path ++ ": " ++ cause.message
  | .syntaxError path => "cannot parse " ++ path ++ ": TOML parse error"
  | .mismatch path excerpt m => "cannot parse " ++ path ++ ": " ++ excerpt ++ m.message ++ "\n"
  | .invalid faults => "invalid configuration: " ++ ", ".intercalate (faults.map (·.message))

namespace Settings

abbrev Files := String → Except FileFailure Bytes

def ofFile (files : Files) (path : String) : Except ConfigError Settings :=
  match files path with
  | .error cause => .error (.unreadable path cause)
  | .ok bytes =>
    match Bytes.text? bytes with
    | none => .error (.unreadable path .notText)
    | some text =>
      match SettingsFile.parse text with
      | .ok s => .ok s
      | .error .syntaxError => .error (.syntaxError path)
      | .error (.mismatch m) => .error (.mismatch path (Toml.excerpt text m.extent) m)

def merged (flags : Flags) (files : Files) : Except ConfigError Settings :=
  match flags.config with
  | some path => (ofFile files path).map flags.merge
  | none => .ok (flags.merge {})

def load (flags : Flags) (files : Files) : Except ConfigError Settings := do
  let s ← merged flags files
  if s.faults = [] then return s else throw (.invalid s.faults)

end Settings

inductive StartupError where
  | homeserver (cause : HomeserverError)
  | overlay (cause : Transport.OverlayError)
  | media (cause : MediaError)
  | metricsAddress (address : String)
  | metrics (cause : BindFailure)
  | bind (address : String) (cause : BindFailure)
  deriving DecidableEq

def StartupError.message : StartupError → String
  | .homeserver cause => cause.message
  | .overlay cause => cause.message
  | .media cause => cause.message
  | .metricsAddress address => "`" ++ address ++ "` is not a valid metrics address"
  | .metrics cause =>
    "cannot start metrics exporter: failed to create HTTP listener: " ++ cause.message
  | .bind address cause => "failed to bind " ++ address ++ ": " ++ cause.message

structure Gateway where
  settings : Settings
  homeserver : Homeserver
  params : Transport.Params
  media : MediaOrigin
  deriving DecidableEq

namespace Gateway

/-- Builds the gateway; the engine is changed by a valid overlay only. -/
def prepare (s : Settings) (engine : Transport.Engine) (env : Transport.Environment) :
    Transport.Engine × Except StartupError Gateway :=
  match Homeserver.parse s.homeserver with
  | .error cause => (engine, .error (.homeserver cause))
  | .ok homeserver =>
    match engine.overlay env with
    | (engine, .error cause) => (engine, .error (.overlay cause))
    | (engine, .ok params) =>
      match MediaOrigin.ofUrl homeserver.origin with
      | .error cause => (engine, .error (.media cause))
      | .ok media => (engine, .ok ⟨s, homeserver, params, media⟩)

/-- Whether a bridged request may be cut off before the engine gives up. -/
def cutsOff (g : Gateway) : Bool :=
  Span.ofSecs g.settings.timeouts.writeSecs < g.params.worstCase

structure Doors where
  metrics : Option Socket
  listener : Socket
  admission : Admission
  deriving DecidableEq

inductive OpeningFailure where
  | refused (cause : StartupError)
  /-- The listener was bound, but permits cannot be made for so many connections. -/
  | crashed (listener : Socket)
  deriving DecidableEq

def OpeningFailure.message : OpeningFailure → String
  | .refused cause => cause.message
  | .crashed _ => "a semaphore may not have more than MAX_PERMITS permits (" ++
      toString Admission.maxPermits ++ ")"

def openMetrics (g : Gateway) (m : Machine) : Except StartupError (Option Socket) :=
  match g.settings.observability.metricsAddress with
  | none => .ok none
  | some address =>
    match Socket.parse? address.toList with
    | none => .error (.metricsAddress address)
    | some socket => match m.bind socket with
      | .ok socket => .ok (some socket)
      | .error cause => .error (.metrics cause)

def openListener (s : Settings.Listener) (m : Machine) :
    Except OpeningFailure (Socket × Admission) :=
  let address := BindAddress.normalize s.bindAddress
  match m.bindText address with
  | .error cause => .error (.refused (.bind address cause))
  | .ok socket =>
    match Admission.open? s.maxConnections with
    | none => .error (.crashed socket)
    | some admission => .ok (socket, admission)

def openDoors (g : Gateway) (m : Machine) : Except OpeningFailure Doors := do
  let metrics ← (g.openMetrics m).mapError .refused
  let (listener, admission) ← openListener g.settings.listener (metrics.elim m m.listening)
  return { metrics, listener, admission }

end Gateway

end MatrixGateway
