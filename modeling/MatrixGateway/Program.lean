import MatrixGateway.LogLevel
import MatrixGateway.Startup

/-!
# The program

From its arguments, files and environment the program either opens its
doors or ends with a status, and tells on the way what it does. Messages
are shown as far as the log level allows.
-/

set_option autoImplicit false

namespace MatrixGateway

structure LogLine where
  level : LogLevel
  source : String
  text : String
  deriving DecidableEq

namespace LogLine

def label : LogLevel → String
  | .off => "OFF"
  | .error => "ERROR"
  | .warn => "WARN"
  | .info => "INFO"
  | .debug => "DEBUG"
  | .trace => "TRACE"

def write (l : LogLine) : String := label l.level ++ " " ++ l.source ++ ": " ++ l.text

end LogLine

namespace Program

def version : String := "0.1.0"

def levelVariable : String := "LOG_LEVEL"

structure Ending where
  status : Nat
  complaint : String
  deriving DecidableEq

def info (source text : String) : LogLine := ⟨.info, source, text⟩

def fatal (message : String) : LogLine := ⟨.error, "lb_gateway", "Fatal error error=" ++ message⟩

def failed : Ending := ⟨1, "Error"⟩

def loadLines (flags : Flags) : List LogLine :=
  flags.config.toList.map fun path =>
    info "lb_gateway::lifecycle::startup" ("Configuration file loaded path=" ++ path)

def settingsLine (s : Settings) : LogLine :=
  info "lb_gateway" ("Configuration loaded bind_address=" ++ s.listener.bindAddress ++
    " homeserver=" ++ s.homeserver ++
    " max_connections=" ++ toString s.listener.maxConnections ++
    " write_timeout_secs=" ++ toString s.timeouts.writeSecs)

def overlayLines (p : Transport.Params) : List LogLine :=
  [info "lb_gateway::config::overlay" "Detected one or more LB_ environment variables",
    info "lb_gateway::config::overlay" ("New transport configuration params=" ++ p.text)]

def cutOffLine (g : Gateway) : LogLine :=
  ⟨.warn, "lb_gateway::lifecycle::startup",
    "Write timeout is shorter than the transport's retry budget; bridged requests may be cut off" ++
      " write_timeout=" ++ (Span.ofSecs g.settings.timeouts.writeSecs).text ++
      " worst_case_delivery=" ++ g.params.worstCase.text⟩

def prepareLines (g : Gateway) (engine : Transport.Engine) : List LogLine :=
  (if engine.replacements = 0 then [] else overlayLines g.params) ++
    (if g.cutsOff then [cutOffLine g] else [])

/-- The metrics address is told as it was asked for. -/
def metricsLines (g : Gateway) : List LogLine :=
  (g.settings.observability.metricsAddress.bind fun a => Socket.parse? a.toList).toList.map fun s =>
    info "lb_gateway::observability::metrics" ("Metrics exporter listening address=" ++ s.text)

def listenerLine (g : Gateway) (listener : Socket) : LogLine :=
  info "lb_gateway::net::listener" ("Listener bound address=" ++ listener.text ++
    " max_connections=" ++ toString g.settings.listener.maxConnections)

def doorLines (g : Gateway) (listener : Socket) : List LogLine :=
  [listenerLine g listener,
    info "lb_gateway::lifecycle::startup" ("Listening and forwarding to homeserver bind_address=" ++
      g.settings.listener.bindAddress ++ " homeserver=" ++ g.homeserver.address)]

def stopLines : List LogLine :=
  [info "lb_gateway::lifecycle::signals" "Shutdown signal received",
    info "lb_gateway" "Shutdown complete"]

/-- Opens the doors; the metrics are open even if the listener then is not. A
crash tells nothing of itself. -/
def openUp (g : Gateway) (m : Machine) : List LogLine × Except Ending Gateway.Doors :=
  match g.openDoors m with
  | .ok doors => (metricsLines g ++ doorLines g doors.listener, .ok doors)
  | .error (.refused e) =>
    let told := match g.openMetrics m with
      | .ok _ => metricsLines g
      | .error _ => []
    (told ++ [fatal e.message], .error failed)
  | .error (.crashed listener) =>
    (metricsLines g ++ [listenerLine g listener],
      .error ⟨101, Gateway.OpeningFailure.message (.crashed listener)⟩)

def launch (s : Settings) (env : Transport.Environment) (m : Machine) :
    List LogLine × Except Ending (Gateway × Gateway.Doors) :=
  match Gateway.prepare s { active := {} } env with
  | (_, .error e) => ([fatal e.message], .error failed)
  | (engine, .ok g) =>
    let (told, doors) := openUp g m
    (prepareLines g engine ++ told, doors.map (g, ·))

def start (arguments : List String) (files : Settings.Files) (env : Transport.Environment)
    (m : Machine) : List LogLine × Except Ending (Gateway × Gateway.Doors) :=
  let hello := info "lb_gateway" ("lb-gateway starting version=" ++ Text.quote version)
  match Flags.parse arguments with
  | .error .helpRequested => ([hello], .error ⟨0, ""⟩)
  | .error e => ([hello], .error ⟨2, e.message⟩)
  | .ok flags =>
    match Settings.merged flags files with
    | .error e => ([hello, fatal e.message], .error failed)
    | .ok s =>
      if s.faults = [] then
        let (told, result) := launch s env m
        (hello :: loadLines flags ++ settingsLine s :: told, result)
      else
        (hello :: loadLines flags ++ [fatal (ConfigError.invalid s.faults).message], .error failed)

def shown (env : Transport.Environment) (lines : List LogLine) : List LogLine :=
  let level := LogLevel.ofSetting (env levelVariable)
  lines.filter fun l => level.shows l.source l.level

end Program

end MatrixGateway
