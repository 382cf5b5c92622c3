import MockHost.Delivery
import MockHost.Trace

/-!
# Settings

The settings of a host process: where it listens, where its configuration and its
logs are, how long it waits for peers and endpoints. All but two have a usual
value; these two follow from the directory in which the project lies.

## Main definitions

* `Settings`: The settings.
* `Settings.usual`: The usual settings of a project in some directory.
* `Settings.toFields`: The settings by name.
-/

namespace MockHost

/-- The settings of a host process. -/
structure Settings where
  /-- The interface to listen on. -/
  host : Text := "0.0.0.0"
  defaultPort : Port := 6789
  listenBacklog : Int := 50
  /-- How long one wait for a new peer lasts. -/
  acceptPollInterval : Seconds := Binary64.ofScientific 5 (-1)
  projectRoot : Text
  configurationFile : Text := "configuration/mocktcpserver.json"
  /-- Writes the usual configuration where there is none. -/
  initialiseConfiguration : Bool := true
  logDir : Text
  logToFile : Bool := false
  logLevel : Text := "INFO"
  /-- Writes log lines in JSON. -/
  logJson : Bool := true
  readTimeout : Seconds := Binary64.ofInt 60
  /-- The most bytes that one read from a peer gives. -/
  recvBufferSize : Int := 4096
  closeJoinTimeout : Seconds := Binary64.ofInt 10
  connectTimeout : Seconds := Binary64.ofInt 5
  ackTimeout : Seconds := Binary64.ofInt 5
  dispatchWaitForAck : Bool := false

namespace Settings

/-- The directory for logs of a project. -/
def usualLogDir (projectRoot : Text) : Text := projectRoot ++ "/logs"

/-- The usual settings of a project. -/
def usual (projectRoot : Text) : Settings where
  projectRoot := projectRoot
  logDir := usualLogDir projectRoot

/-- The settings by name. -/
def toFields (s : Settings) : List (Text × Value) :=
  [LogField.text "host" s.host,
    LogField.int "default_port" s.defaultPort,
    LogField.int "listen_backlog" s.listenBacklog,
    LogField.seconds "accept_poll_interval_sec" s.acceptPollInterval,
    LogField.text "project_root" s.projectRoot,
    LogField.text "configuration_file" s.configurationFile,
    (Text.ofString "initialise_configuration", .bool s.initialiseConfiguration),
    LogField.text "log_dir" s.logDir,
    (Text.ofString "log_to_file", .bool s.logToFile),
    LogField.text "log_level" s.logLevel,
    (Text.ofString "log_json", .bool s.logJson),
    LogField.seconds "read_timeout_sec" s.readTimeout,
    LogField.int "recv_buffer_size" s.recvBufferSize,
    LogField.seconds "close_join_timeout_sec" s.closeJoinTimeout,
    LogField.seconds "connect_timeout_sec" s.connectTimeout,
    LogField.seconds "ack_timeout_sec" s.ackTimeout,
    (Text.ofString "dispatch_wait_for_ack", .bool s.dispatchWaitForAck)]

end Settings

end MockHost
