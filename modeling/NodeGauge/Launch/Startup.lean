/-
Module: NodeGauge.Launch.Startup
Purpose: What the program does between its start and its first request.
Main exports: Launch.Launched, Launch.start
-/
import NodeGauge.Launch.Listen
import NodeGauge.Launch.Uri
import NodeGauge.Launch.Usage
import NodeGauge.Log.Filter

namespace NodeGauge.Launch

open Log (Event Filter)

/-- What starting the program leaves behind: the lines it has written, what it has written to its
error output, the exit code if it has ended, and the settings under which it serves if it has
not. -/
structure Launched where
  lines : List Text
  errors : Text
  ending : Except Nat Settings

/-- The event of traces being sent. -/
def traceEvent (endpoint : Text) : Event where
  level := .info
  target := "slurm_common::telemetry".toList
  message := "OTLP tracing enabled".toList
  fields := [("endpoint".toList, .quoted endpoint), ("service_name".toList, .quoted programName)]

/-- The event of the program starting. -/
def startEvent (s : Settings) : Event where
  level := .info
  target := "slurm_exporter".toList
  message := "slurm-exporter starting".toList
  fields :=
    [("listen_addr".toList, .plain s.listenAddress), ("sinfo_bin".toList, .plain s.command),
     ("exit_on_source_failure".toList, .flag s.exitOnFailure)]

/-- Prepare the sending of traces: the events, and the complaint if the endpoint is none. -/
def prepareTraces (endpoint : Option Text) : List Event × Text :=
  match endpoint with
  | none => ([], [])
  | some endpoint =>
      match checkUri endpoint.utf8 with
      | .ok () => ([traceEvent endpoint], [])
      | .error fault =>
          ([], "failed to create OTLP exporter: Exporter otlp encountered the following ".toList ++
            "error(s): invalid URI ".toList ++ fault.message ++
            ", logging to stdout only\n".toList)

/-- The filter that the environment asks for. -/
def filterOf (environment : Environment) : Filter :=
  match environment "RUST_LOG".toList with
  | some directives => .ofText directives
  | none => .standard

/-- The complaint about an address on which no requests can be taken. -/
def listenComplaint (address : Text) (fault : ListenFault) : Text :=
  "Error: failed to bind ".toList ++ address ++ "\n\nCaused by:\n    ".toList ++ fault.message ++
    ['\n']

/-- Start the program under some settings. -/
def startUnder (environment : Environment) (s : Settings) : Launched :=
  let (events, complaint) := prepareTraces s.traceEndpoint
  let filter := filterOf environment
  let lines := ((events ++ [startEvent s]).filter filter.admits).flatMap fun e => e.line.lines
  match listen s.listenAddress with
  | .ok () => ⟨lines, complaint, .ok s⟩
  | .error fault => ⟨lines, complaint ++ listenComplaint s.listenAddress fault, .error 1⟩

/-- Start the program. -/
def start (environment : Environment) (arguments : List Text) : Launched :=
  match readArguments environment arguments with
  | .error .showHelp =>
      ⟨(Terminal.visibleInStream (markedHelp environment)).lines, [], .error 0⟩
  | .error .showVersion => ⟨versionText.lines, [], .error 0⟩
  | .error (.refuse fault) => ⟨[], Terminal.visibleInStream fault.markedReport, .error 2⟩
  | .ok s => startUnder environment s

end NodeGauge.Launch
