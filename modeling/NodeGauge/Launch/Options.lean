/-
Module: NodeGauge.Launch.Options
Purpose: The options of the command line, and the settings that they and the environment give.
Main exports: Launch.Setting, Launch.Switch, Launch.Known, Launch.Settings
-/
import NodeGauge.Text.Basic

namespace NodeGauge.Launch

/-- The options that take a value. -/
inductive Setting where
  | listenAddress
  | command
  | traceEndpoint
  | traceToken
deriving Repr, DecidableEq

namespace Setting

/-- The long name of an option. -/
def name : Setting → Text
  | listenAddress => "listen-addr".toList
  | command => "sinfo-bin".toList
  | traceEndpoint => "otlp-endpoint".toList
  | traceToken => "otlp-token".toList

/-- What stands for the value of an option. -/
def placeholder : Setting → Text
  | listenAddress => "LISTEN_ADDR".toList
  | command => "SINFO_BIN".toList
  | traceEndpoint => "OTLP_ENDPOINT".toList
  | traceToken => "OTLP_TOKEN".toList

/-- The environment variable that gives the value of an option that is left out. -/
def environmentName : Setting → Text
  | listenAddress => "SLURM_EXPORTER_ADDR".toList
  | command => "SLURM_EXPORTER_SINFO".toList
  | traceEndpoint => "OTLP_ENDPOINT".toList
  | traceToken => "OTLP_TOKEN".toList

/-- The value of an option that neither the command line nor the environment gives. -/
def default? : Setting → Option Text
  | listenAddress => some "0.0.0.0:8080".toList
  | command => some "sinfo".toList
  | traceEndpoint => none
  | traceToken => none

/-- What an option is for. -/
def purpose : Setting → Text
  | listenAddress => []
  | command => "Path or name of the `sinfo` binary".toList
  | traceEndpoint =>
      "OTLP endpoint for exporting traces (e.g. \"http://127.0.0.1:4318\")".toList
  | traceToken => "Bearer token for the OTLP endpoint".toList

end Setting

/-- The options that take no value. -/
inductive Switch where
  | exitOnFailure
  | help
  | version
deriving Repr, DecidableEq

namespace Switch

/-- The long name of a switch. -/
def name : Switch → Text
  | exitOnFailure => "exit-on-source-failure".toList
  | help => "help".toList
  | version => "version".toList

/-- The letter of a switch. -/
def letter? : Switch → Option Char
  | exitOnFailure => none
  | help => some 'h'
  | version => some 'V'

/-- What a switch is for. -/
def purpose : Switch → Text
  | exitOnFailure =>
      "Exit the process when `sinfo` fails instead of answering the scrape with 503".toList
  | help => "Print help".toList
  | version => "Print version".toList

end Switch

/-- Every option that the program knows. -/
inductive Known where
  | setting (s : Setting)
  | switch (s : Switch)
deriving Repr, DecidableEq

namespace Known

/-- All options, in the order in which the help text shows them. -/
def all : List Known :=
  [setting .listenAddress, setting .command, switch .exitOnFailure, setting .traceEndpoint,
   setting .traceToken, switch .help, switch .version]

/-- The long name of an option. -/
def name : Known → Text
  | setting s => s.name
  | switch s => s.name

/-- Whether an option sets something; the others ask for information. -/
def sets : Known → Bool
  | setting _ => true
  | switch .exitOnFailure => true
  | switch .help => false
  | switch .version => false

/-- How an option is written on the command line. -/
def usage : Known → Text
  | setting s => '-' :: '-' :: s.name ++ ' ' :: '<' :: s.placeholder ++ ['>']
  | switch s => '-' :: '-' :: s.name

/-- The option of a long name. -/
def ofName? (name : Text) : Option Known := all.find? fun k => k.name = name

/-- The switch of a letter. -/
def ofLetter? (letter : Char) : Option Switch :=
  [Switch.exitOnFailure, .help, .version].find? fun s => s.letter? = some letter

end Known

/-- The values of the environment's variables. -/
abbrev Environment := Text → Option Text

/-- What the program is told when it is started. -/
structure Settings where
  /-- Where requests are taken. -/
  listenAddress : Text
  /-- The command that lists the nodes. -/
  command : Text
  /-- Whether a failure of that command ends the program. -/
  exitOnFailure : Bool
  /-- Where traces are sent, if anywhere. -/
  traceEndpoint : Option Text
  /-- What lets the program in there. -/
  traceToken : Option Text
deriving Repr, DecidableEq

end NodeGauge.Launch
