/-
Module: NodeGauge.Main
Purpose: The program on the command line.  It starts as its arguments and its environment say; then
  it takes one node listing from standard input and writes the page that a scrape of it gets.
Main exports: main
-/
import NodeGauge.Exporter.Routes
import NodeGauge.Launch.Startup

namespace NodeGauge.Main

/-- Write texts as lines. -/
def putLines (out : IO.FS.Stream) (lines : List Text) : IO Unit :=
  lines.forM fun line => out.putStrLn (String.ofList line)

/-- Everything that a stream holds. -/
partial def readAll (input : IO.FS.Stream) (done : ByteArray) : IO ByteArray := do
  let chunk ← input.read 65536
  if chunk.isEmpty then return done else readAll input (done ++ chunk)

/-- The variables that the program looks at. -/
def variableNames : List String :=
  ["SLURM_EXPORTER_ADDR", "SLURM_EXPORTER_SINFO", "OTLP_ENDPOINT", "OTLP_TOKEN", "RUST_LOG"]

/-- The environment of the process. -/
def environment : IO Launch.Environment := do
  let values ← variableNames.mapM fun name => do
    return (name.toList, (← IO.getEnv name).map String.toList)
  return fun name => (values.lookup name).join

end NodeGauge.Main

open NodeGauge in
/-- The program. -/
def main (arguments : List String) : IO UInt32 := do
  let out ← IO.getStdout
  let launched := Launch.start (← Main.environment) (arguments.map String.toList)
  Main.putLines out launched.lines
  (← IO.getStderr).putStr (String.ofList launched.errors)
  match launched.ending with
  | .error code => return UInt32.ofNat code
  | .ok settings =>
      let listing ← Main.readAll (← IO.getStdin) .empty
      let answered := (Exporter.State.start settings.exitOnFailure).respond
        ⟨"GET".toList, Exporter.Route.metrics.path, .ok listing.toList⟩
      out.putStr (String.ofList answered.response.body)
      return 0
