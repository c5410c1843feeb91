/-
Module: NodeGauge.Launch.Usage
Purpose: What the program says of its command line: the help text, the version, and the messages
  about faults.
Main exports: Launch.markedHelp, Launch.helpText, Launch.versionText,
  Launch.UsageFault.markedReport, Launch.UsageFault.report
-/
import NodeGauge.Launch.Arguments
import NodeGauge.Text.Terminal

namespace NodeGauge.Launch

open Terminal (mark marked)

/-- The name of the program. -/
def programName : Text := "slurm-exporter".toList

/-- The line that tells the version. -/
def versionText : Text := programName ++ " 0.1.0\n".toList

/-- The left part of an option's help line. -/
def Known.column : Known → Text
  | setting s => "      ".toList ++ (setting s).usage
  | switch s =>
      (match s.letter? with
        | some letter => [' ', ' ', '-', letter, ',', ' ']
        | none => "      ".toList) ++ (switch s).usage

/-- The parts of the explanation of an option: what it is for, its variable with the value that it
has now, and its default. -/
def Known.explanation (environment : Environment) : Known → List Text
  | setting s =>
      let value := (environment s.environmentName).getD []
      let now := "[env: ".toList ++ s.environmentName ++ '=' :: value ++ [']']
      let default := match s.default? with
        | some value => ["[default: ".toList ++ value ++ [']']]
        | none => []
      (if s.purpose.isEmpty then [] else [s.purpose]) ++ now :: default
  | switch s => [s.purpose]

/-- Where the explanations start: two places behind the longest left part. -/
def explanationColumn : Nat :=
  (Known.all.map fun k => k.column.length).foldl max 0 + 2

/-- The help line of an option, with a mark before it.  An explanation of more than one line keeps
its column. -/
def Known.helpLine (environment : Environment) (k : Known) : Text :=
  let blanks (n : Nat) : Text := List.replicate n ' '
  let text := List.intercalate [' '] (k.explanation environment)
  let name := k.column.dropWhile (· == ' ')
  blanks (k.column.length - name.length) ++ mark ++ name ++
    blanks (explanationColumn - k.column.length) ++
    (text.flatMap fun c => if c = '\n' then '\n' :: blanks explanationColumn else [c]) ++ ['\n']

/-- The help text with its marks. -/
def markedHelp (environment : Environment) : Text :=
  "Prometheus exporter for Slurm node CPU, memory and GPU allocation\n\nUsage: ".toList ++
    programName ++ " [OPTIONS]\n\nOptions:\n".toList ++
    Known.all.flatMap (Known.helpLine environment)

/-- The help text. -/
def helpText (environment : Environment) : Text := Terminal.visible (markedHelp environment)

/-- The sentence that tells a fault, with marks around what was given. -/
def UsageFault.sentence : UsageFault → Text
  | unknown argument _ _ => "unexpected argument '".toList ++ marked argument ++ "' found".toList
  | unwantedValue value option _ =>
      "unexpected value '".toList ++ marked value ++ "' for '".toList ++
        (Known.switch option).usage ++ "' found; no more were expected".toList
  | missingValue option =>
      "a value is required for '".toList ++ (Known.setting option).usage ++
        "' but none was supplied".toList
  | repeatedOption option =>
      "the argument '".toList ++ option.usage ++ "' cannot be used multiple times".toList

/-- The choice of all options that set something. -/
def choiceOfOptions : Text :=
  '<' :: List.intercalate ['|'] ((Known.all.filter Known.sets).map Known.usage) ++ ['>']

/-- The options that a usage line shows behind a fault.  Behind an unwanted value, those that were
accepted before it are shown as the choice that they come from. -/
def UsageFault.shownOptions : UsageFault → List Text
  | missingValue _ | repeatedOption _ => []
  | unknown _ _ shown => shown.map Known.usage
  | unwantedValue _ option others =>
      (if others && (Known.switch option).sets then [] else [(Known.switch option).usage]) ++
        if others then [choiceOfOptions] else []

/-- The usage line behind a fault: the options that it shows, or a word for all of them.  A missing
value is clear without it. -/
def UsageFault.usageLine? : UsageFault → Option Text
  | missingValue _ => none
  | fault =>
      let options := match fault.shownOptions with
        | [] => ["[OPTIONS]".toList]
        | shown => shown
      some ("Usage: ".toList ++ List.intercalate [' '] (programName :: options))

/-- The suggestion for a mistyped name. -/
def UsageFault.tip? : UsageFault → Option Text
  | unknown _ (some similar) _ =>
      some ("  tip: a similar argument exists: '--".toList ++ similar ++ "'".toList)
  | _ => none

/-- All that is said about a fault, with an empty line between its parts and with its marks. -/
def UsageFault.markedReport (fault : UsageFault) : Text :=
  let parts := ("error: ".toList ++ fault.sentence) :: fault.tip?.toList ++
    fault.usageLine?.toList ++ ["For more information, try '--help'.".toList]
  List.intercalate ['\n', '\n'] parts ++ ['\n']

/-- All that is said about a fault. -/
def UsageFault.report (fault : UsageFault) : Text := Terminal.visible fault.markedReport

end NodeGauge.Launch
