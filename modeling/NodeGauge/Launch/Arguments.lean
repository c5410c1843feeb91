/-
Module: NodeGauge.Launch.Arguments
Purpose: The command line and the environment, read into settings.
Main exports: Launch.UsageFault, Launch.Stop, Launch.Progress, Launch.readArguments
-/
import NodeGauge.Launch.Options
import NodeGauge.Text.Similarity

namespace NodeGauge.Launch

/-- What is wrong with a command line. -/
inductive UsageFault where
  /-- An argument that is no option and no value of one.  If a long name was mistyped, the one
  that was probably meant; and the options that the usage line shows. -/
  | unknown (argument : Text) (similar : Option Text) (shown : List Known)
  /-- A value for an option that takes none, and whether options were accepted before it. -/
  | unwantedValue (value : Text) (option : Switch) (others : Bool)
  /-- An option without its value. -/
  | missingValue (option : Setting)
  /-- An option that is given again. -/
  | repeatedOption (option : Known)
deriving Repr, DecidableEq

/-- Why the program does not go on. -/
inductive Stop where
  | showHelp
  | showVersion
  | refuse (fault : UsageFault)
deriving Repr, DecidableEq

/-- How far a command line has been read.  The last option stays pending while its value may still
come. -/
structure Progress where
  /-- The options accepted so far, in order. -/
  given : List Known
  values : List (Setting × Text)
  pending : Option (Setting × Option Text)
deriving Repr, DecidableEq

namespace Progress

/-- Nothing has been read. -/
def start : Progress := ⟨[], [], none⟩

/-- Accept an option, unless it has been given before. -/
def accept (p : Progress) (k : Known) : Except Stop Progress :=
  if k ∈ p.given then .error (.refuse (.repeatedOption k))
  else .ok { p with given := p.given ++ [k] }

/-- Accept an option with its value. -/
def assign (p : Progress) (s : Setting) (value : Text) : Except Stop Progress := do
  let p ← p.accept (.setting s)
  return { p with values := (s, value) :: p.values }

/-- Accept the pending option, which must have its value by now. -/
def settle (p : Progress) : Except Stop Progress :=
  match p.pending with
  | none => .ok p
  | some (s, none) => .error (.refuse (.missingValue s))
  | some (s, some value) => { p with pending := none }.assign s value

/-- The options that stand when reading stops at a mistyped name.  A pending option with its value
joins those accepted so far; if it is one of them, it takes that one away instead. -/
def standing (p : Progress) : List Known :=
  match p.pending with
  | some (s, some _) =>
      if .setting s ∈ p.given then p.given.erase (.setting s) else p.given ++ [.setting s]
  | _ => p.given

/-- The options that a usage line shows after a mistyped name: those that stand, and the one that
was probably meant. -/
def shownWith (p : Progress) (similar : Option Known) : List Known :=
  let given := p.standing
  match similar with
  | some k => if k ∈ given then given else given ++ [k]
  | none => given

/-- The fault of a long name that is no option. -/
def unknownName (p : Progress) (name : Text) : UsageFault :=
  let similar := Text.closest? (Known.all.map Known.name) name
  .unknown ('-' :: '-' :: name) similar (p.shownWith (similar.bind Known.ofName?))

/-- Read a switch. -/
def turnOn (p : Progress) (s : Switch) : Except Stop Progress := do
  let p ← p.settle
  match s with
  | .help => .error .showHelp
  | .version => .error .showVersion
  | .exitOnFailure => p.accept (.switch s)

/-- Read a long option behind its dashes.  Its value may follow after an equals sign. -/
def readLong (p : Progress) (body : Text) : Except Stop Progress :=
  let (name, value?) := match body.cut '=' with
    | some (name, value) => (name, some value)
    | none => (body, none)
  match Known.ofName? name, value? with
  | none, _ => .error (.refuse (p.unknownName name))
  | some (.setting s), some value => do
      let p ← p.settle
      p.assign s value
  | some (.setting s), none => do
      let p ← p.settle
      return { p with pending := some (s, none) }
  | some (.switch s), some value =>
      .error (.refuse (.unwantedValue value s !p.given.isEmpty))
  | some (.switch s), none => p.turnOn s

/-- Read a bundle of letters behind its dash.  Each letter that is known ends the program, so the
first decides. -/
def readLetter (p : Progress) (letter : Char) : Except Stop Progress :=
  match Known.ofLetter? letter with
  | some s => p.turnOn s
  | none => .error (.refuse (.unknown ['-', letter] none []))

/-- Read an argument that is no option: the value of the pending option if it has none yet. -/
def readPlain (p : Progress) (argument : Text) : Except Stop Progress :=
  match p.pending with
  | some (s, none) => .ok { p with pending := some (s, some argument) }
  | _ => .error (.refuse (.unknown argument none []))

/-- Read one argument. -/
def readArgument (p : Progress) (argument : Text) : Except Stop Progress :=
  match argument with
  | '-' :: '-' :: body => p.readLong body
  | '-' :: letter :: _ => p.readLetter letter
  | _ => p.readPlain argument

/-- Read the arguments.  Two dashes alone end the options, and nothing may follow them. -/
def readAll (p : Progress) : List Text → Except Stop Progress
  | [] => p.settle
  | argument :: rest =>
      if argument = ['-', '-'] then
        match rest with
        | [] => p.settle
        | first :: _ => .error (.refuse (.unknown first none []))
      else do
        let p ← p.readArgument argument
        p.readAll rest

/-- The value of an option: from the command line, else from the environment, else its default. -/
def value? (p : Progress) (environment : Environment) (s : Setting) : Option Text :=
  (p.values.lookup s).or ((environment s.environmentName).or s.default?)

end Progress

/-- The settings that a command line gives in an environment. -/
def readArguments (environment : Environment) (arguments : List Text) : Except Stop Settings := do
  let p ← Progress.start.readAll arguments
  let value? := p.value? environment
  return {
    listenAddress := (value? .listenAddress).getD []
    command := (value? .command).getD []
    exitOnFailure := .switch .exitOnFailure ∈ p.given
    traceEndpoint := value? .traceEndpoint
    traceToken := value? .traceToken }

end NodeGauge.Launch
