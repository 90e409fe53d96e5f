/-
Options of the program.

* `Options`: files of inputs and the options in front of them;
* `Options.read`: the options of some arguments, or what is wrong with them;
* `Options.help`: the text about them.
-/
import ChatCommand.Recognition.Config

namespace ChatCommand

/-- What the arguments of the program ask for. -/
structure Options where
  /-- Files of inputs, one on each line. -/
  files : List String := []
  /-- Whether to end after the files. -/
  batch : Bool := false
  help : Bool := false
  version : Bool := false
  /-- The file with the vocabulary. -/
  vocabulary : Option String := none
  /-- The file with the snapshot. -/
  snapshot : Option String := none
  speaker : Option String := none
  mark : Option String := none
  thresholds : Thresholds Float32 := .standard

namespace Options

/-- The options of some arguments, added to others. -/
def readFrom (o : Options) : List String → Except String Options
  | [] => .ok o
  | [argument] => readOne o argument
  | argument :: value :: rest =>
    match argument with
    | "--patterns" => readFrom { o with vocabulary := some value } rest
    | "--state" => readFrom { o with snapshot := some value } rest
    | "--speaker" => readFrom { o with speaker := some value } rest
    | "--prefix" => readFrom { o with mark := some value } rest
    | _ => do readFrom (← readOne o argument) (value :: rest)
where
  /-- An option without a value. -/
  readOne (o : Options) (argument : String) : Except String Options :=
    match argument with
    | "-h" | "--help" => .ok { o with help := true }
    | "-V" | "--version" => .ok { o with version := true }
    | "-b" | "--batch" => .ok { o with batch := true }
    | "-v" | "--verbose" | "-vv" => .ok o
    | "--strict" => .ok { o with thresholds := .strict }
    | "--lenient" => .ok { o with thresholds := .lenient }
    | "--patterns" | "--state" | "--speaker" | "--prefix" =>
      .error (argument ++ " requires a value")
    | _ =>
      if argument.toList.head? = some '-' then .error ("unknown option: " ++ argument)
      else .ok { o with files := o.files ++ [argument] }

/-- The options of the arguments of the program. -/
def read (arguments : List String) : Except String Options :=
  readFrom {} arguments

/-- A headline. -/
def bold (text : String) : String := "\x1b[1m" ++ text ++ "\x1b[0m"

def versionText : String := "parley 0.1.0\n"

def helpText : String :=
  "\n".intercalate [
    bold "Parley" ++ " - Fuzzy natural-language commands for game servers",
    "",
    bold "USAGE:",
    "    parley [OPTIONS] [FILES...]",
    "",
    bold "ARGUMENTS:",
    "    [FILES...]    Files of inputs (one per line) to run before the console",
    "",
    bold "OPTIONS:",
    "    -h, --help             Print help information",
    "    -V, --version          Print version information",
    "    -b, --batch            Run the files and exit (no console)",
    "    -v, --verbose          Log more (repeat for trace); PARLEY_LOG overrides",
    "    --state <FILE>         Game-state snapshot (.json or .msgpack), default: demo",
    "    --patterns <FILE>      Replacement pattern document (JSON)",
    "    --speaker <NAME>       Player the input is attributed to",
    "    --prefix <TEXT>        Command prefix reported with matches (default: !)",
    "    --strict               Only accept close name matches",
    "    --lenient              Accept heavily misspelled names",
    "",
    bold "EXAMPLES:",
    "    parley                              Start the console on the demo server",
    "    parley --state server.json          Start the console on a saved snapshot",
    "    parley -b inputs.txt                Parse every line of inputs.txt and exit",
    "",
    bold "CONSOLE COMMANDS:",
    "    :help, :players, :maps, :items, :commands",
    "    :speaker [name], :load <path>, :save <path>, :quit",
    "    Ctrl+D               Exit",
    "    Ctrl+C               Cancel current input"] ++ "\n"

end Options

end ChatCommand
