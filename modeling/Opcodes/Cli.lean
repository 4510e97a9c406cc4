import Opcodes.Run
/-!
# The command line

`opgen [-i FILE] [-o FILE] [--marker TOKEN] [--check]` runs the generator on the definition file
`FILE` (default `wabt_opcode.def`), writing the module to the output (default
`src/parser/opcode.rs`); `--check` compiles without writing. A value follows its option as the
next argument, after `=`, or, for a one-letter option, right after the letter.

## Main definitions

* `Opcodes.Cli.Command`, `Opcodes.Cli.Command.parse`.
* `Opcodes.Cli.ArgError`, `Opcodes.Cli.ArgError.message`, `Opcodes.Cli.help`.
-/

namespace Opcodes.Cli

/-- What the command line asks for. -/
inductive Command where
  | generate (config : Config)
  | help
  | version
deriving DecidableEq, Repr

/-- The options that take a value. -/
inductive Setting where
  | input
  | output
  | marker
deriving DecidableEq, Repr

/-- How usage texts name an option with its value. -/
def Setting.usage : Setting → String
  | .input => "--input <INPUT>"
  | .output => "--output <OUTPUT>"
  | .marker => "--marker <MARKER>"

/-- A command line that cannot be read. -/
inductive ArgError where
  | unexpected (arg : String)
  | missingValue (setting : Setting)
  | repeated (setting : Setting)
deriving DecidableEq, Repr

/-- The help text. -/
def help : String :=
  "Compile an opcode definition table into Rust source\n\n" ++
  "Usage: opgen [OPTIONS]\n\n" ++
  "Options:\n" ++
  "  -i, --input <INPUT>    Definition table to read [default: wabt_opcode.def]\n" ++
  "  -o, --output <OUTPUT>  Rust module to write; replaced on success " ++
    "[default: src/parser/opcode.rs]\n" ++
  "      --marker <MARKER>  Token that opens each record line [default: WABT_OPCODE]\n" ++
  "      --check            Compile and report without writing the output\n" ++
  "  -h, --help             Print help\n" ++
  "  -V, --version          Print version\n"

/-- The version line. -/
def versionLine : String :=
  "opgen 0.1.0\n"

/-- The text of an argument error. -/
def ArgError.message : ArgError → String
  | .unexpected arg =>
    "error: unexpected argument \x27" ++ arg ++ "\x27 found\n\nUsage: opgen [OPTIONS]\n\n" ++
      "For more information, try \x27--help\x27.\n"
  | .missingValue s =>
    "error: a value is required for \x27" ++ s.usage ++ "\x27 but none was supplied\n\n" ++
      "For more information, try \x27--help\x27.\n"
  | .repeated s =>
    "error: the argument \x27" ++ s.usage ++ "\x27 cannot be used multiple times\n\n" ++
      "Usage: opgen [OPTIONS]\n\nFor more information, try \x27--help\x27.\n"

/-- The options read so far. -/
structure Options where
  input : Option String := none
  output : Option String := none
  marker : Option String := none
  check : Bool := false

/-- Record the value of an option, once. -/
def Options.put (o : Options) (s : Setting) (v : String) : Except ArgError Options :=
  match s with
  | .input => if o.input.isSome then .error (.repeated s) else .ok { o with input := some v }
  | .output => if o.output.isSome then .error (.repeated s) else .ok { o with output := some v }
  | .marker => if o.marker.isSome then .error (.repeated s) else .ok { o with marker := some v }

/-- The run that the options ask for. -/
def Options.config (o : Options) : Config where
  input := o.input.getD "wabt_opcode.def"
  output := o.output.getD "src/parser/opcode.rs"
  marker := o.marker.getD "WABT_OPCODE"
  checkOnly := o.check

/-- The option that a long name stands for. -/
def longSetting? : String → Option Setting
  | "input" => some .input
  | "output" => some .output
  | "marker" => some .marker
  | _ => none

/-- The option that a letter stands for. -/
def shortSetting? : Char → Option Setting
  | 'i' => some .input
  | 'o' => some .output
  | _ => none

/-- Read the arguments after the options `o`. -/
def readArgs (o : Options) : List String → Except ArgError Command
  | [] => .ok (.generate o.config)
  | arg :: rest =>
    match arg.toList with
    | ['-', '-', 'h', 'e', 'l', 'p'] | ['-', 'h'] => .ok .help
    | ['-', '-', 'v', 'e', 'r', 's', 'i', 'o', 'n'] | ['-', 'V'] => .ok .version
    | ['-', '-', 'c', 'h', 'e', 'c', 'k'] => readArgs { o with check := true } rest
    | '-' :: '-' :: long =>
      let name := long.takeWhile (· != '=')
      match longSetting? (String.ofList name) with
      | none => .error (.unexpected arg)
      | some s =>
        match long.drop name.length with
        | '=' :: v => do readArgs (← o.put s (String.ofList v)) rest
        | _ =>
          match rest with
          | v :: rest' => do readArgs (← o.put s v) rest'
          | [] => .error (.missingValue s)
    | ['-', c] =>
      match shortSetting? c with
      | none => .error (.unexpected arg)
      | some s =>
        match rest with
        | v :: rest' => do readArgs (← o.put s v) rest'
        | [] => .error (.missingValue s)
    | '-' :: c :: v =>
      match shortSetting? c, v with
      | some s, '=' :: w => do readArgs (← o.put s (String.ofList w)) rest
      | some s, _ => do readArgs (← o.put s (String.ofList v)) rest
      | none, _ => .error (.unexpected arg)
    | _ => .error (.unexpected arg)

/-- The command that the arguments ask for. -/
def Command.parse (args : List String) : Except ArgError Command :=
  readArgs {} args

example : (Command.parse []).toOption = some (.generate {}) := by decide
example : (Command.parse ["-i", "ops.def", "--output=out.rs", "--check"]).toOption =
    some (.generate { input := "ops.def", output := "out.rs", checkOnly := true }) := by
  decide +kernel

end Opcodes.Cli
