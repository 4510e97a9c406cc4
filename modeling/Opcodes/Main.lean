import Opcodes.Cli
/-!
# The generator program

Reads the command line, runs the generator on the file system, and reports a failure on the
error stream as `Error: ` and the error's text, with exit status 1.
-/

namespace Opcodes.Main

/-- The failure that a system error stands for. -/
def failureOf (e : IO.Error) : IoFailure :=
  let code : Option UInt32 := match e with
    | .alreadyExists _ c _ | .otherError c _ | .resourceBusy c _ | .resourceVanished c _
    | .unsupportedOperation c _ | .hardwareFault c _ | .unsatisfiedConstraints c _
    | .illegalOperation c _ | .protocolError c _ | .timeExpired c _ | .interrupted _ c _
    | .noFileOrDirectory _ c _ | .invalidArgument _ c _ | .permissionDenied _ c _
    | .resourceExhausted _ c _ | .inappropriateType _ c _ | .noSuchThing _ c _ => some c
    | .unexpectedEof | .userError _ => none
  -- Some calls report the error number negated.
  let number (c : UInt32) : Nat := if c.toNat < 0x80000000 then c.toNat else 0x100000000 - c.toNat
  match code.map number with
  | some 2 => .notFound
  | some 20 => .notDirectory
  | some 21 => .isDirectory
  | some 16 => .busy
  | some 17 => .alreadyExists
  | some 36 => .nameTooLong
  | some n => .other n (toString e)
  | none => .other 0 (toString e)

/-- Throw the refusal of a path with a NUL character, which the system would read as ending
there. -/
def refuseNul (p : String) : IO Unit :=
  if p.toList.contains '\x00' then throw (IO.userError IoFailure.nulByte.message) else pure ()

/-- The failure that a system error met at the path `p` stands for. -/
def failureAt (p : String) (e : IO.Error) : IoFailure :=
  if p.toList.contains '\x00' then .nulByte else failureOf e

/-- Replace the file at `p` with `contents` through its temporary sibling. -/
def replaceFile (p contents : String) : IO (Except Error Unit) := do
  let tmp := Path.tempSibling p
  try
    refuseNul tmp
    IO.FS.writeFile tmp contents
  catch e =>
    return .error (.resource tmp (failureAt tmp e))
  try
    refuseNul p
    IO.FS.rename tmp p
    return .ok ()
  catch e =>
    try IO.FS.removeFile tmp catch _ => pure ()
    return .error (.resource p (failureAt p e))

/-- A run on the file system. -/
def runConfig (c : Config) : IO (Except Error Summary) := do
  let text ← try
      refuseNul c.input
      pure (Except.ok (← IO.FS.readFile c.input))
    catch e =>
      pure (.error (failureAt c.input e))
  match text with
  | .error f => return .error (.resource c.input f)
  | .ok text =>
    match Compiled.ofText text c.marker with
    | .error e => return .error e
    | .ok compiled =>
      if c.checkOnly then return .ok compiled.summary
      match ← replaceFile c.output (Source.render compiled.table) with
      | .error e => return .error e
      | .ok () => return .ok compiled.summary

end Opcodes.Main

/-- Run the generator as the command line asks. -/
def main (args : List String) : IO UInt32 := do
  match Opcodes.Cli.Command.parse args with
  | .error e =>
    IO.eprint e.message
    return 2
  | .ok .help =>
    IO.print Opcodes.Cli.help
    return 0
  | .ok .version =>
    IO.print Opcodes.Cli.versionLine
    return 0
  | .ok (.generate config) =>
    match ← Opcodes.Main.runConfig config with
    | .ok _ => return 0
    | .error e =>
      IO.eprintln ("Error: " ++ e.message)
      return 1
