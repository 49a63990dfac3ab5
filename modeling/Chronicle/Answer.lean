import Chronicle.Discovery
import Chronicle.Invocation
import Chronicle.Report

/-!
# Answers to command lines

An answer is an exit code, what is shown, and what is complained about.  Wrong
usage has the code 2, every fault the code 1.  A fault with a place in a
template file is shown with its line.
-/

namespace Chronicle

structure Answer where
  code : Nat
  output : String
  complaint : String
  deriving DecidableEq, Repr

namespace Answer

def failure (complaint : String) : Answer :=
  ⟨1, "", complaint⟩

/-- The source of a located fault, read again from the root. -/
def source? (files : Files) (root : Path) (fault : Fault) : Option (String × String) :=
  match fault.root with
  | .load _ (some locator) (some _) =>
      match (files (root.join ⟨locator⟩)).bind FileTree.read with
      | .ok source => some (source, locator)
      | .error _ => none
  | _ => none

def ofFault (files : Files) (root : Path) (fault : Fault) : Answer :=
  match source? files root fault with
  | some (source, locator) => failure (fault.report source locator)
  | none => failure s!"Error: {fault.message}\n"

/-- The settings of an invocation: those of its file, and then its own root. -/
def settings (files : Files) (invocation : Invocation) : Except Answer Settings := do
  let settings ← match invocation.settingsFile with
    | none => .ok Settings.default
    | some path =>
        (Settings.ofFile files path).mapError fun fault =>
          failure s!"Error loading config '{path.text}': {fault.message}\n"
  return match invocation.root with
    | some root => { settings with root := root }
    | none => settings

/-- Runs a command on the library that the settings choose. -/
def ofCommand (files : Files) (settings : Settings) (command : Command) : Answer :=
  match Library.ofFiles files settings with
  | .error fault => ofFault files settings.root fault
  | .ok library =>
      match command.lines library with
      | .error fault => failure s!"Error: {fault.message}\n"
      | .ok lines => ⟨0, String.join (lines.map fun line => line ++ "\n"), ""⟩

def ofInvocation (files : Files) (invocation : Invocation) : Answer :=
  match settings files invocation with
  | .error answer => answer
  | .ok settings => ofCommand files settings invocation.command

/-- The commands and options, as the help shows them. -/
def helpText : String :=
  "Resolve chronicle templates and validate their arguments\n\n" ++
    "Usage: chronicle-templates [OPTIONS] <COMMAND>\n\n" ++
    "Commands:\n" ++
    "  list      List all templates\n" ++
    "  describe  Show details of one template\n" ++
    "  params    List the parameters of a template\n" ++
    "  example   Print example arguments for a template\n" ++
    "  check     Validate key=value arguments against a template\n" ++
    "  help      Print this message or the help of the given subcommand(s)\n\n" ++
    "Options:\n" ++
    "  -c, --config <CONFIG>                Loader configuration file (TOML format)\n" ++
    "  -t, --templates-dir <TEMPLATES_DIR>  Template directory (overrides the configuration file)\n" ++
    "  -h, --help                           Print help\n"

/-- The answer to the words of a command line. -/
def ofWords (files : Files) (words : List String) : Answer :=
  match Invocation.parse words with
  | .error misuse => ⟨2, "", s!"error: {misuse.message}\n"⟩
  | .ok .help => ⟨0, helpText, ""⟩
  | .ok (.run invocation) => ofInvocation files invocation

end Answer

end Chronicle
