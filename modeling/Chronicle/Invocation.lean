import Chronicle.Command
import Chronicle.Path

/-!
# Invocations

An invocation is what the words of a command line ask for.  Options stand before
the name of the command, its flags and values behind it.  A word that starts
with a hyphen is an option or a cluster of flags, unless it is a lone hyphen or
stands behind two hyphens.
-/

namespace Chronicle

/-- A command with the options that choose its library. -/
structure Invocation where
  settingsFile : Option Path
  root : Option Path
  command : Command
  deriving DecidableEq, Repr

/-- Why the words of a command line ask for nothing. -/
inductive Misuse
  | noCommand
  | unknownCommand (word : String)
  | unexpectedWord (word : String)
  | noValue (option : String)
  | repeatedOption (option : String)
  | noReference
  deriving DecidableEq, Repr

def Misuse.message : Misuse → String
  | noCommand => "a command is missing"
  | unknownCommand word => s!"unrecognized command '{word}'"
  | unexpectedWord word => s!"unexpected argument '{word}' found"
  | noValue option => s!"a value is required for '{option}'"
  | repeatedOption option => s!"the argument '{option}' cannot be used multiple times"
  | noReference => "a template ID or alias is missing"

inductive Request
  | help
  | run (invocation : Invocation)
  deriving DecidableEq, Repr

namespace Invocation

/-! ## Words -/

inductive Word
  | separator
  | long (name : String) (value : Option String)
  | short (flags : List Char)
  | plain (text : String)
  deriving DecidableEq, Repr

/-- The text before the first equals sign, and the one behind it. -/
def splitValue (characters : List Char) : String × Option String :=
  let name := characters.takeWhile fun character => character != '='
  match characters.dropWhile fun character => character != '=' with
  | [] => (String.ofList name, none)
  | _ :: value => (String.ofList name, some (String.ofList value))

def Word.ofText (text : String) : Word :=
  match text.toList with
  | ['-', '-'] => .separator
  | '-' :: '-' :: rest => let (name, value) := splitValue rest; .long name value
  | '-' :: flag :: flags => .short (flag :: flags)
  | _ => .plain text

/-! ## Words of a command -/

/-- A flag by its letter and by its name. -/
structure Flag where
  letter : Char
  name : String
  deriving DecidableEq, Repr

def helpFlag : Flag :=
  ⟨'h', "help"⟩

def aliasesFlag : Flag :=
  ⟨'a', "aliases"⟩

def verboseFlag : Flag :=
  ⟨'v', "verbose"⟩

/-- What a command takes: flags, and up to as many values as the limit says, if
there is one. -/
structure Form where
  flags : List Flag
  limit : Option Nat

/-- What a command was given. -/
structure Given where
  flags : List Flag
  values : List String

inductive Step
  | help
  | next (given : Given)

def Given.addValue (form : Form) (value : String) (given : Given) : Except Misuse Given :=
  if form.limit.any fun limit => limit ≤ given.values.length then .error (.unexpectedWord value)
  else .ok { given with values := given.values ++ [value] }

/-- Values behind two hyphens. -/
def Given.addValues (form : Form) : List String → Given → Except Misuse Given
  | [], given => .ok given
  | value :: rest, given => do addValues form rest (← given.addValue form value)

/-- Sets a flag, which may not be set before.  The flag for help ends the
reading. -/
def Given.addFlag (form : Form) (isMeant : Flag → Bool) (word : String) (given : Given) :
    Except Misuse Step :=
  match (helpFlag :: form.flags).find? isMeant with
  | none => .error (.unexpectedWord word)
  | some flag =>
      if flag = helpFlag then .ok .help
      else if given.flags.contains flag then .error (.repeatedOption word)
      else .ok (.next { given with flags := flag :: given.flags })

/-- Sets all flags of a cluster. -/
def Given.addCluster (form : Form) (word : String) : List Char → Given → Except Misuse Step
  | [], given => .ok (.next given)
  | letter :: rest, given => do
      match ← given.addFlag form (fun flag => flag.letter == letter) word with
      | .help => return .help
      | .next changed => addCluster form word rest changed

/-- Takes the words of a command one by one. -/
def Given.read (form : Form) : List String → Given → Except Misuse Step
  | [], given => .ok (.next given)
  | word :: rest, given =>
      match Word.ofText word with
      | .separator => do return .next (← given.addValues form rest)
      | .plain value => do read form rest (← given.addValue form value)
      | .long _ (some _) => .error (.unexpectedWord word)
      | .long name none => do
          match ← given.addFlag form (fun flag => flag.name == name) word with
          | .help => return .help
          | .next changed => read form rest changed
      | .short letters => do
          match ← given.addCluster form word letters with
          | .help => return .help
          | .next changed => read form rest changed

/-! ## Commands -/

inductive CommandName
  | list
  | describe
  | params
  | sample
  | check
  deriving DecidableEq, Repr

namespace CommandName

def all : List CommandName :=
  [list, describe, params, sample, check]

def text : CommandName → String
  | list => "list"
  | describe => "describe"
  | params => "params"
  | sample => "example"
  | check => "check"

def ofText? (text : String) : Option CommandName :=
  all.find? fun name => name.text == text

def form : CommandName → Form
  | list => ⟨[aliasesFlag, verboseFlag], some 0⟩
  | describe => ⟨[], some 1⟩
  | params => ⟨[verboseFlag], some 1⟩
  | sample => ⟨[], some 1⟩
  | check => ⟨[], none⟩

/-- The command with what it was given.  All commands but the list need a
template. -/
def command (name : CommandName) (given : Given) : Except Misuse Command :=
  let isVerbose := given.flags.contains verboseFlag
  match name, given.values with
  | list, _ => .ok (.list (given.flags.contains aliasesFlag) isVerbose)
  | _, [] => .error .noReference
  | describe, reference :: _ => .ok (.describe reference)
  | params, reference :: _ => .ok (.parameters reference isVerbose)
  | sample, reference :: _ => .ok (.sample reference)
  | check, reference :: written => .ok (.check reference written)

end CommandName

/-! ## Options -/

/-- The options before the command. -/
structure Options where
  settingsFile : Option Path
  root : Option Path

inductive OptionName
  | settingsFile
  | root
  deriving DecidableEq, Repr

namespace OptionName

def ofName? (name : String) : Option OptionName :=
  if name = "config" then some settingsFile
  else if name = "templates-dir" then some root
  else none

def ofLetter? (letter : Char) : Option OptionName :=
  if letter = 'c' then some settingsFile else if letter = 't' then some root else none

end OptionName

/-- Gives an option its value.  It needs one, and only one. -/
def Options.set (option : OptionName) (word value : String) (options : Options) :
    Except Misuse Options :=
  if value.isEmpty then .error (.noValue word)
  else
    match option with
    | .settingsFile =>
        if options.settingsFile.isSome then .error (.repeatedOption word)
        else .ok { options with settingsFile := some ⟨value⟩ }
    | .root =>
        if options.root.isSome then .error (.repeatedOption word)
        else .ok { options with root := some ⟨value⟩ }

/-- The value that is written in one word with the letter of its option. -/
def attachedValue : List Char → Option String
  | [] => none
  | '=' :: value => some (String.ofList value)
  | value => some (String.ofList value)

/-- An option that a word gives, with the value in the same word, or the flag
for help. -/
inductive OptionWord
  | help
  | named (name : OptionName) (value : Option String)

def OptionWord.ofText (word : String) : Except Misuse OptionWord :=
  match Word.ofText word with
  | .long name value =>
      match OptionName.ofName? name with
      | some option => .ok (.named option value)
      | none =>
          if name = helpFlag.name ∧ value = none then .ok .help
          else .error (.unexpectedWord word)
  | .short (letter :: rest) =>
      match OptionName.ofLetter? letter with
      | some option => .ok (.named option (attachedValue rest))
      | none =>
          if letter = helpFlag.letter then .ok .help else .error (.unexpectedWord word)
  | _ => .error (.unexpectedWord word)

/-- The words behind the name of a command that asks for help. -/
def helpRequest : List String → Except Misuse Request
  | [] => .ok .help
  | [word] =>
      if word = "help" ∨ (CommandName.ofText? word).isSome then .ok .help
      else .error (.unknownCommand word)
  | word :: _ => .error (.unknownCommand word)

/-- The command that a word names, with the words behind it. -/
def commandRequest (options : Options) (word : String) (rest : List String) :
    Except Misuse Request :=
  match CommandName.ofText? word with
  | none => if word = "help" then helpRequest rest else .error (.unknownCommand word)
  | some name => do
      match ← Given.read name.form rest ⟨[], []⟩ with
      | .help => return .help
      | .next given => return .run ⟨options.settingsFile, options.root, ← name.command given⟩

/-- Reads options up to the name of the command.  The value of an option is in
the same word or the next one, which then may not be an option itself. -/
def readOptions : List String → Options → Except Misuse Request
  | [], _ => .error .noCommand
  | word :: rest, options =>
      match Word.ofText word with
      | .plain _ => commandRequest options word rest
      | _ => do
          match ← OptionWord.ofText word with
          | .help => return .help
          | .named option (some value) => readOptions rest (← options.set option word value)
          | .named option none =>
              match rest with
              | [] => throw (.noValue word)
              | value :: behind =>
                  match Word.ofText value with
                  | .plain _ => readOptions behind (← options.set option word value)
                  | _ => throw (.noValue word)

/-- Reads the words of a command line. -/
def parse (words : List String) : Except Misuse Request :=
  readOptions words ⟨none, none⟩

end Invocation

end Chronicle
