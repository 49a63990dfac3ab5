import Chronicle.Fault
import Chronicle.Table
import Chronicle.Text.Blank

/-!
# Arguments

Arguments are text values under distinct keys, in the order in which the keys
were first set.  Setting a key again replaces its value in place.  An argument
is written as its key, an equals sign and its value.
-/

namespace Chronicle

structure Arguments where
  entries : List (String × String)
  distinct : (entries.map Prod.fst).Nodup
  deriving Repr

namespace Arguments

/-! ## Access -/

def empty : Arguments :=
  ⟨[], List.nodup_nil⟩

instance : Inhabited Arguments := ⟨empty⟩

def get? (arguments : Arguments) (key : String) : Option String :=
  Table.lookup key arguments.entries

def contains (arguments : Arguments) (key : String) : Bool :=
  arguments.entries.any fun entry => entry.1 == key

/-- The keys in the order in which they were first set. -/
def keys (arguments : Arguments) : List String :=
  arguments.entries.map Prod.fst

def size (arguments : Arguments) : Nat :=
  arguments.entries.length

def isEmpty (arguments : Arguments) : Bool :=
  arguments.entries.isEmpty

/-! ## Setting -/

def set (arguments : Arguments) (key value : String) : Arguments :=
  ⟨Table.setEntry key value arguments.entries, Table.nodup_keys_setEntry arguments.distinct⟩

/-! ## Written arguments -/

/-- The parts before and after the first equals sign. -/
def splitPair (written : String) : Option (String × String) :=
  let characters := written.toList
  let key := characters.takeWhile fun character => character != '='
  match characters.dropWhile fun character => character != '=' with
  | [] => none
  | _ :: value => some (String.ofList key, String.ofList value)

/-- Adds one written argument.  Blanks around its key do not count. -/
def add (arguments : Arguments) (written : String) : Except Fault Arguments :=
  match splitPair written with
  | none => .error (.validation (.noSeparator written))
  | some (paddedKey, value) =>
      let key := Text.trim paddedKey
      if key.isEmpty then .error (.validation (.emptyKey written))
      else if arguments.contains key then .error (.validation (.repeatedKey key))
      else .ok (arguments.set key value)

/-- Reads written arguments, whose keys must all differ. -/
def parse (written : List String) : Except Fault Arguments :=
  written.foldlM add empty

/-- The written form of one argument. -/
def writePair (entry : String × String) : String :=
  entry.1 ++ "=" ++ entry.2

/-- All arguments in their written form. -/
def write (arguments : Arguments) : List String :=
  arguments.entries.map writePair

end Arguments

end Chronicle
