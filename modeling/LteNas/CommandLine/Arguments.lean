import LteNas.Link

namespace LteNas

/-!
# Arguments

Options may stand anywhere between messages.  Each may be given once, its value
follows as the next word or in the same one, and a word of two hyphens ends the
options.
-/

namespace CommandLine

/-- The options that take a value. -/
inductive OptionName where
  | file
  | config
  | key
  | direction
  | logLevel
  deriving Repr, DecidableEq

/-- The options that take none. -/
inductive FlagName where
  | plain
  | nullDecipher
  | help
  | version
  deriving Repr, DecidableEq

namespace OptionName

def ofLong? (name : String) : Option OptionName :=
  match name with
  | "file" => some .file
  | "config" => some .config
  | "key" => some .key
  | "direction" => some .direction
  | "log-level" => some .logLevel
  | _ => none

def ofLetter? (letter : Char) : Option OptionName :=
  match letter with
  | 'f' => some .file
  | 'c' => some .config
  | 'k' => some .key
  | 'd' => some .direction
  | 'l' => some .logLevel
  | _ => none

def text : OptionName → String
  | .file => "--file"
  | .config => "--config"
  | .key => "--key"
  | .direction => "--direction"
  | .logLevel => "--log-level"

end OptionName

namespace FlagName

def ofLong? (name : String) : Option FlagName :=
  match name with
  | "plain" => some .plain
  | "null-decipher" => some .nullDecipher
  | "help" => some .help
  | "version" => some .version
  | _ => none

def ofLetter? (letter : Char) : Option FlagName :=
  match letter with
  | 'h' => some .help
  | 'V' => some .version
  | _ => none

def text : FlagName → String
  | .plain => "--plain"
  | .nullDecipher => "--null-decipher"
  | .help => "--help"
  | .version => "--version"

end FlagName

/-- What a word of the command line is. -/
inductive Word where
  | message (text : String)
  | endOfOptions
  | flag (name : FlagName)
  /-- An option whose value is in the same word. -/
  | withValue (name : OptionName) (value : String)
  /-- An option whose value is the next word. -/
  | beforeValue (name : OptionName)
  | unknown (text : String)
  deriving Repr, DecidableEq

namespace Word

/-- The name in front of the first equals sign, and the value behind it, if there is a sign. -/
def splitLong (text : List Char) : String × Option String :=
  let name := text.takeWhile (· != '=')
  match text.drop name.length with
  | [] => (String.ofList name, none)
  | _ :: value => (String.ofList name, some (String.ofList value))

/-- The word behind two hyphens; a flag takes no value. -/
def ofLong (text : List Char) : Word :=
  let whole := "--" ++ String.ofList text
  match splitLong text with
  | (name, none) =>
      match OptionName.ofLong? name, FlagName.ofLong? name with
      | some option, _ => .beforeValue option
      | none, some found => .flag found
      | none, none => .unknown whole
  | (name, some value) =>
      match OptionName.ofLong? name with
      | some option => .withValue option value
      | none => .unknown whole

/-- The word of a letter and what follows it; an equals sign in front of a value is dropped. -/
def ofLetter (letter : Char) (rest : List Char) : Word :=
  match OptionName.ofLetter? letter, rest with
  | some option, [] => .beforeValue option
  | some option, '=' :: value => .withValue option (String.ofList value)
  | some option, value => .withValue option (String.ofList value)
  | none, _ =>
      match FlagName.ofLetter? letter with
      | some found => .flag found
      | none => .unknown (String.ofList ('-' :: letter :: rest))

/-- What a word is; a lone hyphen is a message. -/
def ofText (text : String) : Word :=
  match text.toList with
  | ['-', '-'] => .endOfOptions
  | '-' :: '-' :: long => ofLong long
  | '-' :: letter :: rest => ofLetter letter rest
  | _ => .message text

end Word

/-- Why a command line cannot be followed. -/
inductive UsageFault where
  | unknownWord (text : String)
  | missingValue (name : OptionName)
  | repeatedOption (name : OptionName)
  | repeatedFlag (name : FlagName)
  | badValue (name : OptionName) (complaint : String)
  deriving Repr, DecidableEq

def UsageFault.message : UsageFault → String
  | .unknownWord text =>
      s!"unexpected argument '{text}'"
  | .missingValue name =>
      s!"a value is required for '{name.text}'"
  | .repeatedOption name =>
      s!"'{name.text}' cannot be used multiple times"
  | .repeatedFlag name =>
      s!"'{name.text}' cannot be used multiple times"
  | .badValue name complaint =>
      s!"invalid value for '{name.text}': {complaint}"

/-- What a command line asks for; what is not given is nothing. -/
structure Arguments where
  messages : List String
  file : Option String
  config : Option String
  key : Option String
  direction : Option Direction
  logLevel : Option LogLevel
  plain : Bool
  nullDecipher : Bool
  deriving Repr, DecidableEq

/-- A command line that can be followed. -/
inductive Request where
  | run (arguments : Arguments)
  | help
  | version
  deriving Repr, DecidableEq

namespace Arguments

def empty : Arguments where
  messages := []
  file := none
  config := none
  key := none
  direction := none
  logLevel := none
  plain := false
  nullDecipher := false

def addMessages (arguments : Arguments) (messages : List String) : Arguments :=
  { arguments with messages := arguments.messages ++ messages }

/-- Set an option that has not been set. -/
def once
    (name : OptionName)
    (current : Option α)
    (value : Except UsageFault α) :
    Except UsageFault (Option α) :=
  match current with
  | some _ => .error (.repeatedOption name)
  | none => value.map some

def pathOf (name : OptionName) (value : String) : Except UsageFault String :=
  if value.isEmpty then .error (.badValue name "a path is required") else .ok value

/-- The value of a word, or the complaint that it names none. -/
def namedBy
    (name : OptionName)
    (found : Option α)
    (complaint : String) :
    Except UsageFault α :=
  match found with
  | some value => .ok value
  | none => .error (.badValue name complaint)

def setOption
    (arguments : Arguments)
    (name : OptionName)
    (value : String) :
    Except UsageFault Arguments :=
  match name with
  | .file =>
      (once name arguments.file (pathOf name value)).map fun file =>
        { arguments with file }
  | .config =>
      (once name arguments.config (pathOf name value)).map fun config =>
        { arguments with config }
  | .key =>
      (once name arguments.key (.ok value)).map fun key =>
        { arguments with key }
  | .direction =>
      let found := namedBy name (Direction.parse? value) (Direction.unknownMessage value)
      (once name arguments.direction found).map fun direction =>
        { arguments with direction }
  | .logLevel =>
      let found := namedBy name (LogLevel.parse? value) (LogLevel.unknownMessage value)
      (once name arguments.logLevel found).map fun logLevel =>
        { arguments with logLevel }

/-- Read the words of a command line behind those that were taken in already. -/
def readFrom (arguments : Arguments) : List String → Except UsageFault Request
  | [] =>
      .ok (.run arguments)
  | word :: words =>
      match Word.ofText word with
      | .message text =>
          readFrom (arguments.addMessages [text]) words
      | .endOfOptions =>
          .ok (.run (arguments.addMessages words))
      | .flag .help =>
          .ok .help
      | .flag .version =>
          .ok .version
      | .flag .plain =>
          if arguments.plain then
            .error (.repeatedFlag .plain)
          else
            readFrom { arguments with plain := true } words
      | .flag .nullDecipher =>
          if arguments.nullDecipher then
            .error (.repeatedFlag .nullDecipher)
          else
            readFrom { arguments with nullDecipher := true } words
      | .withValue name value =>
          match arguments.setOption name value with
          | .ok arguments => readFrom arguments words
          | .error fault => .error fault
      | .beforeValue name =>
          match words with
          | [] =>
              .error (.missingValue name)
          | value :: words =>
              match Word.ofText value with
              | .message _ =>
                  match arguments.setOption name value with
                  | .ok arguments => readFrom arguments words
                  | .error fault => .error fault
              | _ =>
                  .error (.missingValue name)
      | .unknown text =>
          .error (.unknownWord text)

def read (words : List String) : Except UsageFault Request :=
  readFrom empty words

end Arguments

end CommandLine

end LteNas
