/-
The arguments of the command line. An option has a long name and maybe a letter, and takes one
value, either attached or as the next argument; each may be given once. The name of a command ends
the options of the whole program and starts those of the command. The arguments are taken one by
one, and the first that does not fit makes all of them unusable.
-/

import SharpTypes.Output.Event
import SharpTypes.Settings.Format

namespace SharpTypes.Command

open Text

/-- How much is written about what happens along the way. -/
inductive LogLevel where
  | trace
  | debug
  | info
  | warn
  | error
  | off
  deriving DecidableEq, Repr

namespace LogLevel

/-- The levels, from the one with most notes to the one with none. -/
def all : List LogLevel :=
  [.trace, .debug, .info, .warn, .error, .off]

/-- The name of a level. -/
def name : LogLevel → List Char
  | .trace => "trace".toList
  | .debug => "debug".toList
  | .info => "info".toList
  | .warn => "warn".toList
  | .error => "error".toList
  | .off => "off".toList

/-- The level of a name. -/
def ofName? (text : List Char) : Option LogLevel :=
  all.find? fun level => level.name == text

/-- Whether events of a level are written. -/
def admits : LogLevel → Level → Bool
  | .trace, _ => true
  | .debug, _ => true
  | .info, level => level ≠ .debug
  | .warn, level => level = .warn
  | .error, _ => false
  | .off, _ => false

end LogLevel

/-- What is to be done. -/
inductive Task where
  | generate (settings : Option FilePath)
  | init (format : SettingsFormat)
  | check (settings : Option FilePath)
  deriving DecidableEq, Repr

/-- What the arguments ask for. -/
inductive Arguments where
  | task (task : Task) (logLevel : LogLevel)
  | version
  | help
  /-- They cannot be understood. -/
  | misuse
  deriving DecidableEq, Repr

namespace Arguments

/-! ### Options -/

/-- An option with a value. -/
inductive OptionName where
  | logLevel
  | settings
  | format
  deriving DecidableEq, Repr

namespace OptionName

/-- The name after two dashes. -/
def long : OptionName → List Char
  | .logLevel => "log-level".toList
  | .settings => "config".toList
  | .format => "format".toList

/-- The letter after one dash. -/
def short? : OptionName → Option Char
  | .logLevel => none
  | .settings => some 'c'
  | .format => some 'f'

/-- Whether the option may have the value. -/
def admits (value : List Char) : OptionName → Bool
  | .logLevel => (LogLevel.ofName? value).isSome
  | .settings => !value.isEmpty
  | .format => (SettingsFormat.ofName? value).isSome

end OptionName

/-- What the options belong to. -/
inductive Scope where
  /-- The program. -/
  | program
  | generate
  | init
  | check
  /-- The command that explains; whether it has been told what to explain. -/
  | help (told : Bool)
  deriving DecidableEq, Repr

namespace Scope

/-- The scope of the name of a command. -/
def ofName? (name : List Char) : Option Scope :=
  if name = "generate".toList then some .generate
  else if name = "init".toList then some .init
  else if name = "check".toList then some .check
  else if name = "help".toList then some (.help false)
  else none

/-- The options of a scope. -/
def options : Scope → List OptionName
  | .program => [.logLevel]
  | .generate => [.settings, .logLevel]
  | .init => [.format, .logLevel]
  | .check => [.settings, .logLevel]
  | .help _ => []

end Scope

/-! ### One argument at a time -/

/-- What has been read of the arguments. -/
structure Progress where
  scope : Scope
  /-- The options that were given to the program before the command. -/
  outer : List (OptionName × List Char)
  /-- The options that were given in the scope. -/
  given : List (OptionName × List Char)
  /-- The option whose value comes next. -/
  pending : Option OptionName
  /-- Whether two dashes have ended the options. -/
  isEnded : Bool
  deriving DecidableEq, Repr

namespace Progress

/-- Before the first argument. -/
def start : Progress :=
  ⟨.program, [], [], none, false⟩

/-- An option is given a value. -/
def give (progress : Progress) (option : OptionName) (value : List Char) :
    Except Arguments Progress :=
  if progress.given.any (·.1 == option) || !option.admits value then .error .misuse
  else .ok { progress with given := (option, value) :: progress.given, pending := none }

/-- The value of an option comes next. -/
def await (progress : Progress) (option : OptionName) : Except Arguments Progress :=
  .ok { progress with pending := some option }

/-- An argument with a long name, and the value attached to it. -/
def long (progress : Progress) (name : List Char) (value : Option (List Char)) :
    Except Arguments Progress :=
  match progress.scope.options.find? fun option => option.long == name with
  | some option =>
    match value with
    | some value => progress.give option value
    | none => progress.await option
  | none =>
    if value.isSome then .error .misuse
    else if name = "help".toList then .error .help
    else if name = "version".toList ∧ progress.scope = .program then .error .version
    else .error .misuse

/-- An argument with a letter, and what is attached to it. A value may be attached with or without
an equals sign. -/
def short (progress : Progress) (letter : Char) (attached : List Char) :
    Except Arguments Progress :=
  match progress.scope.options.find? fun option => option.short? == some letter with
  | some option =>
    match attached with
    | [] => progress.await option
    | '=' :: value => progress.give option value
    | value => progress.give option value
  | none =>
    if letter = 'h' then .error .help
    else if letter = 'V' ∧ progress.scope = .program then .error .version
    else .error .misuse

/-- An argument without a dash. -/
def name (progress : Progress) (text : List Char) : Except Arguments Progress :=
  match progress.scope, Scope.ofName? text with
  | .program, some scope => .ok ⟨scope, progress.given, [], none, false⟩
  | .help false, some _ => .ok { progress with scope := .help true }
  | _, _ => .error .misuse

/-- The next argument. -/
def step (progress : Progress) (argument : List Char) : Except Arguments Progress :=
  if progress.isEnded then .error .misuse
  else
    match progress.pending, argument with
    | some _, '-' :: _ :: _ => .error .misuse
    | some option, value => progress.give option value
    | none, ['-', '-'] => .ok { progress with isEnded := true }
    | none, '-' :: '-' :: text =>
      progress.long (beforeFirst '=' text) (if text.contains '=' then
        some ((text.dropWhile (· ≠ '=')).drop 1) else none)
    | none, '-' :: letter :: attached => progress.short letter attached
    | none, text => progress.name text

/-- The value that was given to an option. -/
def value? (option : OptionName) (given : List (OptionName × List Char)) : Option (List Char) :=
  (given.find? (·.1 == option)).map Prod.snd

/-- The level of notes that was asked for, which is usually that of warnings. -/
def logLevel (progress : Progress) : LogLevel :=
  ((value? .logLevel (progress.given ++ progress.outer)).bind LogLevel.ofName?).getD .warn

/-- The settings file that was asked for. -/
def settings (progress : Progress) : Option FilePath :=
  (value? .settings progress.given).map FilePath.mk

/-- What all arguments together ask for. Without a command files are generated. -/
def finish (progress : Progress) : Arguments :=
  if progress.pending.isSome then .misuse
  else
    match progress.scope with
    | .program => .task (.generate none) progress.logLevel
    | .generate => .task (.generate progress.settings) progress.logLevel
    | .init =>
      let format := ((value? .format progress.given).bind SettingsFormat.ofName?).getD .json
      .task (.init format) progress.logLevel
    | .check => .task (.check progress.settings) progress.logLevel
    | .help _ => .help

end Progress

/-- What arguments ask for. -/
def parse (arguments : List (List Char)) : Arguments :=
  match arguments.foldlM Progress.step .start with
  | .ok progress => progress.finish
  | .error found => found

end Arguments

end SharpTypes.Command
