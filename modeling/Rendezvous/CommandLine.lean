import Rendezvous.Settings

/-!
The arguments of the command: a settings file, and an address that takes the place of the one in
the settings. An option and its value are two arguments, or one with an equals sign between.
-/
namespace Rendezvous

structure CommandLine where
  settingsFile : Option String := none
  bindAddress : Option SocketAddress := none
  deriving DecidableEq, Repr

namespace CommandLine

inductive Fault
  | unknown (argument : String)
  | missingValue (option : String)
  | notAnAddress (text : String)
  deriving DecidableEq, Repr

def Fault.message : Fault → String
  | .unknown argument => "unexpected argument " ++ Text.quoted argument
  | .missingValue option => "a value is required for " ++ option
  | .notAnAddress text => Text.quoted text ++ " is not a socket address"

inductive Opt
  | config
  | bind
  deriving DecidableEq, Repr

def option? (argument : String) : Option Opt :=
  if argument = "-c" ∨ argument = "--config" then some .config
  else if argument = "-b" ∨ argument = "--bind" then some .bind
  else none

def assign (c : CommandLine) (value : String) : Opt → Except Fault CommandLine
  | .config => .ok { c with settingsFile := some value }
  | .bind =>
    match SocketAddress.parse? value with
    | some address => .ok { c with bindAddress := some address }
    | none => .error (.notAnAddress value)

/-- An argument that holds an equals sign is an option and its value. -/
def split? (argument : String) : Option (Opt × String) :=
  let (name, value) := argument.toList.span (· ≠ '=')
  match value with
  | [] => none
  | _ :: value => (option? (String.ofList name)).map (·, String.ofList value)

/-- An argument that stands for itself. -/
def single (c : CommandLine) (argument : String) : Except Fault CommandLine :=
  match option? argument, split? argument with
  | some _, _ => .error (.missingValue argument)
  | none, some (option, value) => c.assign value option
  | none, none => .error (.unknown argument)

def parse (c : CommandLine) : List String → Except Fault CommandLine
  | [] => .ok c
  | [argument] => c.single argument
  | argument :: value :: rest =>
    match option? argument with
    | some option => do (← c.assign value option).parse rest
    | none => do (← c.single argument).parse (value :: rest)

/-- The settings to run with, given those of the file. -/
def settings (c : CommandLine) (s : Settings) : Settings :=
  match c.bindAddress with
  | none => s
  | some address => { s with bindAddress := address }

end CommandLine

end Rendezvous
