import Gatehouse.Gateway.Startup

/-!
# What the command line asks for

The program takes the name of a configuration file, and may be asked to do no more than look whether
the file can be used.

## Contract

* A name follows its option as the next argument, after an equals sign, or right after the short
  option.
* Looking at a file needs the name of one, and no option is given twice.
-/

namespace Gatehouse

/-- What a command line asks for. -/
structure Invocation where
  /-- The configuration file. -/
  config : Option String := none
  /-- Whether only the file is to be looked at. -/
  check : Bool := false
  deriving DecidableEq, Repr

/-- Why a command line asks for nothing that can be done. -/
inductive UsageError where
  | unexpected (argument : String)
  | noValue
  | repeated (option : String)
  | checkWithoutConfig
  deriving DecidableEq, Repr

namespace UsageError

/-- The fault in words. -/
def message : UsageError → String
  | unexpected a => "unexpected argument '" ++ a ++ "' found"
  | noValue => "a value is required for '--config <CONFIG>' but none was supplied"
  | repeated o => "the argument '" ++ o ++ "' cannot be used multiple times"
  | checkWithoutConfig =>
    "the following required arguments were not provided:\n  --config <CONFIG>"

end UsageError

namespace Invocation

/-- The invocation with a configuration file, if it has none yet. -/
def withConfig (i : Invocation) (path : String) : Except UsageError Invocation :=
  if i.config.isSome then .error (.repeated "--config <CONFIG>")
  else .ok { i with config := some path }

/-- The file named in the same argument as the option, if `a` is such an argument. -/
def attached? (a : String) : Option String :=
  match Text.after? "--config=".toList a.toList with
  | some path => some (String.ofList path)
  | none =>
    match a.toList with
    | '-' :: 'c' :: '=' :: path => some (String.ofList path)
    | '-' :: 'c' :: path => some (String.ofList path)
    | _ => none

/-- Whether an argument reads as an option, so that it is no option's value. -/
def isOption (a : String) : Bool :=
  match a.toList with
  | '-' :: _ :: _ => true
  | _ => false

/-- Adds to an invocation what further arguments ask for. -/
def extend (i : Invocation) : List String → Except UsageError Invocation
  | [] => .ok i
  | "--check" :: r =>
    if i.check then .error (.repeated "--check") else extend { i with check := true } r
  | [a] =>
    if a = "--config" ∨ a = "-c" then .error .noValue
    else
      match attached? a with
      | some path => i.withConfig path
      | none => .error (.unexpected a)
  | a :: b :: r =>
    if a = "--config" ∨ a = "-c" then
      if isOption b then .error .noValue else do extend (← i.withConfig b) r
    else
      match attached? a with
      | some path => do extend (← i.withConfig path) (b :: r)
      | none => .error (.unexpected a)

/-- What the arguments of the program ask for. -/
def ofArgs (args : List String) : Except UsageError Invocation := do
  let i ← extend {} args
  if i.check ∧ i.config = none then .error .checkWithoutConfig else return i

end Invocation

/-- What is said of a configuration file that was looked at. -/
def checkReport (path : String) (file : Except String String) : Except String String :=
  match Config.load (some file) with
  | .ok c => .ok (path ++ ": OK (" ++ toString c.services.length ++ " services)")
  | .error e => .error (path ++ ": " ++ e.message)

end Gatehouse
