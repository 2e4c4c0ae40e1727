/-! How commands are called: the options they take, and what is wrong with a call. -/
namespace AppDeploy.CommandLine

/-- What an option does with the call. -/
inductive Effect where
  /-- The option is kept for the command. -/
  | keep
  | showHelp
  | showVersion
deriving DecidableEq, Repr

/-- What an option takes. -/
inductive Operand where
  /-- The option is a switch. -/
  | none
  | text
  /-- A text that is not empty. -/
  | path
  /-- A natural number of 64 bits. -/
  | number
deriving DecidableEq, Repr

/-- An option, or the operand of a command that goes by its position. -/
structure Argument where
  name : String
  short : Option Char := .none
  /-- One more name. -/
  otherName : Option String := .none
  operand : Operand := .none
  /-- What the operand is called in messages. -/
  operandName : String := ""
  isPosition : Bool := false
  repeatable : Bool := false
  effect : Effect := .keep
deriving DecidableEq, Repr

namespace Argument

/-- The argument in messages. -/
def display (a : Argument) : String :=
  if a.isPosition then s!"[{a.operandName}]"
  else if a.operand = .none then s!"--{a.name}"
  else s!"--{a.name} <{a.operandName}>"

def isSwitch (a : Argument) : Bool :=
  a.operand = .none

end Argument

/-- What is wrong with a call. -/
inductive UsageError where
  | unknownCommand (name : String)
  | unexpectedArgument (text : String)
  | missingOperand (a : Argument)
  | badNumber (text : String) (a : Argument) (reason : String)
  | needlessOperand (text : String) (a : Argument)
  | repeatedArgument (a : Argument)
  | conflict (first second : Argument)
  | missingCommand
deriving DecidableEq, Repr

def programName : String := "hangar"

def UsageError.message : UsageError → String
  | .unknownCommand name => s!"unrecognized subcommand '{name}'"
  | .unexpectedArgument text => s!"unexpected argument '{text}' found"
  | .missingOperand a => s!"a value is required for '{a.display}' but none was supplied"
  | .badNumber text a reason => s!"invalid value '{text}' for '{a.display}': {reason}"
  | .needlessOperand text a =>
    s!"unexpected value '{text}' for '{a.display}' found; no more were expected"
  | .repeatedArgument a => s!"the argument '{a.display}' cannot be used multiple times"
  | .conflict first second =>
    s!"the argument '{first.display}' cannot be used with '{second.display}'"
  | .missingCommand => s!"'{programName}' requires a subcommand but one was not provided"

/-- Why a call does not get to its command. -/
inductive Stop where
  | usage (error : UsageError)
  /-- Help was asked for. -/
  | help
  | version
  /-- There are no arguments at all. -/
  | empty
deriving DecidableEq, Repr

end AppDeploy.CommandLine
