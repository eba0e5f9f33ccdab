import RemoteConsole.Query.Family
import RemoteConsole.Text.Decimal

/-!
# Arguments

What the arguments of the program say. They are read in two passes: the first walks over them and
stops at the first one that cannot stand where it is, and the second checks what was collected, in
the order in which the options first occurred.
-/

namespace RemoteConsole.CommandLine

/-- What the program is asked to do. -/
structure Arguments where
  /-- The address of the server, as it was given. -/
  address : String
  /-- Whether a response may span several packets. -/
  multiPacket : Bool := false
  /-- How many seconds to wait for the server. -/
  timeout : Nat := 5
  /-- The query to make in place of a session, if any. -/
  query : Option Query.Family := none
deriving Repr, DecidableEq

/-- Why arguments are refused, or what they ask for in place of running the program. -/
inductive ArgumentsError where
  /-- There is no address. -/
  | missingRequiredArgument
  /-- An argument is neither an option nor the address. -/
  | unknownArgument
  /-- A value is not one that the option takes. -/
  | valueValidation
  /-- An option has no value. -/
  | emptyValue
  /-- An option that takes no value has one. -/
  | tooManyValues
  /-- An option is given more than once. -/
  | unexpectedMultipleUsage
  /-- The help is asked for. -/
  | displayHelp
  /-- The version is asked for. -/
  | displayVersion
deriving Repr, DecidableEq

/-- The arguments that have a name or a place. -/
inductive Parameter where
  /-- The address. -/
  | address
  /-- The option that allows responses of several packets. -/
  | multiPacket
  /-- The option for the time to wait. -/
  | timeout
  /-- The option for a query. -/
  | query
deriving Repr, DecidableEq

/-- What was collected of one parameter: a list of values for each time it occurred. -/
structure Occurrences where
  /-- The parameter. -/
  parameter : Parameter
  /-- The values of each occurrence. -/
  values : List (List String)
deriving Repr, DecidableEq

/-- What was collected so far, and the option that waits for its value. -/
structure Collected where
  /-- The parameters, in the order of their first occurrence. -/
  found : List Occurrences := []
  /-- The option whose value comes next. -/
  awaiting : Option Parameter := none
  /-- Whether every argument to come is an address. -/
  trailing : Bool := false
deriving Repr, DecidableEq

namespace Collected

/-- The occurrences of a parameter. -/
def values (c : Collected) (p : Parameter) : List (List String) :=
  ((c.found.find? (·.parameter == p)).map Occurrences.values).getD []

/-- One more occurrence of a parameter. -/
def add (c : Collected) (p : Parameter) (vs : List String) : Collected :=
  if c.found.any (·.parameter == p) then
    { c with found := c.found.map fun o =>
        if o.parameter == p then { o with values := o.values ++ [vs] } else o }
  else { c with found := c.found ++ [⟨p, [vs]⟩] }

/-- A value for the latest occurrence of a parameter. -/
def addValue (c : Collected) (p : Parameter) (v : String) : Collected :=
  { c with found := c.found.map fun o =>
      if o.parameter == p then
        { o with values := o.values.dropLast ++ [o.values.getLastD [] ++ [v]] }
      else o }

/-- A parameter whose every occurrence lacks a value. -/
def lacksValue (c : Collected) (p : Parameter) : Bool :=
  (c.values p).all List.isEmpty

/-- A long option, with the value after an equals sign if there is one. -/
def long (c : Collected) (name : List Char) (value : Option (List Char)) :
    Except ArgumentsError Collected :=
  let flag (result : Except ArgumentsError Collected) : Except ArgumentsError Collected :=
    if value.isSome then .error .tooManyValues else result
  let option (p : Parameter) : Except ArgumentsError Collected :=
    match value with
    | some v => .ok { c.add p [String.ofList v] with awaiting := none }
    | none => .ok { c.add p [] with awaiting := some p }
  match String.ofList name with
  | "multi-packet" => flag (.ok { c.add .multiPacket [] with awaiting := none })
  | "timeout" => option .timeout
  | "query" => option .query
  | "help" => flag (.error .displayHelp)
  | "version" => flag (.error .displayVersion)
  | _ => .error .unknownArgument

/-- A group of short options, of which the first one decides, since each that is known ends the
program. -/
def short : Char → ArgumentsError
  | 'h' => .displayHelp
  | 'V' => .displayVersion
  | _ => .unknownArgument

/-- The address. There is one at most. -/
def place (c : Collected) (arg : List Char) : Except ArgumentsError Collected :=
  if (c.values .address).isEmpty then
    .ok { c.add .address [String.ofList arg] with awaiting := none }
  else .error .unknownArgument

/-- The text before the first equals sign, and the text after it. -/
def splitEquals (cs : List Char) : List Char × Option (List Char) :=
  match cs.dropWhile (· != '=') with
  | [] => (cs, none)
  | _ :: value => (cs.takeWhile (· != '='), some value)

/-- One argument. -/
def step (c : Collected) (arg : String) : Except ArgumentsError Collected :=
  let value (cs : List Char) : Except ArgumentsError Collected :=
    match c.awaiting with
    | some p => .ok { c.addValue p (String.ofList cs) with awaiting := none }
    | none => c.place cs
  if c.trailing then c.place arg.toList
  else
    match arg.toList with
    | ['-', '-'] => .ok { c with trailing := true }
    | '-' :: '-' :: rest =>
      let (name, attached) := splitEquals rest
      c.long name attached
    -- a value may not start with a dash, so a number below zero is read as a short option
    | '-' :: flag :: _ => .error (short flag)
    | cs => value cs

/-- All arguments. -/
def steps (c : Collected) : List String → Except ArgumentsError Collected
  | [] => .ok c
  | arg :: args => (c.step arg).bind fun c => c.steps args

/-- The number of seconds that a value stands for, of 64 bits. -/
def seconds? (value : String) : Option Nat :=
  Text.natural? UInt64.size value

/-- Whether a value is one that the parameter takes. -/
def accepts (p : Parameter) (value : String) : Bool :=
  match p with
  | .address | .multiPacket => true
  | .timeout => (seconds? value).isSome
  | .query => (Query.Family.ofName value).toOption.isSome

/-- Checks what was collected of one parameter. -/
def check (o : Occurrences) : Except ArgumentsError Unit :=
  if o.parameter ≠ .multiPacket ∧ o.values.all List.isEmpty then .error .emptyValue
  else if !(o.values.flatten.all (accepts o.parameter)) then .error .valueValidation
  else if 1 < o.values.length then .error .unexpectedMultipleUsage
  else .ok ()

/-- The first thing that is wrong with what was collected. -/
def checkAll (c : Collected) : Except ArgumentsError Unit :=
  -- the last option is looked at before anything that is missing
  if c.awaiting.any c.lacksValue then .error .emptyValue
  else if (c.values .address).isEmpty then .error .missingRequiredArgument
  else c.found.forM check

/-- The value of a parameter. -/
def value? (c : Collected) (p : Parameter) : Option String :=
  (c.values p).flatten.getLast?

/-- What was collected, as the program takes it. -/
def arguments (c : Collected) : Arguments where
  address := (c.value? .address).getD ""
  multiPacket := !(c.values .multiPacket).isEmpty
  timeout := ((c.value? .timeout).bind seconds?).getD 5
  query := (c.value? .query).bind fun name => (Query.Family.ofName name).toOption

end Collected

/-- What some arguments say. -/
def Arguments.parse (args : List String) : Except ArgumentsError Arguments := do
  let collected ← Collected.steps {} args
  collected.checkAll
  return collected.arguments

end RemoteConsole.CommandLine
