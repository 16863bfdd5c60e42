import EventLedger.Number.Unsigned

/-!
# The command line

The arguments of the maintenance program: options of the program, a command and the command's own
options and operands.  Arguments are read from left to right; the value of an option is checked when
the next argument begins, and what is missing is reported last.

## Main definitions

* `UsageError` — why arguments are refused, or why nothing but a notice is printed.
* `Grammar`, `Grammar.read` — the options and operands of a command, and reading them.
* `Invocation`, `Invocation.parse` — the program's arguments.
-/

namespace EventLedger

/-- Why a command line does not lead to a command. -/
inductive UsageError
  /-- Help was asked for. -/
  | displayHelp
  /-- The version was asked for. -/
  | displayVersion
  /-- Nothing was given, so help is shown. -/
  | helpForNothing
  /-- An option or an operand is missing. -/
  | missingArgument
  /-- No command was given. -/
  | missingSubcommand
  /-- An argument is not known. -/
  | unknownArgument
  /-- The command is not known. -/
  | invalidSubcommand
  /-- An option stands without its value. -/
  | invalidValue
  /-- A value is not of the right kind. -/
  | valueValidation
  /-- An option was given twice. -/
  | argumentConflict
  /-- A value was given to an option that takes none. -/
  | tooManyValues
  deriving DecidableEq, Repr

/-- Whether the program ends without fault. -/
def UsageError.isNotice : UsageError → Bool
  | .displayHelp => true
  | .displayVersion => true
  | _ => false

/-- The name of the kind of fault. -/
def UsageError.kind : UsageError → String
  | .displayHelp => "DisplayHelp"
  | .displayVersion => "DisplayVersion"
  | .helpForNothing => "DisplayHelpOnMissingArgumentOrSubcommand"
  | .missingArgument => "MissingRequiredArgument"
  | .missingSubcommand => "MissingSubcommand"
  | .unknownArgument => "UnknownArgument"
  | .invalidSubcommand => "InvalidSubcommand"
  | .invalidValue => "InvalidValue"
  | .valueValidation => "ValueValidation"
  | .argumentConflict => "ArgumentConflict"
  | .tooManyValues => "TooManyValues"

/-! ### Numbers -/

/-- The value of a text of at least one decimal digit. -/
def readDigits? (cs : List Char) : Option Nat :=
  if !cs.isEmpty && cs.all Char.isDigit then
    some (cs.foldl (fun n c => n * 10 + digitValue c) 0)
  else none

/-- A number with or without a sign, not negative and at most `greatest`. -/
def readSigned? (greatest : Nat) (s : String) : Option Nat :=
  match s.toList with
  | '-' :: cs => (readDigits? cs).filter (· = 0)
  | _ => readUnsigned? greatest s

/-! ### Grammars -/

/-- An option with a value. -/
structure ValueOption where
  /-- The name, without hyphens. -/
  name : String
  /-- Whether a text is a value of the option. -/
  accepts : String → Bool

/-- The options and operands of a command. -/
structure Grammar where
  /-- The options. -/
  options : List ValueOption
  /-- The names of the operands, all of them required. -/
  operands : List String := []
  /-- The commands inside this one. -/
  subcommands : List String := []
  /-- Whether the version can be asked for. -/
  versioned : Bool := false

/-- How far the arguments of a command have been read. -/
structure Reading where
  /-- The names of the options and operands with their texts. -/
  given : List (String × String) := []
  /-- The last option, with its value if that has been read. -/
  pending : Option (ValueOption × Option String) := none
  /-- The operands that are still to come. -/
  operands : List String
  /-- Whether only operands can follow. -/
  trailing : Bool := false

namespace Reading

/-- Whether an option waits for its value. -/
def awaits (r : Reading) : Bool :=
  match r.pending with
  | some (_, none) => true
  | _ => false

/-- Takes the value of an option. -/
def accept (r : Reading) (o : ValueOption) (value : String) : Except UsageError Reading :=
  if (r.given.lookup o.name).isSome then .error .argumentConflict
  else if !o.accepts value then .error .valueValidation
  else .ok { r with given := r.given ++ [(o.name, value)] }

/-- Takes the last option, if it has not been taken. -/
def resolve (r : Reading) : Except UsageError Reading :=
  match r.pending with
  | none => .ok r
  | some (_, none) => .error .invalidValue
  | some (o, some value) => accept { r with pending := none } o value

end Reading

namespace Grammar

/-- The options that every command has, besides those with a value. -/
inductive Notice
  | help
  | version

/-- The notice that a long option asks for. -/
def longNotice? (g : Grammar) (name : String) : Option Notice :=
  if name = "help" then some .help
  else if name = "version" ∧ g.versioned then some .version
  else none

/-- The notice that a short option asks for. -/
def shortNotice? (g : Grammar) (c : Char) : Option Notice :=
  if c = 'h' then some .help
  else if c = 'V' ∧ g.versioned then some .version
  else none

/-- How a notice ends the reading. -/
def Notice.show (r : Reading) : Notice → UsageError
  | n =>
    match r.resolve with
    | .error e => e
    | .ok _ =>
      match n with
      | .help => .displayHelp
      | .version => .displayVersion

/-- The name and the attached value of a long option, which stands without its hyphens. -/
def splitAttached (cs : List Char) : String × Option String :=
  let name := cs.takeWhile (· != '=')
  match cs.drop name.length with
  | [] => (String.ofList name, none)
  | _ :: value => (String.ofList name, some (String.ofList value))

/-- Reads a long option. -/
def readLong (g : Grammar) (r : Reading) (cs : List Char) : Except UsageError Reading :=
  let (name, attached) := splitAttached cs
  match g.options.find? fun o => o.name == name with
  | some o => do
    let r ← r.resolve
    match attached with
    | some value => r.accept o value
    | none => pure { r with pending := some (o, none) }
  | none =>
    match g.longNotice? name, attached with
    | none, _ => .error .unknownArgument
    | some _, some _ => .error .tooManyValues
    | some n, none => .error (n.show r)

/-- Reads an argument that is neither an option nor the value of one. -/
def readOperand (g : Grammar) (r : Reading) (arg : String) : Except UsageError Reading :=
  match r.operands with
  | name :: rest => do
    let r ← r.resolve
    pure { r with given := r.given ++ [(name, arg)], operands := rest }
  | [] =>
    if g.subcommands.isEmpty || (r.trailing && g.subcommands.contains arg) then
      .error .unknownArgument
    else .error .invalidSubcommand

/-- Reads an argument. -/
def readOne (g : Grammar) (r : Reading) (arg : String) : Except UsageError Reading :=
  if r.trailing then g.readOperand r arg
  else
    match arg.toList with
    | ['-', '-'] => .ok { r with trailing := true }
    | '-' :: '-' :: cs => g.readLong r cs
    | '-' :: c :: _ =>
      match g.shortNotice? c with
      | some n => .error (n.show r)
      | none => .error .unknownArgument
    | _ =>
      -- only an argument that does not look like an option is the value of one
      match r.pending with
      | some (o, none) => .ok { r with pending := some (o, some arg) }
      | _ => g.readOperand r arg

/-- Reads arguments up to a subcommand: what was read, and the subcommand with the arguments after
it. -/
def readArgs (g : Grammar) (r : Reading) :
    List String → Except UsageError (Reading × Option (String × List String))
  | [] => .ok (r, none)
  | arg :: rest =>
    if !r.trailing && !r.awaits && g.subcommands.contains arg then .ok (r, some (arg, rest))
    else do
      let r ← g.readOne r arg
      readArgs g r rest

/-- Reads all arguments of a command without subcommands. -/
def read (g : Grammar) (args : List String) : Except UsageError (List (String × String)) := do
  let (r, _) ← g.readArgs { operands := g.operands } args
  let r ← r.resolve
  if r.operands.isEmpty then pure r.given else throw .missingArgument

end Grammar

/-! ### The program -/

/-- What the program is asked to do. -/
inductive AdminTask
  /-- Bring the schema up to date. -/
  | migrate
  /-- Print stored events. -/
  | tail (start pageSize : Nat) (limit : Option Nat)
  /-- Remove an aggregate. -/
  | purge (name id : String)
  deriving DecidableEq, Repr

/-- What a command line says. -/
structure Invocation where
  /-- The address of the database. -/
  databaseUrl : String
  /-- The greatest number of connections. -/
  maxConnections : Nat
  /-- The task. -/
  task : AdminTask
  deriving DecidableEq, Repr

/-- Settings of the program outside the command line. -/
structure AdminEnvironment where
  /-- The address of the database. -/
  databaseUrl : Option String := none
  /-- The greatest number of connections. -/
  maxConnections : Option String := none

namespace Invocation

/-- Whether a text is a number of 64 bits. -/
def isWord64 (s : String) : Bool := (readUnsigned? greatestWord64 s).isSome

/-- Whether a text is a number of 32 bits. -/
def isWord32 (s : String) : Bool := (readSigned? greatestWord32 s).isSome

/-- The options and the commands of the program. -/
def program : Grammar where
  options := [⟨"database-url", fun _ => true⟩, ⟨"max-connections", isWord32⟩]
  subcommands := ["migrate", "tail", "purge", "help"]
  versioned := true

/-- The options and operands of each command. -/
def grammarOf : String → Grammar
  | "tail" => { options := [⟨"from", isWord64⟩, ⟨"page-size", isWord64⟩, ⟨"limit", isWord64⟩] }
  | "purge" => { options := [], operands := ["aggregate-name", "aggregate-id"] }
  | _ => { options := [] }

/-- The number under a name, or the default if it was not given. -/
def numberOr (given : List (String × String)) (name : String) (default : Nat) : Nat :=
  ((given.lookup name).bind (readUnsigned? greatestWord64)).getD default

/-- The text under a name. -/
def textOf (given : List (String × String)) (name : String) : String := (given.lookup name).getD ""

/-- The task of a command. -/
def taskOf (name : String) (given : List (String × String)) : AdminTask :=
  match name with
  | "tail" =>
    .tail (numberOr given "from" 1) (numberOr given "page-size" 500)
      ((given.lookup "limit").bind (readUnsigned? greatestWord64))
  | "purge" => .purge (textOf given "aggregate-name") (textOf given "aggregate-id")
  | _ => .migrate

/-- The end of asking for help on a command by its name. -/
def helpOn : List String → UsageError
  | [] => .displayHelp
  | [name] => if program.subcommands.contains name then .displayHelp else .invalidSubcommand
  | _ => .invalidSubcommand

/-- The task of a subcommand with its arguments. -/
def readTask : Option (String × List String) → Except UsageError (Option AdminTask)
  | none => .ok none
  | some ("help", args) => .error (helpOn args)
  | some (name, args) => do
    let given ← (grammarOf name).read args
    pure (some (taskOf name given))

/-- The text of an option, from the arguments or else from the environment. -/
def setting (given : List (String × String)) (name : String) (fromEnvironment : Option String) :
    Option String :=
  (given.lookup name).or fromEnvironment

/-- What the program's arguments say. -/
def parse (env : AdminEnvironment) (args : List String) : Except UsageError Invocation := do
  let (r, sub) ← program.readArgs { operands := [] } args
  -- the command's own arguments are read before the program's last option is checked
  let task? ← readTask sub
  let r ← r.resolve
  let url := setting r.given "database-url" env.databaseUrl
  let connections := setting r.given "max-connections" env.maxConnections
  if connections.any fun s => !isWord32 s then throw .valueValidation
  match task? with
  | none =>
    if url.isNone && connections.isNone then throw .helpForNothing else throw .missingSubcommand
  | some task =>
    match url with
    | none => throw .missingArgument
    | some url =>
      pure ⟨url, (connections.bind (readSigned? greatestWord32)).getD 5, task⟩

end Invocation

end EventLedger
