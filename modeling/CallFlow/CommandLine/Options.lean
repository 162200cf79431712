/-!
# Command line arguments

The program compiles or deploys the flow of a file.  An option stands in front of its value, or is
joined to it by an equals sign; an option that is given twice, and a value that looks like an
option, is an error.
-/

namespace CallFlow.CommandLine

/-- The options of a command. -/
structure Options where
  flow : Option String
  config : Option String
  clientId : Option String
  dryRun : Bool
  deriving DecidableEq

/-- What the program does. -/
inductive Command where
  | compile
  | deploy (dryRun : Bool)
  deriving DecidableEq

/-- A command with the files and the client that it is about. -/
structure Order where
  command : Command
  flowPath : String
  configPath : Option String
  clientId : Option String
  deriving DecidableEq

/-- What is asked of the program. -/
inductive Invocation where
  | order (order : Order)
  | version
  | help
  /-- The arguments make no sense. -/
  | unusable
  deriving DecidableEq

/-- An argument by its form. -/
inductive Argument where
  /-- A long option, with the text behind its equals sign. -/
  | long (name : String) (value : Option String)
  /-- Short options, joined. -/
  | short (names : List Char)
  /-- The end of the options. -/
  | terminator
  | plain (text : String)
  deriving DecidableEq

/-- An argument of the command line. -/
def Argument.ofText (text : String) : Argument :=
  match text.toList with
  | ['-', '-'] => .terminator
  | '-' :: '-' :: cs =>
    .long (String.ofList (cs.takeWhile (· != '=')))
      ((cs.dropWhile (· != '=')).tail?.map String.ofList)
  | '-' :: c :: cs => .short (c :: cs)
  | _ => .plain text

/-- Sets an option that has not been set. -/
def setOnce (old : Option String) (value : String) : Option (Option String) :=
  if old.isSome then none else some (some value)

namespace Options

/-- No options. -/
def empty : Options :=
  ⟨none, none, none, false⟩

/-- Sets an option that takes a value; the path of a file cannot be empty. -/
def set? (options : Options) (name value : String) : Option Options :=
  match name with
  | "flow" =>
    if value.isEmpty then none
    else (setOnce options.flow value).map fun flow => { options with flow := flow }
  | "config" =>
    if value.isEmpty then none
    else (setOnce options.config value).map fun config => { options with config := config }
  | "client-id" =>
    (setOnce options.clientId value).map fun clientId => { options with clientId := clientId }
  | _ => none

/-- The order of a command with options. -/
def order? (options : Options) (isDeploy : Bool) : Option Order :=
  options.flow.map fun flowPath =>
    ⟨if isDeploy then .deploy options.dryRun else .compile, flowPath, options.config,
      options.clientId⟩

/-- The invocation of a command whose arguments have all been read. -/
def invocation (options : Options) (isDeploy : Bool) : Invocation :=
  match options.order? isDeploy with
  | some order => .order order
  | none => .unusable

/-- Reads the arguments of a command. -/
def read (isDeploy : Bool) (options : Options) : List String → Invocation
  | [] => options.invocation isDeploy
  | text :: rest =>
    match Argument.ofText text with
    | .terminator => if rest.isEmpty then options.invocation isDeploy else .unusable
    | .plain _ => .unusable
    | .short names => if names.head? = some 'h' then .help else .unusable
    | .long "help" none => .help
    | .long "dry-run" none =>
      if isDeploy && !options.dryRun then read isDeploy { options with dryRun := true } rest
      else .unusable
    | .long name (some value) =>
      match options.set? name value with
      | some options => read isDeploy options rest
      | none => .unusable
    | .long name none =>
      match rest with
      | [] => .unusable
      | value :: rest =>
        match Argument.ofText value with
        | .plain value =>
          match options.set? name value with
          | some options => read isDeploy options rest
          | none => .unusable
        | _ => .unusable

end Options

/-- Reads the command line. -/
def Invocation.ofArguments : List String → Invocation
  | [] => .unusable
  | "compile" :: rest => Options.empty.read false rest
  | "deploy" :: rest => Options.empty.read true rest
  | "help" :: rest =>
    if rest.isEmpty || ["compile", "deploy", "help"].any (rest == [·]) then .help else .unusable
  | text :: _ =>
    match Argument.ofText text with
    | .long "version" none => .version
    | .long "help" none => .help
    | .short ('V' :: _) => .version
    | .short ('h' :: _) => .help
    | _ => .unusable

end CallFlow.CommandLine
