import WhistledSpeech.Command.Setting

/-!
# Reading a command line

A command line names a command and then its options. An option has one value: the next argument, or
what follows an equals sign, or, for an option of one letter, whatever follows the letter. A long option
may be shortened as long as no other starts the same way.

An argument that starts with a hyphen is an option, and cannot be the value of one. Exceptions are a
hyphen alone, a negative number without an exponent, and an argument with a space in it, as far as they
are not the options they look like. After two hyphens nothing is an option, and nothing can be the value
of one.

Arguments are read in order, and what is superfluous is held against the command line only at its end.
So whoever asks for help gets it, unless something before that made no sense or an option could be
several.
-/

namespace WhistledSpeech

/-- **What an argument is.** -/
inductive Argument where
  /-- A value. -/
  | plain
  /-- An option, with its value if that is attached. -/
  | option (setting : Setting) (attached : Option String)
  /-- The option that asks for help. Its letter may be followed by the letter of an option that still
  needs a value. -/
  | help (needsValue : Bool)
  /-- An option that is not there. -/
  | unknown
  /-- An option that could be several. -/
  | ambiguous
  /-- An option with a value that it cannot have. -/
  | overfull
  deriving Repr, DecidableEq

namespace Argument

/-- The parts before and after the first equals sign. -/
def splitAtEquals (s : List Char) : Option (String × String) :=
  match s.dropWhile (· != '=') with
  | '=' :: rest => some (String.ofList (s.takeWhile (· != '=')), String.ofList rest)
  | _ => none

/-- Whether characters are the digits of a whole number, or of a fraction. -/
def isUnsigned (s : List Char) : Bool :=
  let whole := s.takeWhile Text.isDigit
  match s.dropWhile Text.isDigit with
  | [] => !whole.isEmpty
  | '.' :: fraction => !fraction.isEmpty && fraction.all Text.isDigit
  | _ => false

/-- Whether an argument is a negative number. A line break may follow it. -/
def isNegativeNumber : List Char → Bool
  | '-' :: rest => isUnsigned (if rest.getLast? = some '\n' then rest.dropLast else rest)
  | _ => false

/-- The options that an argument may be short for: their names, what they set, and the values attached
to them. -/
def candidates (options : List (String × Setting)) (arg : String) :
    List (String × Setting × Option String) :=
  match arg.toList with
  | '-' :: '-' :: _ =>
    let parts : String × Option String := match splitAtEquals arg.toList with
      | some (name, value) => (name, some value)
      | none => (arg, none)
    options.filterMap fun row =>
      if row.1.startsWith parts.1 then some (row.1, row.2, parts.2) else none
  | '-' :: letter :: rest =>
    options.filterMap fun row =>
      if row.1 = String.ofList ['-', letter] then some (row.1, row.2, some (String.ofList rest))
      else none
  | _ => []

/-- The option an argument names in full, with what follows an equals sign. -/
def inFull? (options : List (String × Setting)) (arg : String) :
    Option (String × Setting × Option String) :=
  match options.lookup arg with
  | some setting => some (arg, setting, none)
  | none =>
    match splitAtEquals arg.toList with
    | some (name, value) => (options.lookup name).map fun setting => (name, setting, some value)
    | none => none

/-- What the letter that asks for help is together with the letters after it, each an option of its own
until one takes the rest for its value. -/
def afterHelp (options : List (String × Setting)) : List Char → Argument
  | [] => help false
  | letter :: rest =>
    match options.lookup (String.ofList ['-', letter]) with
    | some .help => afterHelp options rest
    | some _ => help rest.isEmpty
    | none => overfull

/-- What an argument is that names an option. Only a letter that asks for help can be followed by
anything. -/
def named (options : List (String × Setting)) : String × Setting × Option String → Argument
  | (name, .help, some attached) =>
    if name.startsWith "--" || attached.isEmpty then overfull
    else afterHelp options attached.toList
  | (_, .help, none) => help false
  | (_, setting, attached) => option setting attached

/-- **What an argument is**, given the options there are. -/
def classify (options : List (String × Setting)) (arg : String) : Argument :=
  if !arg.startsWith "-" || arg = "-" then plain
  else match inFull? options arg with
    | some found => named options found
    | none =>
      match candidates options arg with
      | [found] => named options found
      | _ :: _ :: _ => ambiguous
      | [] => if isNegativeNumber arg.toList || arg.contains ' ' then plain else unknown

end Argument

/-- **What a command line asks for.** -/
inductive Invocation where
  /-- To carry out a command. -/
  | command (c : Command)
  /-- To explain how commands are given. -/
  | help
  /-- Nothing that can be understood. -/
  | misuse

namespace Invocation

/-- What a command line asks for with something superfluous in front. -/
def superfluous : Invocation → Invocation
  | command _ => misuse
  | other => other

/-- Sets what the options of a command set, one after the other. -/
def readOptions (options : List (String × Setting)) (c : Command) : List String → Invocation
  | [] => command c
  | arg :: rest =>
    match Argument.classify options arg with
    | .plain | .unknown => (readOptions options c rest).superfluous
    | .help false => help
    | .help true =>
      match rest.map (Argument.classify options) with
      | .plain :: _ => help
      | _ => misuse
    | .ambiguous | .overfull => misuse
    | .option setting (some attached) =>
      match setting.attach attached c with
      | some c => readOptions options c rest
      | none => misuse
    | .option setting none =>
      match rest with
      | [] => misuse
      | value :: rest =>
        match Argument.classify options value, setting.apply value c with
        | .plain, some c => readOptions options c rest
        | _, _ => misuse

/-- What the options of a command ask for. Those that could be several are refused before all else. -/
def ofOptions (kind : CommandKind) (args : List String) : Invocation :=
  let options := Setting.options kind
  let before := args.takeWhile (· != "--")
  if before.any fun arg => Argument.classify options arg = .ambiguous then misuse
  else
    let read := readOptions options (Command.ofKind kind) before
    if args.contains "--" then read.superfluous else read

/-- The command with a name. -/
def kind? : String → Option CommandKind
  | "curves" => some .curves
  | "text" => some .text
  | _ => none

/-- **Reads a command line.** In front of the name of a command there can be a request for help. -/
def ofArguments : List String → Invocation
  | [] => misuse
  | arg :: rest =>
    if arg = "--" then misuse
    else match Argument.classify Setting.requests arg with
      | .plain =>
        match kind? arg with
        | some kind => ofOptions kind rest
        | none => misuse
      | .help _ => help
      | .unknown => (ofArguments rest).superfluous
      | _ => misuse

end Invocation

end WhistledSpeech
