import TypedMvc.Text.Pieces

/-!
# Arguments of the command line

What a command line asks for: a command with its options, and the project it is about. An option
may be given once on either side of the command, and of two the one behind the command counts.
Anything else is refused.
-/

namespace TypedMvc.Command

/-- What is to be done. -/
inductive Task where
  /-- The generated file is to be written, or printed. -/
  | generate (output namespaceName : Option String) (dryRun : Bool)
  /-- What was found, or the generated declarations, is to be printed. -/
  | inspect (tree : Bool)
  deriving Repr, DecidableEq, Inhabited

/-- What a command line asks for. -/
structure Arguments where
  /-- The project: a directory, or a project file in it. -/
  project : Option String
  /-- What is to be done. -/
  task : Task
  deriving Repr, DecidableEq, Inhabited

/-- What comes of a command line. -/
inductive Request where
  /-- Something is to be done. -/
  | run (arguments : Arguments)
  /-- The usage is to be shown. -/
  | help
  /-- The command line is refused. -/
  | refused
  deriving Repr, DecidableEq, Inhabited

/-- The options of the command line. -/
inductive Flag where
  /-- The project. -/
  | project
  /-- The generated file. -/
  | output
  /-- The namespace of the generated classes. -/
  | namespaceName
  /-- Whether the generated text is only printed. -/
  | dryRun
  /-- Whether the declarations are printed. -/
  | tree
  /-- Whether the usage is shown. -/
  | help
  deriving Repr, DecidableEq, Inhabited

/-- Whether an option has a value. -/
def Flag.takesValue : Flag → Bool
  | .project | .output | .namespaceName => true
  | .dryRun | .tree | .help => false

/-- The options by their long names. -/
def longFlags : List (String × Flag) := [
  ("project", .project), ("output", .output), ("namespace", .namespaceName),
  ("dry-run", .dryRun), ("tree", .tree), ("help", .help)]

/-- The options by their short names. -/
def shortFlags : List (Char × Flag) := [('p', .project), ('o', .output), ('h', .help)]

/-- A value that follows an option as an argument of its own: anything that is not an option. -/
def valueOf? (argument : String) : Option String :=
  match argument.toList with
  | '-' :: _ :: _ => none
  | _ => some argument

/-- An option with its value. -/
structure Setting where
  /-- The option. -/
  flag : Flag
  /-- The value; empty for an option that has none. -/
  value : String
  deriving Repr, DecidableEq, Inhabited

/-- The options in an argument with one hyphen, behind it, and the arguments left. -/
def shortSettings? : List Char → List String → Option (List Setting × List String)
  | [], rest => some ([], rest)
  | c :: more, rest =>
    (shortFlags.lookup c).bind fun flag =>
      if flag.takesValue then
        match more, rest with
        | '=' :: value, _ => some ([⟨flag, String.ofList value⟩], rest)
        | [], next :: rest => (valueOf? next).map fun value => ([⟨flag, value⟩], rest)
        | [], [] => none
        | value, _ => some ([⟨flag, String.ofList value⟩], rest)
      else
        (shortSettings? more rest).map fun (settings, rest) => (⟨flag, ""⟩ :: settings, rest)

/-- The option in an argument with two hyphens, behind them, and the arguments left. -/
def longSettings? (text : List Char) (rest : List String) : Option (List Setting × List String) :=
  let name := text.takeWhile (· ≠ '=')
  let attached := text.drop name.length
  (longFlags.lookup (String.ofList name)).bind fun flag =>
    match flag.takesValue, attached, rest with
    | true, _ :: value, rest => some ([⟨flag, String.ofList value⟩], rest)
    | true, [], next :: rest => (valueOf? next).map fun value => ([⟨flag, value⟩], rest)
    | false, [], rest => some ([⟨flag, ""⟩], rest)
    | _, _, _ => none

/-- The options in front of the first argument that is none, and the arguments from there on. -/
def settingsFrom? : (fuel : Nat) → List Setting → List String →
    Option (List Setting × List String)
  | 0, settings, rest => some (settings, rest)
  | _ + 1, settings, [] => some (settings, [])
  | fuel + 1, settings, argument :: rest =>
    match argument.toList with
    | '-' :: '-' :: c :: text =>
      (longSettings? (c :: text) rest).bind fun (found, rest) =>
        settingsFrom? fuel (settings ++ found) rest
    | '-' :: '-' :: [] =>
      -- Two hyphens alone end the options. There is nothing that could follow them.
      if rest.isEmpty then some (settings, []) else none
    | '-' :: c :: text =>
      (shortSettings? (c :: text) rest).bind fun (found, rest) =>
        settingsFrom? fuel (settings ++ found) rest
    | _ => some (settings, argument :: rest)

/-- The value of an option, if it is given. -/
def settingOf? (flag : Flag) (settings : List Setting) : Option String :=
  (settings.find? fun setting => setting.flag == flag).map (·.value)

/-- Whether options are allowed at a place and given once each, and the project has a name. -/
def areAllowed (flags : List Flag) (settings : List Setting) : Bool :=
  settings.all (fun setting => flags.contains setting.flag) &&
    (settings.map (·.flag)).eraseDups.length == settings.length &&
    settings.all fun setting => setting.flag != .project || setting.value != ""

/-- The command of a name with its options. -/
def taskOf? (name : String) (settings : List Setting) : Option Task :=
  if name = "generate" then
    if areAllowed [.project, .output, .namespaceName, .dryRun] settings then
      some (.generate (settingOf? .output settings) (settingOf? .namespaceName settings)
        (settingOf? .dryRun settings).isSome)
    else none
  else if name = "inspect" then
    if areAllowed [.project, .tree] settings then
      some (.inspect (settingOf? .tree settings).isSome)
    else none
  else none

/-- Whether the options ask for the usage. -/
def asksForHelp (settings : List Setting) : Bool := (settingOf? .help settings).isSome

/-- What comes of a command line. -/
def Request.ofArguments (arguments : List String) : Request :=
  match settingsFrom? arguments.length [] arguments with
  | none => .refused
  | some (before, rest) =>
    if asksForHelp before then .help
    else if !areAllowed [.project] before then .refused
    else
      match rest with
      | [] => .refused
      | name :: rest =>
        if name = "help" then .help
        else
          match settingsFrom? rest.length [] rest with
          | some (behind, []) =>
            if asksForHelp behind then .help
            else
              match taskOf? name behind with
              | some task =>
                .run ⟨(settingOf? .project behind).or (settingOf? .project before), task⟩
              | none => .refused
          | _ => .refused

end TypedMvc.Command
