import StaticPage.CommandLine.Help

/-!
# Arguments of the command line

A command renders a site, checks a document, or prints one in its canonical form. An option takes its
value from the next argument or from the same one, and may be given once. Arguments are read in their
order: what asks for help is heeded unless something before it is no argument.
-/

namespace StaticPage

/-- What an option of rendering gives: each is a path. -/
inductive RenderOption where
  | settings | input | output | dataDirectory | layout
  deriving DecidableEq, Repr, Inhabited

namespace RenderOption

def ofLongName? : List Char → Option RenderOption
  | ['c', 'o', 'n', 'f', 'i', 'g'] => some settings
  | ['i', 'n', 'p', 'u', 't'] => some input
  | ['o', 'u', 't'] => some output
  | ['d', 'a', 't', 'a', '-', 'd', 'i', 'r'] => some dataDirectory
  | ['l', 'a', 'y', 'o', 'u', 't'] => some layout
  | _ => none

def ofLetter? : Char → Option RenderOption
  | 'c' => some settings
  | 'i' => some input
  | 'o' => some output
  | _ => none

end RenderOption

/-- The options given for a rendering, with their values. -/
abbrev RenderOptions := List (RenderOption × String)

inductive Command where
  | render (options : RenderOptions)
  | validate (file : String)
  | format (file : String)
  | version
  | help (topic : HelpTopic)
  deriving DecidableEq, Repr, Inhabited

inductive UsageFault where
  | noCommand
  | unexpected (argument : String)
  | missingValue (argument : String)
  | repeatedOption (argument : String)
  | missingFile
  deriving DecidableEq, Repr, Inhabited

def UsageFault.message : UsageFault → String
  | noCommand => "a command is required"
  | unexpected argument => "unexpected argument '" ++ argument ++ "'"
  | missingValue argument => "a value is required for '" ++ argument ++ "'"
  | repeatedOption argument => "'" ++ argument ++ "' cannot be used multiple times"
  | missingFile => "a file is required"

namespace Command

/-- Whether an argument can be a value: it does not look like an option. -/
def isValue (argument : String) : Bool :=
  argument = "-" || !argument.startsWith "-"

/-- The option that an argument gives, and its value if the argument holds it. -/
def option? (argument : String) : Option (RenderOption × Option String) :=
  match argument.toList with
  | '-' :: '-' :: s =>
    let name := s.takeWhile (· != '=')
    (RenderOption.ofLongName? name).map fun o =>
      (o, if name.length = s.length then none else some (String.ofList (s.drop (name.length + 1))))
  | '-' :: letter :: s =>
    (RenderOption.ofLetter? letter).map fun o =>
      (o, match s with
        | [] => none
        | '=' :: value => some (String.ofList value)
        | value => some (String.ofList value))
  | _ => none

/-- The options with one more. An empty value is none. -/
def addOption (options : RenderOptions) (argument : String) (o : RenderOption) (value : String) :
    Except UsageFault RenderOptions :=
  if value = "" then .error (.missingValue argument)
  else if (options.lookup o).isSome then .error (.repeatedOption argument)
  else .ok (options ++ [(o, value)])

/-- Whether an argument asks for help. What follows the letter is not looked at. -/
def asksHelp (argument : String) : Bool :=
  argument.startsWith "-h" || argument = "--help"

/-- Reads the options of a rendering; there is none if help is asked for. -/
def readOptions (options : RenderOptions) : List String → Except UsageFault (Option RenderOptions)
  | [] => .ok options
  | argument :: rest =>
    if argument = "--" then
      match rest with
      | [] => .ok options
      | extra :: _ => .error (.unexpected extra)
    else if asksHelp argument then .ok none
    else
      match option? argument, rest with
      | none, _ => .error (.unexpected argument)
      | some (o, some value), rest => do
        readOptions (← addOption options argument o value) rest
      | some (_, none), [] => .error (.missingValue argument)
      | some (o, none), value :: rest =>
        if isValue value then do
          readOptions (← addOption options argument o value) rest
        else .error (.missingValue argument)

/-- Reads the only file of a command, which may have been read; there is none if help is asked for. After
two hyphens an argument is a file whatever it looks like. -/
def readFile (file : Option String) (literally : Bool) : List String → Except UsageFault (Option String)
  | [] => if file.isSome then .ok file else .error .missingFile
  | argument :: rest =>
    if literally || isValue argument then
      if file.isSome then .error (.unexpected argument)
      else if argument = "" then .error .missingFile
      else readFile (some argument) literally rest
    else if argument = "--" then readFile file true rest
    else if asksHelp argument then .ok none
    else .error (.unexpected argument)

def readTopic : List String → Except UsageFault HelpTopic
  | [] => .ok .program
  | [name] =>
    match HelpTopic.ofCommand? name with
    | some topic => .ok topic
    | none => .error (.unexpected name)
  | _ :: extra :: _ => .error (.unexpected extra)

def parse : List String → Except UsageFault Command
  | [] => .error .noCommand
  | first :: rest =>
    if first.startsWith "-V" || first = "--version" then .ok version
    else if asksHelp first then .ok (help .program)
    else
      match first with
      | "render" => return ((← readOptions [] rest).map render).getD (help .render)
      | "validate" => return ((← readFile none false rest).map validate).getD (help .validate)
      | "fmt" => return ((← readFile none false rest).map format).getD (help .format)
      | "help" => return help (← readTopic rest)
      | _ => .error (.unexpected first)

end Command

end StaticPage
