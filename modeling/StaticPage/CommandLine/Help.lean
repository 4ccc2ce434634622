/-!
# Help

What the program tells of itself: of the whole, and of each command. A page of help says what something
is for, how it is called, and in tables what may be given to it.
-/

namespace StaticPage

/-- What help is asked on: the whole program, or a command of it. -/
inductive HelpTopic where
  | program | render | validate | format | help
  deriving DecidableEq, Repr, Inhabited

namespace HelpTopic

def ofCommand? (name : String) : Option HelpTopic :=
  match name with
  | "render" => some render
  | "validate" => some validate
  | "fmt" => some format
  | "help" => some help
  | _ => none

def purpose : HelpTopic → String
  | program => "sitegen - render .hi documents into a static page"
  | render => "Render a document into HTML"
  | validate => "Parse a document and summarize it"
  | format => "Print a document in canonical form"
  | help => "Print this message or the help of the given subcommand(s)"

def usage : HelpTopic → String
  | program => "sitegen <COMMAND>"
  | render => "sitegen render [OPTIONS]"
  | validate => "sitegen validate <FILE>"
  | format => "sitegen fmt <FILE>"
  | help => "sitegen help [COMMAND]..."

/-- A table of what may be given: a title, and in each row how it is written and what it is. An option
without a letter is indented by the room of one. -/
structure Table where
  title : String
  rows : List (String × String)

def helpOption : String × String := ("-h, --help", "Print help")

/-- The only thing that is given to a command on a document. -/
def fileTable : Table := ⟨"Arguments", [("<FILE>", "Path to .hi file")]⟩

def tables : HelpTopic → List Table
  | program =>
    [⟨"Commands", [("render", render.purpose), ("validate", validate.purpose),
        ("fmt", format.purpose), ("help", help.purpose)]⟩,
      ⟨"Options", [helpOption, ("-V, --version", "Print version")]⟩]
  | render =>
    [⟨"Options",
      [("-c, --config <CONFIG>", "YAML options file (defaults to ./sitegen.yaml when present)"),
        ("-i, --input <INPUT>", "Input .hi file"),
        ("-o, --out <OUT>", "Output HTML file"),
        ("    --data-dir <DATA_DIR>", "Data directory for fetched and cached bindings"),
        ("    --layout <LAYOUT>", "Layout HTML file"), helpOption]⟩]
  | validate | format => [fileTable, ⟨"Options", [helpOption]⟩]
  | help => [⟨"Arguments", [("[COMMAND]...", "Print help for the subcommand(s)")]⟩]

/-- A table as it is printed: what things are stands in a column of its own. -/
def Table.text (t : Table) : String :=
  let width := (t.rows.map (·.1.length)).foldl max 0
  let line (row : String × String) : String :=
    "  " ++ row.1 ++ String.ofList (List.replicate (width - row.1.length + 2) ' ') ++ row.2 ++ "\n"
  "\n" ++ t.title ++ ":\n" ++ String.join (t.rows.map line)

def text (topic : HelpTopic) : String :=
  topic.purpose ++ "\n\nUsage: " ++ topic.usage ++ "\n" ++ String.join (topic.tables.map Table.text)

end HelpTopic

end StaticPage
