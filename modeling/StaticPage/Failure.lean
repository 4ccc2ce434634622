import StaticPage.Document.Basic
import StaticPage.Http.Fault
import StaticPage.Json.Fault
import StaticPage.Yaml.Fault

/-!
# Failures

A failure is what stops the work. Each kind has a number, a wording, and most have a hint for the
reader; those that have another fault for a cause name it.
-/

namespace StaticPage

inductive Failure where
  | syntaxFault (fault : SyntaxFault)
  | fetch (name target : String) (cause : FetchFault)
  | fetcherSetup (cause : FetchFault)
  | decode (name target : String) (cause : Json.Fault)
  | missingData (name target : String)
  | duplicateBinding (name : String)
  | settings (cause : Yaml.Fault)
  | posts (pattern details : String)
  | layoutMarker (path : String)
  | file (cause : FileFault)
  deriving DecidableEq, Repr, Inhabited

namespace Failure

def message : Failure → String
  | syntaxFault f =>
    "SG-010: Syntax error on line " ++ toString f.line.number ++ ": " ++ f.cause.message ++
      "\n    | " ++ f.line.text
  | fetch name target cause =>
    "SG-020: Binding '" ++ name ++ "' could not be fetched and has no cached copy at '" ++ target ++
      "': " ++ cause.message
  | fetcherSetup cause => "SG-021: Fetcher setup failed: " ++ cause.message
  | decode name target cause =>
    "SG-030: Binding '" ++ name ++ "' holds malformed JSON in '" ++ target ++ "': " ++ cause.message
  | missingData name target =>
    "SG-031: Manual binding '" ++ name ++ "' has no data at '" ++ target ++ "'"
  | duplicateBinding name => "SG-032: Binding name '" ++ name ++ "' is already taken"
  | settings cause => "SG-040: Config parse error: " ++ cause.message
  | posts pattern details => "SG-041: Invalid posts pattern '" ++ pattern ++ "': " ++ details
  | layoutMarker path => "SG-042: Layout '" ++ path ++ "' has no <!--CONTENT--> marker"
  | file cause => "SG-090: IO error: " ++ cause.message

/-- The wordings of the causes of a failure, outermost first. -/
def causes : Failure → List String
  | fetch _ _ cause => cause.message :: cause.causes
  | fetcherSetup cause => cause.message :: cause.causes
  | decode _ _ cause => [cause.message]
  | settings cause => [cause.message]
  | file cause => [cause.message]
  | _ => []

def line? : Failure → Option Nat
  | syntaxFault f => some f.line.number
  | _ => none

def hint : Failure → String
  | syntaxFault _ => "Bodies nest by two spaces; loops read `[for item in source: field^]`"
  | fetch _ _ _ => "Check the URL and network, or place a cached copy in the data directory"
  | fetcherSetup _ => "Check that the data directory and its .etag.json are readable"
  | decode _ _ _ => "Ensure the source returns valid JSON (try parsing with jq)"
  | missingData _ _ => "Create the file in the data directory or give the binding a `<< url`"
  | duplicateBinding _ => "Use unique names for bindings"
  | settings _ => "Check YAML syntax: indentation and quoting"
  | posts _ _ => "Use a glob such as posts/*.md"
  | layoutMarker _ => "Add <!--CONTENT--> where the body belongs"
  | file _ => "Check file path and permissions"

end Failure

end StaticPage
