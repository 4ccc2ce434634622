import StaticPage.Files.Tree

/-!
# Faults of fetching

Fetching a URL fails because it is no URL that can be fetched, because no answer or only a part of
one arrives, because of the answer's status, or because the stored copy cannot be used.
-/

namespace StaticPage

/-- Why no whole answer arrived. -/
inductive TransportFault where
  /-- The server could not be reached; the reasons come outermost first. -/
  | unreachable (reasons : List String)
  /-- The connection ended before the answer did. -/
  | closed
  /-- The request could not be written down. -/
  | unsendable
  /-- The host cannot stand in a request. -/
  | unaddressable
  /-- The body ended before its announced length. -/
  | truncated
  deriving DecidableEq, Repr, Inhabited

namespace TransportFault

/-- The wording of a transport fault for a normalised URL, followed by its causes. -/
def chain (url : String) : TransportFault → List String
  | unreachable reasons => ("error sending request for url (" ++ url ++ ")") :: reasons
  | closed =>
    ["error sending request for url (" ++ url ++ ")", "connection closed before message completed"]
  | unsendable => ["builder error", "failed to parse header value"]
  | unaddressable =>
    ["builder error for url (" ++ url ++ ")", "Parsed Url is not a valid Uri"]
  | truncated =>
    ["request or response body error for url (" ++ url ++ ")", "error reading a body from connection",
      "end of file before message length reached"]

end TransportFault

inductive FetchFault where
  | invalidUrl (url reason : String)
  | status (url : String) (code : Nat)
  | transport (url normalised : String) (cause : TransportFault)
  | notModifiedWithoutCopy (url target : String)
  | file (cause : FileFault)
  | other (text : String)
  deriving DecidableEq, Repr, Inhabited

namespace FetchFault

def causes : FetchFault → List String
  | transport _ normalised cause => cause.chain normalised
  | _ => []

def message : FetchFault → String
  | invalidUrl url reason => "invalid URL '" ++ url ++ "': " ++ reason
  | status url code => "unexpected status " ++ toString code ++ " from " ++ url
  | transport url normalised cause =>
    "request to " ++ url ++ " failed: " ++ (cause.chain normalised).headD ""
  | notModifiedWithoutCopy url target =>
    "no stored copy for '" ++ target ++ "' after 304 from " ++ url
  | file cause => cause.message
  | other text => text

end FetchFault

end StaticPage
