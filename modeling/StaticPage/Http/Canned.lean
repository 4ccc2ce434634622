import StaticPage.Dictionary
import StaticPage.Evaluation.Capability

/-!
# Prepared answers

A fetcher without a network: it answers a URL with the bytes or the status prepared for it, and all
others with a default, and it remembers what it was asked. It keeps nothing under targets.
-/

namespace StaticPage

inductive CannedAnswer where
  | body (bytes : ByteArray)
  | status (code : Nat)
  deriving Inhabited

/-- A fetch that was asked for; without a target if nothing was to be kept. -/
structure FetchRequest where
  target : Option String
  url : String
  deriving DecidableEq, Repr, Inhabited

/-- Prepared answers, and the fetches asked for so far. -/
structure CannedAnswers where
  answers : List (String × CannedAnswer)
  default : Option ByteArray
  requests : List FetchRequest
  deriving Inhabited

namespace CannedAnswers

/-- Prepares an answer for a URL, in place of the one prepared before. -/
def respond (c : CannedAnswers) (url : String) (answer : CannedAnswer) : CannedAnswers :=
  { c with answers := Dictionary.set url answer c.answers }

def serve (c : CannedAnswers) (url : String) : Except FetchFault ByteArray :=
  match c.answers.lookup url, c.default with
  | some (.body bytes), _ => .ok bytes
  | some (.status code), _ => .error (.status url code)
  | none, some bytes => .ok bytes
  | none, none => .error (.other ("no mock response for " ++ url))

/-- The answer to a fetch, which is remembered. -/
def ask {m : Type → Type} [Monad m] [MonadStateOf CannedAnswers m] (target : Option String)
    (url : String) : m (Except FetchFault ByteArray) := do
  let c ← getThe CannedAnswers
  let request : FetchRequest := { target, url }
  set { c with requests := c.requests ++ [request] }
  pure (c.serve url)

/-- The capability to fetch the prepared answers that a monad carries. -/
def fetcher {m : Type → Type} [Monad m] [MonadStateOf CannedAnswers m] : Fetcher m where
  fetch target url := ask (some target) url
  fetchUncached request := ask none request.url
  persist := pure (.ok ())

end CannedAnswers

end StaticPage
