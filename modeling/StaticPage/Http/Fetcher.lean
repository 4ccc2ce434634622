import StaticPage.Evaluation.Capability
import StaticPage.Http.Fault
import StaticPage.Http.Validators
import StaticPage.Storage.Directory
import StaticPage.Url.Parser

/-!
# Fetching over the network

The network is a capability: what is asked of a server, and what it answers, whatever stands behind it.
A fetch asks for a URL with the validator of its last answer. A new answer is kept in the data
directory and its validator remembered, and one that has not changed is taken from there. Lazy
fetches use neither.
-/

namespace StaticPage

/-! ### The network -/

/-- A request for what is at a URL; with a validator, only if that has changed. -/
structure HttpRequest where
  url : Url
  ifNoneMatch : Option String
  deriving DecidableEq, Repr, Inhabited

structure HttpAnswer where
  status : Nat
  /-- The value of the validator's header, without the blanks around it. -/
  etag : Option ByteArray
  /-- The body, or why it did not arrive. -/
  body : Except TransportFault ByteArray

structure Network (m : Type → Type) where
  send : HttpRequest → m (Except TransportFault HttpAnswer)

namespace Network

/-- Why no server can be reached: the secure scheme is not spoken, and the other finds no way. -/
def noWay (request : HttpRequest) : TransportFault :=
  .unreachable ("client error (Connect)" ::
    match request.url.scheme with
    | .http => ["tcp connect error", "Network is unreachable (os error 101)"]
    | .https => ["invalid URL, scheme is not http"])

/-- A network in which no server can be reached. -/
def unreachable {m : Type → Type} [Monad m] : Network m where
  send request := return .error (noWay request)

end Network

/-! ### Fetching -/

/-- The file that validators are kept in between runs. -/
def validatorsFile : String := ".etag.json"

/-- Fetches over a network, for a data directory. -/
structure HttpFetcher (m : Type → Type) where
  network : Network m
  files : FileAccess m
  directory : DataDirectory

namespace HttpFetcher

variable {m : Type → Type} [Monad m] [MonadStateOf Validators m]

def send (f : HttpFetcher m) (url : String) (etag : Option String) :
    m (Except FetchFault HttpAnswer) := do
  match Url.parse url with
  | .error fault => return .error (.invalidUrl url fault.message)
  | .ok u =>
    let failed (cause : TransportFault) : FetchFault := .transport url u.text cause
    if etag.any (!Validators.isSendable ·) then return .error (failed .unsendable)
    else if !u.isAddressable then return .error (failed .unaddressable)
    else
      match ← f.network.send ⟨u, etag⟩ with
      | .error cause => return .error (failed cause)
      | .ok answer => return .ok answer

/-- The fault of a body that did not arrive. The URL is one that a request was sent to. -/
def bodyFault (url : String) (cause : TransportFault) : FetchFault :=
  .transport url ((Url.parse url).toOption.elim url Url.text) cause

/-- Fetches a URL and keeps the answer under a target. The validator is remembered before the answer
is kept. -/
def fetch (f : HttpFetcher m) (target url : String) : m (Except FetchFault ByteArray) := do
  match ← f.send url ((← getThe Validators).find? url) with
  | .error fault => return .error fault
  | .ok answer =>
    if answer.status = 200 then
      match answer.body with
      | .error cause => return .error (bodyFault url cause)
      | .ok body =>
        if let some etag := answer.etag.bind Validators.ofHeader? then
          modifyThe Validators (·.set url etag)
        match ← f.directory.save f.files target body with
        | .error fault => return .error (.file fault)
        | .ok () => return .ok body
    else if answer.status = 304 then
      match ← f.directory.load f.files target with
      | .error fault => return .error (.file fault)
      | .ok none => return .error (.notModifiedWithoutCopy url target)
      | .ok (some body) => return .ok body
    else return .error (.status url answer.status)

def fetchUncached (f : HttpFetcher m) (url : String) : m (Except FetchFault ByteArray) := do
  match ← f.send url none with
  | .error fault => return .error fault
  | .ok answer =>
    if answer.status = 200 then return answer.body.mapError (bodyFault url)
    else return .error (.status url answer.status)

def persist (f : HttpFetcher m) : m (Except FileFault Unit) := do
  f.directory.save f.files validatorsFile (← getThe Validators).encode

/-- Takes up the validators that were kept. Bytes that hold none are warned of. -/
def start [MonadWarn m] (f : HttpFetcher m) : m (Except FetchFault Unit) := do
  match ← f.directory.load f.files validatorsFile with
  | .error fault => return .error (.file fault)
  | .ok none =>
    set Validators.empty
    return .ok ()
  | .ok (some bytes) =>
    match Validators.decode? bytes with
    | some v => set v
    | none =>
      warn .validatorsMalformed
      set Validators.empty
    return .ok ()

def fetcher (f : HttpFetcher m) : Fetcher m where
  fetch := f.fetch
  fetchUncached request := f.fetchUncached request.url
  persist := f.persist

end HttpFetcher

end StaticPage
