import StaticPage.Failure

/-!
# Capabilities

Evaluation reaches the world through capabilities, whatever stands behind them: a fetcher brings the
bytes at a URL, a store keeps bytes under targets, and a warning, which tells of something that went
wrong without stopping the work, goes to the monad the work runs in. All of them work in a monad of
the caller's choice.
-/

namespace StaticPage

/-! ### Warnings -/

/-- Something that went wrong without stopping the work. -/
inductive Warning where
  | storedCopyUsed (binding : String)
  | lazyFetchFailed (binding key : String)
  | lazyAnswerNotJson (binding key : String)
  | lazyCacheNotObject (binding target : String)
  | lazyCacheMalformed (binding target : String)
  | validatorsMalformed
  | postWithoutDate (path : String)
  deriving DecidableEq, Repr, Inhabited

namespace Warning

def message : Warning → String
  | storedCopyUsed _ => "fetch failed, using stored copy"
  | lazyFetchFailed _ _ => "lazy fetch failed"
  | lazyAnswerNotJson _ _ => "lazy response is not JSON"
  | lazyCacheNotObject _ _ => "lazy cache is not an object, starting empty"
  | lazyCacheMalformed _ _ => "lazy cache is malformed, starting empty"
  | validatorsMalformed => "ignoring malformed .etag.json"
  | postWithoutDate _ => "post file name has no YYYY-MM-DD prefix, skipping"

def details : Warning → List (String × String)
  | storedCopyUsed binding => [("binding", binding)]
  | lazyFetchFailed binding key => [("binding", binding), ("key", key)]
  | lazyAnswerNotJson binding key => [("binding", binding), ("key", key)]
  | lazyCacheNotObject binding target => [("binding", binding), ("target", target)]
  | lazyCacheMalformed binding target => [("binding", binding), ("target", target)]
  | validatorsMalformed => []
  | postWithoutDate path => [("path", path)]

end Warning

class MonadWarn (m : Type → Type) where
  warn : Warning → m Unit

export MonadWarn (warn)

instance {m n : Type → Type} [MonadLift m n] [MonadWarn m] : MonadWarn n where
  warn w := liftM (warn w : m Unit)

/-! ### Fetching and keeping -/

/-- A fetch on behalf of a lazy binding, which keeps the answer under a key. -/
structure LazyRequest where
  binding : String
  key : String
  url : String
  deriving DecidableEq, Repr, Inhabited

/-- Brings the bytes at URLs. -/
structure Fetcher (m : Type → Type) where
  /-- Brings the bytes at a URL and keeps them under the target. -/
  fetch : (target url : String) → m (Except FetchFault ByteArray)
  /-- Brings the bytes at a URL and keeps nothing. -/
  fetchUncached : LazyRequest → m (Except FetchFault ByteArray)
  /-- Keeps what the fetcher knows about the URLs it fetched, at the end of the work. -/
  persist : m (Except FileFault Unit)

/-- Keeps bytes under targets. -/
structure Store (m : Type → Type) where
  /-- The bytes under a target, if there are any. -/
  load : (target : String) → m (Except FileFault (Option ByteArray))
  /-- Replaces what is kept under a target. -/
  save : (target : String) → ByteArray → m (Except FileFault Unit)

end StaticPage
