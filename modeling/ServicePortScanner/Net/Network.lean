import ServicePortScanner.Data.CoroutineRules
import ServicePortScanner.Fp.Ja4X509

namespace ServicePortScanner.Net

open ServicePortScanner.Data

/-! What the coroutines of a scan exchange with the limiter, the network, the
regex engine and OpenSSL. -/

/-- One of the addresses that a host and a port resolve to. -/
structure Endpoint where
  address : Bytes
  port : UInt16
  deriving DecidableEq, Repr

/-- The outcomes of `std::regex_search`.  A match comes with the text of each
group, the whole match first. -/
inductive Search where
  | noMatch
  | found (groups : List Bytes)
  | threw (what : Bytes)
  deriving DecidableEq, Repr

/-- `SSL_do_handshake`, and `SSL_get_error` where that is not yet done. -/
inductive Handshake where
  | done
  | wantRead
  | wantWrite
  | failed
  deriving DecidableEq, Repr

/-- What a finished handshake leaves in the SSL object, and the ServerHello
message that the callback has captured. -/
structure TlsSession where
  serverHello : Bytes
  version : Option Bytes
  /-- name and protocol id -/
  cipher : Option (Bytes × UInt16)
  alpn : Bytes
  peer : Option Fp.Ja4XInput
  deriving DecidableEq, Repr

/-- The calls whose outcome the program does not decide itself.  Only those on
sockets suspend a coroutine for as long as the other side likes. -/
inductive Operation where
  | acquire
  | resolve (host service : Bytes)
  | connect (endpoint : Endpoint)
  | read (size : Nat)
  | write (payload : Bytes)
  | search (subject pattern : Bytes)
  | newContext
  | newSsl
  | newBios
  | doHandshake
  | session
  deriving DecidableEq, Repr

def Operation.OnSocket : Operation → Prop
  | .resolve .. | .connect _ | .read _ | .write _ => True
  | _ => False

instance : DecidablePred Operation.OnSocket := fun operation => by
  cases operation <;> simp only [Operation.OnSocket] <;> infer_instance

inductive Answer where
  | granted
  | resolved (endpoints : List Endpoint)
  | unresolved
  | connected
  | refused
  | received (chunk : Bytes)
  | readFailed
  | written
  | writeFailed
  | searched (search : Search)
  | created (succeeded : Bool)
  | stepped (handshake : Handshake) (pending : Bytes)
  | session (established : TlsSession)
  deriving DecidableEq, Repr

namespace Answer

def granted? : Answer → Option Unit
  | .granted => some ()
  | _ => none

def resolution? : Answer → Option (Option (List Endpoint))
  | .resolved endpoints => some (some endpoints)
  | .unresolved => some none
  | _ => none

def connection? : Answer → Option Bool
  | .connected => some true
  | .refused => some false
  | _ => none

def reading? : Answer → Option (Option Bytes)
  | .received chunk => some (some chunk)
  | .readFailed => some none
  | _ => none

def writing? : Answer → Option Bool
  | .written => some true
  | .writeFailed => some false
  | _ => none

def searched? : Answer → Option Search
  | .searched search => some search
  | _ => none

def created? : Answer → Option Bool
  | .created succeeded => some succeeded
  | _ => none

def stepped? : Answer → Option (Handshake × Bytes)
  | .stepped handshake pending => some (handshake, pending)
  | _ => none

def session? : Answer → Option TlsSession
  | .session established => some established
  | _ => none

end Answer

inductive Action where
  | token
  | attempt (endpoint : Endpoint)
  | respond (rtt : Int) (wasLoss : Bool)
  | fed (input : Bytes)
  deriving DecidableEq, Repr

/-- `std::regex_error` -/
structure RegexError where
  what : Bytes
  deriving DecidableEq, Repr

abbrev network : World where
  Operation := Operation
  Answer := Answer
  Action := Action
  Error := RegexError

abbrev Task (σ α : Type) := Co network σ α

/-- What the environment of a task has done so far. -/
abbrev Script := List (Signal network)

def answers (list : List Answer) : Script :=
  list.map .answer

section

variable {σ : Type}

/-- `limiter.acquire()`, which returns with a token taken. -/
def acquire : Task σ Unit := do
  Co.await .acquire Answer.granted?
  Co.emit .token

/-- `async_resolve`; `none` where it reports an error. -/
def asyncResolve (host service : Bytes) : Task σ (Option (List Endpoint)) :=
  Co.await (.resolve host service) Answer.resolution?

/-- `async_connect` on a range tries one endpoint after the other. -/
def asyncConnect : List Endpoint → Task σ Bool
  | [] => return false
  | endpoint :: rest => do
      Co.emit (.attempt endpoint)
      if ← Co.await (.connect endpoint) Answer.connection? then return true
      else asyncConnect rest

def regexSearch (subject pattern : Bytes) : Task σ (Option (List Bytes)) := do
  match ← Co.await (.search subject pattern) Answer.searched? with
  | .noMatch => return none
  | .found groups => return some groups
  | .threw what => Co.throw ⟨what⟩

theorem regexSearch_run (subject pattern : Bytes) (store : σ)
    (script : Script) :
    (regexSearch subject pattern).run store script =
      match script with
      | .answer (.searched .noMatch) :: rest =>
          ⟨[], rest, store, .returned none⟩
      | .answer (.searched (.found groups)) :: rest =>
          ⟨[], rest, store, .returned (some groups)⟩
      | .answer (.searched (.threw what)) :: rest =>
          ⟨[], rest, store, .threw ⟨what⟩⟩
      | script => ⟨[], script, store,
          .waiting ⟨Operation.search subject pattern, none⟩⟩ := by
  cases script with
  | nil => rfl
  | cons signal rest =>
      cases signal with
      | timer => rfl
      | answer answer =>
          cases answer with
          | searched search => cases search <;> rfl
          | _ => rfl

end

end ServicePortScanner.Net
