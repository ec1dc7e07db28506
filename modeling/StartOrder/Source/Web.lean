import StartOrder.Failure.Cause
import StartOrder.Url.Address

/-!
# The web

Requests for addresses, and what comes back. The web is a function from addresses to replies, so
that a reply may depend on the whole address, its query included, but not on when it is asked for.

Redirects are followed by a loop of its own, with a policy that is asked before each
(`redirectProblem?`): not more than ten of them, never from the host that is trusted with tokens to
another, and to the web only. An answer that redirects to what cannot be read, or not be asked for,
is an answer like any other.
-/

namespace StartOrder

/-- An answer of a server. -/
structure Answer where
  status : Nat := 200
  /-- Where a redirect leads, if the answer says so. -/
  location : Option String := none
  /-- The length of the body, if the answer announces it. -/
  announced : Option Nat := none
  /-- The body in the parts in which it arrives. -/
  chunks : List (List UInt8) := []
  /-- Whether the body arrives up to its end. -/
  complete : Bool := true
  deriving DecidableEq, Repr

/-- What comes back on a request. -/
inductive Reply where
  /-- No connection is made, so that no server learns of the request. -/
  | unreachable
  /-- The connection is closed without an answer. -/
  | closed
  | answered (answer : Answer)
  deriving DecidableEq, Repr

/-- What comes back on a request for each address. -/
abbrev Web := Url → Reply

/-- The most bytes of an address in a request. -/
def maxAddress : Nat := 65534

/-- Whether a request for an address can be written: it is not too long, and its host is free of
some signs that domains may have. -/
def isWritable (u : Url) : Bool :=
  u.text.utf8ByteSize ≤ maxAddress &&
    !(u.host?.elim "" Url.Host.text).toList.any "\"\x60\x7b\x7d".toList.contains

/-- The most redirects that are followed for one request. -/
def maxRedirects : Nat := 10

/-- Whether an answer of some status sends a request elsewhere. -/
def isRedirect (status : Nat) : Bool :=
  status == 301 || status == 302 || status == 303 || status == 307 || status == 308

/-- Where an answer to a request sends it, if that can be read and asked for by a client that can
write requests for some addresses. -/
def Answer.redirect? (a : Answer) (writable : Url → Bool) (asked : Url) : Option Url :=
  if isRedirect a.status then
    (a.location.bind fun text => (asked.join text).toOption).filter writable
  else none

/-- Whether an address is on the trusted host. -/
def isTrusted (trusted : Option Url.Host) (u : Url) : Bool :=
  match trusted, u.host? with
  | some t, some h => t == h
  | _, _ => false

/-- Why a redirect to an address is not followed by a request that has been at some addresses. -/
def redirectProblem? (trusted : Option Url.Host) (visited : List Url) (target : Url) :
    Option FetchProblem :=
  if maxRedirects < visited.length then some (.tooManyRedirects maxRedirects)
  else if visited.any (isTrusted trusted) && !isTrusted trusted target then
    some (.leavesTrusted ((target.host?.map Url.Host.text).getD ""))
  else if !target.isWeb then some .redirectNotWeb
  else none

/-- The requests that reach a server, in order, and what comes of them. -/
structure Traced (α : Type) where
  requests : List Url
  result : α
  deriving DecidableEq

/-- Make requests from an address on, with a number of further requests to make at most, behind the
addresses visited before, last first. -/
def followFrom (writable : Url → Bool) (web : Web) (trusted : Option Url.Host) (left : Nat)
    (visited : List Url) (asked : Url) : Traced (Except FetchProblem Answer) :=
  match web asked with
  | .unreachable => ⟨[], .error .unreachable⟩
  | .closed => ⟨[asked], .error .closed⟩
  | .answered a => match a.redirect? writable asked with
    | none => ⟨[asked], .ok a⟩
    | some target => match redirectProblem? trusted (asked :: visited) target, left with
      | some problem, _ => ⟨[asked], .error problem⟩
      | none, 0 => ⟨[asked], .error (.tooManyRedirects maxRedirects)⟩
      | none, left + 1 =>
        let next := followFrom writable web trusted left (asked :: visited) target
        ⟨asked :: next.requests, next.result⟩

/-- Make a request, if it can be written, and follow where it is sent. -/
def follow (writable : Url → Bool) (web : Web) (trusted : Option Url.Host) (asked : Url) :
    Traced (Except FetchProblem Answer) :=
  if writable asked then followFrom writable web trusted maxRedirects [] asked
  else ⟨[], .error .notWritable⟩

end StartOrder
