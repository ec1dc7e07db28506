import StartOrder.Recipe.Reading
import StartOrder.Source.Descriptor
import StartOrder.Source.Download
import StartOrder.Source.Settings
import StartOrder.Source.Subject

/-!
# Loading recipes

A recipe that is given inline is taken as it is; any other is downloaded. The token of the current
subject goes into the query of an address on the trusted host, and nowhere else: `Loader.authorize`
is the one place where an address and a token meet.

Whatever is fetched is `Traced`, that is, it comes with the requests that reached a server. What can
be seen of a token is therefore a statement about values.
-/

namespace StartOrder

/-- What loading takes of the settings, and of the client that makes its requests. -/
structure Loader where
  trustedHost : Option Url.Host := none
  maxRecipeSize : Nat
  /-- Whether the client can write a request for an address. -/
  writable : Url → Bool := isWritable

namespace Loader

/-- The loader with some settings, which must be usable, and with a client that can write requests
for some addresses. -/
def ofSettings (s : Settings) (writable : Url → Bool := isWritable) : Except Failure Loader :=
  s.validate.map fun _ =>
    { trustedHost := s.trustedHost, maxRecipeSize := s.maxRecipeSize.toNat, writable }

/-- The address under which a location is asked for. On the trusted host it carries the token. -/
def authorize (l : Loader) (location : String) (token : Option String) :
    Except FetchProblem Url :=
  match Url.ofText location with
  | .error problem => .error (.badUrl problem)
  | .ok url =>
    if !url.isWeb then .error (.schemeNotWeb url.scheme)
    else match token with
      | some token =>
        .ok (if isTrusted l.trustedHost url then url.appendPair "token" token else url)
      | none => .ok url

/-- Download the text at a location, with a directory for its file. -/
def download (l : Loader) (web : Web) (token : Option String) (d : Directory) (location : String) :
    Directory × Traced (Except FetchProblem String) :=
  match l.authorize location token with
  | .error problem => (d, ⟨[], .error problem⟩)
  | .ok url =>
    let reply := follow l.writable web l.trustedHost url
    let received := match reply.result with
      | .ok answer => answer.receive l.maxRecipeSize
      | .error problem => { problem := some problem }
    let (d, text) := d.keep received
    (d, ⟨reply.requests, text⟩)

/-- Download the text at a location on behalf of the current subject. -/
def fetch (l : Loader) (web : Web) (current : Option Subject) (location : String) :
    Traced (Except Failure String) :=
  let (_, fetched) := l.download web (currentToken current) {} location
  ⟨fetched.requests, fetched.result.mapError (.fetch location)⟩

/-- The text that a descriptor stands for. A content wins over a location. -/
def load (l : Loader) (web : Web) (current : Option Subject) (d : Descriptor) :
    Traced (Except Failure String) :=
  match d.content, d.location with
  | some content, _ => ⟨[], .ok content⟩
  | none, some location => l.fetch web current location
  | none, none => ⟨[], .error .noSource⟩

/-- The environment that a descriptor stands for. The media type is checked before anything is
downloaded. -/
def read (l : Loader) (web : Web) (current : Option Subject) (d : Descriptor) :
    Traced (Except Failure Environment) :=
  match ContentType.ofMediaType d.contentType with
  | .error e => ⟨[], .error e⟩
  | .ok _ =>
    let loaded := l.load web current d
    ⟨loaded.requests, loaded.result >>= fun content => Environment.ofRecipe content d.contentType⟩

end Loader

end StartOrder
