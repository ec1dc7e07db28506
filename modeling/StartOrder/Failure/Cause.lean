import StartOrder.Url.Problem
import StartOrder.Yaml.Mismatch

/-!
# Causes of failures

What lies behind a failure, one type for each kind of work: downloads, files, settings, recipes,
names of services, and the order among them. The text of a cause is a function of the cause. Where
one comes from outside, such as from a launcher or from a transport, it is stated as a text that was
handed over.
-/

namespace StartOrder

/-! ## Downloads -/

/-- The reason phrases of the status codes that have one. -/
def statusPhrases : List (Nat × String) :=
  [(100, "Continue"), (101, "Switching Protocols"), (102, "Processing"), (103, "Early Hints"),
    (200, "OK"), (201, "Created"), (202, "Accepted"), (203, "Non Authoritative Information"),
    (204, "No Content"), (205, "Reset Content"), (206, "Partial Content"), (207, "Multi-Status"),
    (208, "Already Reported"), (226, "IM Used"),
    (300, "Multiple Choices"), (301, "Moved Permanently"), (302, "Found"), (303, "See Other"),
    (304, "Not Modified"), (305, "Use Proxy"), (307, "Temporary Redirect"),
    (308, "Permanent Redirect"),
    (400, "Bad Request"), (401, "Unauthorized"), (402, "Payment Required"), (403, "Forbidden"),
    (404, "Not Found"), (405, "Method Not Allowed"), (406, "Not Acceptable"),
    (407, "Proxy Authentication Required"), (408, "Request Timeout"), (409, "Conflict"),
    (410, "Gone"), (411, "Length Required"), (412, "Precondition Failed"),
    (413, "Payload Too Large"), (414, "URI Too Long"), (415, "Unsupported Media Type"),
    (416, "Range Not Satisfiable"), (417, "Expectation Failed"), (418, "I'm a teapot"),
    (421, "Misdirected Request"), (422, "Unprocessable Entity"), (423, "Locked"),
    (424, "Failed Dependency"), (425, "Too Early"), (426, "Upgrade Required"),
    (428, "Precondition Required"), (429, "Too Many Requests"),
    (431, "Request Header Fields Too Large"), (451, "Unavailable For Legal Reasons"),
    (500, "Internal Server Error"), (501, "Not Implemented"), (502, "Bad Gateway"),
    (503, "Service Unavailable"), (504, "Gateway Timeout"), (505, "HTTP Version Not Supported"),
    (506, "Variant Also Negotiates"), (507, "Insufficient Storage"), (508, "Loop Detected"),
    (510, "Not Extended"), (511, "Network Authentication Required")]

/-- A status code with its reason phrase. -/
def statusText (code : Nat) : String :=
  let phrase := (statusPhrases.lookup code).getD "<unknown status code>"
  s!"{code} {phrase}"

/-- Why a recipe was not downloaded. -/
inductive FetchProblem where
  | badUrl (problem : Url.Problem)
  | schemeNotWeb (scheme : String)
  /-- No request can be written for the address. -/
  | notWritable
  /-- No connection to the server could be made. -/
  | unreachable
  /-- The server closed the connection without an answer. -/
  | closed
  | tooManyRedirects (limit : Nat)
  /-- A redirect led away from the trusted host. -/
  | leavesTrusted (host : String)
  | redirectNotWeb
  | status (code : Nat)
  | tooLarge (limit : Nat)
  /-- The answer ended before its end was due. -/
  | cutShort
  | notText
  | stated (text : String)
  deriving DecidableEq, Repr

/-- The words for a problem of a download. -/
def FetchProblem.message : FetchProblem → String
  | .badUrl problem => s!"invalid URL: {problem.message}"
  | .schemeNotWeb scheme => s!"scheme must be http or https, got '{scheme}'"
  | .notWritable => "builder error: Parsed Url is not a valid Uri"
  | .unreachable => "error sending request: client error (Connect)"
  | .closed => "error sending request: client error (SendRequest)"
  | .tooManyRedirects limit => s!"error following redirect: more than {limit} redirects"
  | .leavesTrusted host =>
    s!"error following redirect: refusing redirect from the API host to '{host}'"
  | .redirectNotWeb => "builder error: URL scheme is not allowed"
  | .status code => s!"server responded with {statusText code}"
  | .tooLarge limit => s!"recipe exceeds {limit} bytes"
  | .cutShort => "error decoding response body: request or response body error"
  | .notText => "stream did not contain valid UTF-8"
  | .stated text => text

/-! ## Files and settings -/

/-- Why a file was not read. -/
inductive FileProblem where
  | missing
  | notDirectory
  | isDirectory
  | nameTooLong
  | zeroInName
  | notText
  | denied
  | other (text : String)
  deriving DecidableEq, Repr

/-- The words for a problem with a file. -/
def FileProblem.message : FileProblem → String
  | .missing => "No such file or directory (os error 2)"
  | .notDirectory => "Not a directory (os error 20)"
  | .isDirectory => "Is a directory (os error 21)"
  | .nameTooLong => "File name too long (os error 36)"
  | .zeroInName => "file name contained an unexpected NUL byte"
  | .denied => "Permission denied (os error 13)"
  | .other text => text
  | .notText => "stream did not contain valid UTF-8"

/-- Why settings, or the file of a recipe, cannot be used. -/
inductive SettingsProblem where
  | recipeFile (name : String) (problem : FileProblem)
  | settingsFile (name : String) (problem : FileProblem)
  | document (problem : Yaml.Problem)
  | endpointScheme (url : String)
  | endpointHost (url : String)
  | timeout (text : String)
  | zeroSize
  | stated (text : String)
  deriving Inhabited

/-- The words for a problem of settings. -/
def SettingsProblem.message : SettingsProblem → String
  | .recipeFile name problem => s!"Failed to read recipe file '{name}': {problem.message}"
  | .settingsFile name problem => s!"Failed to read settings file '{name}': {problem.message}"
  | .document problem => s!"Failed to parse settings: {problem.message}"
  | .endpointScheme url => s!"Invalid api_endpoint '{url}': scheme must be http or https"
  | .endpointHost url => s!"Invalid api_endpoint '{url}': no host"
  | .timeout text =>
    s!"Invalid fetch_timeout '{text}'. Use formats like '5s', '30s', '1m', '500ms'"
  | .zeroSize => "max_recipe_size must be greater than zero"
  | .stated text => text

/-! ## Recipes -/

/-- Why a text is no recipe. -/
inductive RecipeProblem where
  | document (problem : Yaml.Problem)
  | stated (text : String)
  deriving Inhabited

/-- The words for a problem of a recipe. -/
def RecipeProblem.message : RecipeProblem → String
  | .document problem => problem.message
  | .stated text => text

/-- Why a service cannot have its name. -/
inductive NameProblem where
  | blank
  /-- A colon ends the name of the service in a link. -/
  | colon (name : String)
  | stated (text : String)
  deriving DecidableEq, Repr

/-- The words for a problem of a name. -/
def NameProblem.message : NameProblem → String
  | .blank => "Service names must not be empty"
  | .colon name =>
    s!"Service name '{name}' must not contain ':' as links could not refer to it"
  | .stated text => text

/-- Why services have no start order: some refer to services that are not defined, or depend on each
other in a cycle. -/
inductive OrderProblem where
  | found (missing : List (String × String)) (cycle : Option (List String))
  | stated (text : String)
  deriving DecidableEq, Repr

/-- The sentence about one reference to an undefined service. -/
def missingText (reference : String × String) : String :=
  s!"'{reference.1}' references undefined service '{reference.2}'"

/-- The sentence about a cycle, given as a path. -/
def cycleText (path : List String) : String := "dependency cycle " ++ " -> ".intercalate path

/-- The words for a problem of the order. -/
def OrderProblem.message : OrderProblem → String
  | .stated text => text
  | .found [] none => "dependencies could not be resolved"
  | .found missing cycle =>
    let references := if missing.isEmpty then [] else [", ".intercalate (missing.map missingText)]
    "; ".intercalate (references ++ (cycle.map cycleText).toList)

end StartOrder
