import Telemetry.Client.Expansion
import Telemetry.Url.Reader
/-!
Requests to other servers, and what comes of them.
-/
namespace Telemetry.Client

/-- The usual words for statuses. -/
def reasons : List (Nat × String) :=
  [(100, "Continue"), (101, "Switching Protocols"), (102, "Processing"), (103, "Early Hints"),
   (200, "OK"), (201, "Created"), (202, "Accepted"), (203, "Non Authoritative Information"),
   (204, "No Content"), (205, "Reset Content"), (206, "Partial Content"), (207, "Multi-Status"),
   (208, "Already Reported"), (226, "IM Used"),
   (300, "Multiple Choices"), (301, "Moved Permanently"), (302, "Found"), (303, "See Other"),
   (304, "Not Modified"), (305, "Use Proxy"), (307, "Temporary Redirect"),
   (308, "Permanent Redirect"),
   (400, "Bad Request"), (401, "Unauthorized"), (402, "Payment Required"), (403, "Forbidden"),
   (404, "Not Found"), (405, "Method Not Allowed"), (406, "Not Acceptable"),
   (407, "Proxy Authentication Required"), (408, "Request Timeout"), (409, "Conflict"),
   (410, "Gone"), (411, "Length Required"), (412, "Precondition Failed"),
   (413, "Payload Too Large"), (414, "URI Too Long"), (415, "Unsupported Media Type"),
   (416, "Range Not Satisfiable"), (417, "Expectation Failed"), (418, "I'm a teapot"),
   (421, "Misdirected Request"), (422, "Unprocessable Entity"), (423, "Locked"),
   (424, "Failed Dependency"), (425, "Too Early"), (426, "Upgrade Required"),
   (428, "Precondition Required"), (429, "Too Many Requests"),
   (431, "Request Header Fields Too Large"), (451, "Unavailable For Legal Reasons"),
   (500, "Internal Server Error"), (501, "Not Implemented"), (502, "Bad Gateway"),
   (503, "Service Unavailable"), (504, "Gateway Timeout"), (505, "HTTP Version Not Supported"),
   (506, "Variant Also Negotiates"), (507, "Insufficient Storage"), (508, "Loop Detected"),
   (510, "Not Extended"), (511, "Network Authentication Required")]

/-- A status with its usual words. -/
def statusText (status : Nat) : String :=
  toString status ++ " " ++ (reasons.lookup status).getD "<unknown status code>"

/-- Whether a status tells of success. -/
def isSuccess (status : Nat) : Bool := 200 ≤ status && status < 300

/-- A request (`ClientRequest`). -/
structure Request where
  method : String
  url : Url
  /-- The template that the address was made from. -/
  template : Option String := none
  body : List UInt8 := []
deriving DecidableEq

/-- An answer (`ClientResponse`). -/
structure Response where
  status : Nat
  body : List UInt8 := []
deriving DecidableEq

/-- Why there is no answer, or none that counts (`ClientError`). -/
inductive Failure where
  /-- A template has another number of placeholders than there are values. -/
  | arity (template : String) (expected actual : Nat)
  | invalidUrl (text : String) (fault : Url.Fault)
  | transport (explanation : String)
  /-- The status does not tell of success. -/
  | status (status : Nat) (url : String)
deriving DecidableEq

/-- A failure in words. -/
def Failure.message : Failure → String
  | arity template expected actual =>
    "URI template " ++ template ++ " expects " ++ toString expected ++ " variables, got " ++
      toString actual
  | invalidUrl text fault => "invalid URL " ++ text ++ ": " ++ fault.message
  | transport explanation => "transport error: " ++ explanation
  | status code url => "HTTP " ++ statusText code ++ " from " ++ url

/-- What comes of a request. -/
abbrev Outcome := Except Failure Response

/-- Puts values into a template (`expand_template`); there has to be one for each placeholder. -/
def expand (template : String) (values : List String) : Except Failure String :=
  let expansion := Expansion.read template.toList
  let expected := expansion.placeholders.length
  if expected = values.length then .ok (String.ofList (expansion.fill (values.map String.toList)))
  else .error (.arity template expected values.length)

/-- Reads an address, relative to a base if there is one. -/
def readUrl (base : Option Url) (text : String) : Except Failure Url :=
  match Url.read text base with
  | .ok url => .ok url
  | .error fault => .error (.invalidUrl text fault)

/-- The request for a template and its values (`RestClient::request`). -/
def Request.ofTemplate (base : Option Url) (method template : String) (values : List String) :
    Except Failure Request := do
  let url ← readUrl base (← expand template values)
  return { method, url, template := some template }

end Telemetry.Client
