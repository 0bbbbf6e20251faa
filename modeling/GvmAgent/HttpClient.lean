import GvmAgent.CString

set_option autoImplicit false

/-! `http_client.c`: the requests libcurl is asked to send, and the three JSON helpers.

The transfer itself is the environment's: a request yields a `Transport` outcome. Allocation
failures and NULL arguments are left out; every caller passes non-NULL strings. -/

namespace GvmAgent

inductive HttpMethod where
  | get
  | post
  deriving DecidableEq, Repr

/-- A request as it is handed to libcurl: method, URL, header lines and body. -/
structure HttpRequest where
  method : HttpMethod
  url : List Char
  headers : List (List Char)
  body : List Char
  deriving DecidableEq, Repr

/-- The outcome of `curl_easy_perform`: a transport failure, or a status and a body. The body
is what the string functions see of the buffer `write_callback` fills: the bytes before the
first NUL. -/
inductive Transport where
  | failure
  | response (status : Int) (body : List Char)
  deriving DecidableEq, Repr

/-- The header line `snprintf` writes into `char auth_header[512]`. -/
def authorizationHeader (authToken : List Char) : List Char :=
  snprintf 512 ("Authorization: Bearer ".toList ++ authToken)

/-- `http_post`: a JSON body, with an `Authorization` header when a token is given. -/
def httpPost (url : List Char) (authToken : Option (List Char)) (jsonBody : List Char) :
    HttpRequest :=
  { method := .post, url := url, body := jsonBody,
    headers := "Content-Type: application/json".toList :: (authToken.map authorizationHeader).toList }

/-- `http_get`. -/
def httpGet (url : List Char) (authToken : Option (List Char)) : HttpRequest :=
  { method := .get, url := url, body := [],
    headers := "Accept: application/json".toList :: (authToken.map authorizationHeader).toList }

/-- The needle `"key"` as `snprintf` writes it into `char search_key[256]`. -/
def searchKey (key : List Char) : List Char := snprintf 256 ('"' :: key ++ ['"'])

/-- What the three parse helpers share: the text after the first `:` that follows the first
occurrence of the quoted key. -/
def jsonValueStart (jsonStr key : List Char) : Option (List Char) := do
  let keyPos ← strstr jsonStr (searchKey key)
  let colon ← strchr keyPos ':'
  pure colon.tail

/-- The characters the helpers skip before a value. -/
def isBlank (c : Char) : Bool := c == ' ' || c == '\t'

/-- How `http_parse_json_string` reads the value: blanks, an opening quote, and everything up
to the next quote (which must exist). -/
def readJsonString (valueStart : List Char) : Option (List Char) :=
  match valueStart.dropWhile isBlank with
  | '"' :: rest => if '"' ∈ rest then some (rest.takeWhile (· != '"')) else none
  | _ => none

/-- How `http_parse_json_bool` reads the value: blanks, then `true` or `false`. -/
def readJsonBool (valueStart : List Char) : Option Bool :=
  let value := valueStart.dropWhile isBlank
  if "true".toList.isPrefixOf value then some true
  else if "false".toList.isPrefixOf value then some false
  else none

/-- `http_parse_json_string`: `some value` when it returns true and stores `value`. -/
def httpParseJsonString (jsonStr key : List Char) : Option (List Char) :=
  (jsonValueStart jsonStr key).bind readJsonString

/-- `http_parse_json_bool`. -/
def httpParseJsonBool (jsonStr key : List Char) : Option Bool :=
  (jsonValueStart jsonStr key).bind readJsonBool

/-- `http_parse_json_int`: whatever `atoi` reads after the colon. -/
def httpParseJsonInt (jsonStr key : List Char) : Option Int :=
  (jsonValueStart jsonStr key).map atoi

theorem parse_helpers_of_no_key {jsonStr key : List Char}
    (absent : strstr jsonStr (searchKey key) = none) :
    httpParseJsonString jsonStr key = none ∧ httpParseJsonBool jsonStr key = none ∧
      httpParseJsonInt jsonStr key = none := by
  simp [httpParseJsonString, httpParseJsonBool, httpParseJsonInt, jsonValueStart, absent]

end GvmAgent
