import RemoteTail.Text.Base64
import RemoteTail.Url.Host

/-!
# Absolute URLs

A URL begins with a scheme.  The schemes of the web have a host and a path of
segments; other schemes have whatever follows.  Reading is lenient in the way
of browsers: white space around the text and line breaks inside it do not
count, a reverse solidus serves as a slash in the schemes of the web, and dot
segments are resolved.

Two of the schemes of the web are those of HTTP, and requests can be sent to
URLs of these only.  They differ in the connections that requests go over and
in the port that a URL need not name.
-/

namespace RemoteTail

/-- A scheme in which requests can be sent. -/
inductive HttpScheme where
  /-- Requests go over plain connections. -/
  | http
  /-- Requests go over secured connections. -/
  | https
deriving DecidableEq, Repr

namespace HttpScheme

/-- The name of a scheme in front of a URL. -/
def name : HttpScheme → String
  | http => "http"
  | https => "https"

/-- The scheme of a name, if requests can be sent in it. -/
def ofName? (name : String) : Option HttpScheme :=
  [http, https].find? (·.name = name)

/-- The port at which requests are answered unless a URL says otherwise. -/
def usualPort : HttpScheme → Nat
  | http => 80
  | https => 443

end HttpScheme

/-- A URL to which requests can be sent, as far as a request needs it. -/
structure WebUrl where
  /-- The scheme. -/
  scheme : HttpScheme
  /-- The name of the user, percent-encoded or not. -/
  user : String
  /-- The password of the user. -/
  password : Option String
  /-- The host. -/
  host : Host
  /-- The port, unless it is the one of the scheme. -/
  port : Option Nat
  /-- The path, percent-encoded and with a slash in front. -/
  path : String
  /-- The query, percent-encoded and without the question mark in front. -/
  query : Option String
  /-- The fragment, percent-encoded and without the number sign in front. -/
  fragment : Option String
deriving DecidableEq, Repr

/-- An absolute URL. -/
inductive Url where
  /-- A URL to which requests can be sent, over a secured connection or in the clear. -/
  | http (url : WebUrl)
  /-- A URL of any other scheme, to which no request can be sent. -/
  | other (scheme : String)
deriving DecidableEq, Repr

namespace Url

/-- Whether a character may stand in a scheme after the first letter. -/
def isSchemeChar (c : Char) : Bool :=
  c.isAlphanum || c = '+' || c = '-' || c = '.'

/-- The scheme in front of a text, in lower case, and what follows its colon. -/
def scheme? (text : List Char) : Option (String × List Char) :=
  match text.head?, text.dropWhile isSchemeChar with
  | some first, ':' :: rest =>
    if first.isAlpha then
      some (String.ofList ((text.takeWhile isSchemeChar).map Char.toLower), rest)
    else none
  | _, _ => none

/-- The schemes that have a host and a path of segments. -/
def webSchemes : List String :=
  ["http", "https", "ws", "wss", "ftp"]

/-- The text that counts: without controls and spaces at either end, and without tabs and line
breaks. -/
def countingText (text : String) : List Char :=
  let isEdge := fun (c : Char) => c.toNat ≤ 0x20
  let inner := ((text.toList.dropWhile isEdge).reverse.dropWhile isEdge).reverse
  inner.filter fun c => c ≠ '\t' && c ≠ '\n' && c ≠ '\r'

/-- Whether a character ends the authority of a URL. -/
def endsAuthority (web : Bool) (c : Char) : Bool :=
  c = '/' || c = '?' || c = '#' || (web && c = '\\')

/-- The text up to the last occurrence of a character, if there is one, and the text after it. -/
def splitLast (mark : Char) (text : List Char) : Option (List Char) × List Char :=
  let reversed := text.reverse
  match reversed.dropWhile (· ≠ mark) with
  | [] => (none, text)
  | _ :: before => (some before.reverse, (reversed.takeWhile (· ≠ mark)).reverse)

/-- The host in front of a text, and the rest from the colon before the port on.  Colons inside
brackets belong to the host. -/
def splitPort : (inside : Bool) → List Char → List Char × List Char
  | _, [] => ([], [])
  | inside, c :: rest =>
    if c = ':' && !inside then ([], c :: rest)
    else
      let (host, port) := splitPort (c = '[' || (inside && c ≠ ']')) rest
      (c :: host, port)

/-- The port after a colon; nothing after it leaves the port to the scheme.  A reverse solidus ends
a port in every scheme. -/
def port? : List Char → Option (Option Nat)
  | ':' :: rest =>
    let digits := rest.takeWhile (· ≠ '\\')
    if digits.isEmpty then some none
    else (Decimal.below? (1 <<< 16) digits).map some
  | _ => some none

/-- What stands between the scheme and the path. -/
structure Authority (α : Type) where
  /-- The name of the user. -/
  user : List Char
  /-- The password of the user. -/
  password : Option (List Char)
  /-- The host. -/
  host : α
  /-- The port, unless it is left to the scheme. -/
  port : Option Nat

/-- The authority that a text spells, with a host read by `host?`.  A user has to be at a host, and so
has a port; `followed` tells whether more of the URL comes after the text, and then so has a bare at
sign. -/
def authority? {α : Type} (host? : List Char → Option α) (followed : Bool) (text : List Char) :
    Option (Authority α) := do
  let (userInfo, hostAndPort) := splitLast '@' text
  let (hostText, portText) := splitPort false hostAndPort
  let user := (userInfo.getD []).takeWhile (· ≠ ':')
  let password := ((userInfo.getD []).dropWhile (· ≠ ':')).drop 1
  let isBare := userInfo = some [] && followed
  if hostText.isEmpty && !(user.isEmpty && password.isEmpty && portText.isEmpty && !isBare) then
    none
  else
    some { user
           password := if password.isEmpty then none else some password
           host := ← host? hostText
           port := ← port? portText }

/-- A segment with its percent-encoded dots shown. -/
def showDots : List Char → List Char
  | '%' :: '2' :: c :: rest =>
    if c = 'e' || c = 'E' then '.' :: showDots rest else '%' :: '2' :: showDots (c :: rest)
  | c :: rest => c :: showDots rest
  | [] => []

/-- Whether a segment names a drive. -/
def isDrive : List Char → Bool
  | [letter, mark] => letter.isAlpha && (mark = ':' || mark = '|')
  | _ => false

/-- Segments, the last one first, without the last one.  A drive stays. -/
def shorten : List (List Char) → List (List Char)
  | [] => []
  | last :: before => if isDrive last then last :: before else before

/-- The segments that come before a segment and the segment itself, the last one first, with dot
segments resolved.  A dot segment at the end leaves an empty one. -/
def addSegment (before : List (List Char)) (segment : List Char) (atEnd : Bool) :
    List (List Char) :=
  let dots := showDots segment
  let left := if dots = ['.', '.'] then shorten before else before
  if dots = ['.'] || dots = ['.', '.'] then if atEnd then [] :: left else left
  else segment :: before

/-- Resolves the dot segments of a path from the left, where the segments `before`, the last one
first, are resolved already. -/
def resolve (before : List (List Char)) : List (List Char) → List (List Char)
  | [] => before.reverse
  | [last] => (addSegment before last true).reverse
  | segment :: segments => resolve (addSegment before segment false) segments

/-- A path in its percent-encoded form, with dot segments resolved and a slash in front. -/
def pathText (text : List Char) : List Char :=
  let slashed := text.map fun c => if c = '\\' then '/' else c
  let relative := match slashed with
    | '/' :: rest => rest
    | rest => rest
  (resolve [] (Separated.parts '/' relative)).flatMap fun segment =>
    '/' :: Percent.encode Percent.pathKeeps segment

/-- What follows the first occurrence of a mark in a text. -/
def after? (mark : Char) (text : List Char) : Option (List Char) :=
  match text.dropWhile (· ≠ mark) with
  | [] => none
  | _ :: rest => some rest

/-- A query in its percent-encoded form. -/
def queryText (text : List Char) : String :=
  String.ofList (Percent.encode Percent.queryKeeps text)

/-- A fragment in its percent-encoded form. -/
def fragmentText (text : List Char) : String :=
  String.ofList (Percent.encode Percent.fragmentKeeps text)

/-- The URL of a web scheme. -/
def webUrl? (scheme : String) (text : List Char) : Option Url := do
  let afterSlashes := text.dropWhile fun c => c = '/' || c = '\\'
  let rest := afterSlashes.dropWhile (!endsAuthority true ·)
  let parsed ← authority? Host.parse? (!rest.isEmpty)
    (afterSlashes.takeWhile (!endsAuthority true ·))
  let request := rest.takeWhile (· ≠ '#')
  match HttpScheme.ofName? scheme with
  | none => some (.other scheme)
  | some scheme =>
    some <| .http
      { scheme
        user := String.ofList parsed.user
        password := parsed.password.map String.ofList
        host := parsed.host
        port := parsed.port.filter (· ≠ scheme.usualPort)
        path := String.ofList (pathText (request.takeWhile (· ≠ '?')))
        query := (after? '?' request).map queryText
        fragment := (after? '#' rest).map fragmentText }

/-- Whether a text may follow the scheme of a local file: after two slashes a host may stand, unless
it looks like a drive. -/
def isFileRest (text : List Char) : Bool :=
  match text.map fun c => if c = '\\' then '/' else c with
  | '/' :: '/' :: rest =>
    let host := rest.takeWhile (!endsAuthority true ·)
    host.isEmpty || isDrive host || (Host.parse? host).isSome
  | _ => true

/-- Whether a text may follow a scheme of which nothing more is known: after two slashes an
authority stands. -/
def isOtherRest : List Char → Bool
  | '/' :: '/' :: rest =>
    let host? := fun host => if Host.isOpaque host then some () else none
    let followed := rest.any (endsAuthority false)
    (authority? host? followed (rest.takeWhile (!endsAuthority false ·))).isSome
  | _ => true

/-- The absolute URL that a text spells. -/
def parse? (text : String) : Option Url := do
  let (scheme, rest) ← scheme? (countingText text)
  if webSchemes.contains scheme then webUrl? scheme rest
  else if scheme = "file" then if isFileRest rest then some (.other scheme) else none
  else if isOtherRest rest then some (.other scheme) else none

end Url

namespace WebUrl

/-- The query with further parameters after it. -/
def queryWith (url : WebUrl) (parameters : List (String × String)) : String :=
  let further := String.ofList (Percent.formText parameters)
  match url.query with
  | none => further
  | some query => if query.isEmpty then further else query ++ "&" ++ further

/-- What a request for the URL asks for, with further parameters after its query. -/
def target (url : WebUrl) (parameters : List (String × String)) : String :=
  url.path ++ "?" ++ url.queryWith parameters

/-- A percent-encoded text, if it is one of UTF-8. -/
def decoded? (text : String) : Option (List Char) :=
  Utf8.decode? (Percent.decode text.toList)

/-- The name and the password of the user, if there is either.  A password that is not a text counts
as none, and a name that is not a text leaves no user. -/
def credentials? (url : WebUrl) : Option (List Char × Option (List Char)) := do
  let user ← decoded? url.user
  let password := url.password.bind decoded?
  if user.isEmpty && password.isNone then none else some (user, password)

/-- The credentials of the user as the value of a header. -/
def authorization? (url : WebUrl) : Option String :=
  url.credentials?.map fun (user, password) =>
    "Basic " ++ String.ofList (Base64.encode (Bytes.ofChars (user ++ ':' :: password.getD [])))

/-- The name or the password of a user in its percent-encoded form. -/
def userText (text : String) : String :=
  String.ofList (Percent.encode Percent.userKeeps text.toList)

/-- What stands before the host when the URL is written for a request: nothing if the credentials
go into a header. -/
def userInfo (url : WebUrl) : String :=
  let password := match url.password with
    | none => ""
    | some password => ":" ++ userText password
  let info := userText url.user ++ password
  if url.credentials?.isSome || info.isEmpty then "" else info ++ "@"

/-- The host and its port. -/
def hostAndPort (url : WebUrl) : String :=
  match url.port with
  | none => url.host.text
  | some port => url.host.text ++ ":" ++ Decimal.text port

/-- The URL as it is written for a request, with further parameters after its query. -/
def textWith (url : WebUrl) (parameters : List (String × String)) : String :=
  let fragment := match url.fragment with
    | none => ""
    | some fragment => "#" ++ fragment
  url.scheme.name ++ "://" ++ url.userInfo ++ url.hostAndPort ++ url.target parameters ++ fragment

end WebUrl

end RemoteTail
