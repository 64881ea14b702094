import SchemaScribe.Text.Numeral
import SchemaScribe.Text.Percent
import SchemaScribe.Text.WordChar

/-!
# Database locators

A locator names a database: a dialect with an optional driver, credentials, a host, a port, a database
and a query. Reading takes the longest parts from left to right; what follows the last readable part is
ignored. Printing shows the password or hides it behind three stars.
-/

namespace SchemaScribe.Connection

open SchemaScribe.Text

/-- The parts of a locator. The query keeps the values of each name together. -/
structure Url where
  driver : String
  user : Option String
  password : Option String
  host : Option String
  port : Option Int
  database : Option String
  query : List (String × List String)
deriving DecidableEq, Repr

/-- Why a text is no locator. -/
inductive UrlError where
  | unreadable
  | badPort (fault : IntegerFault)
deriving DecidableEq, Repr

/-- The wording of a locator error. -/
def UrlError.message : UrlError → String
  | .unreadable => "Could not parse SQLAlchemy URL from given URL string"
  | .badPort fault => fault.message

namespace Url

/-- The characters of a dialect and driver name. -/
def isNameChar (c : Char) : Bool := isWordChar c || c = '+'

/-- Splits off the dialect name with its separator. -/
def splitName (s : List Char) : Option (List Char × List Char) :=
  match s.takeWhile isNameChar, s.dropWhile isNameChar with
  | [], _ => none
  | name, ':' :: '/' :: '/' :: rest => some (name, rest)
  | _, _ => none

/-- Splits at the last at-sign: what stands before it and what follows. -/
def splitLastAt (s : List Char) : Option (List Char × List Char) :=
  match s.reverse.dropWhile (· ≠ '@') with
  | [] => none
  | _ :: before => some (before.reverse, (s.reverse.takeWhile (· ≠ '@')).reverse)

/-- The credentials in front of an at-sign and the rest. A user holds no colon and no slash, and is as
long as it can be; a password goes up to the first at-sign after it. -/
def splitCredentials (s : List Char) :
    Option (List Char) × Option (List Char) × List Char :=
  let user := s.takeWhile fun c => c ≠ ':' && c ≠ '/'
  let rest := s.drop user.length
  let withoutPassword := match splitLastAt user with
    | some (name, host) => (some name, none, host ++ rest)
    | none => (none, none, s)
  match rest with
  | ':' :: more =>
    match more.dropWhile (· ≠ '@') with
    | '@' :: after => (some user, some (more.takeWhile (· ≠ '@')), after)
    | _ => withoutPassword
  | _ => withoutPassword

/-- Splits off a host, which may stand in brackets. In brackets it is as long as it can be. -/
def splitHost (s : List Char) : Option (List Char) × List Char :=
  let plain :=
    let host := s.takeWhile fun c => c ≠ '/' && c ≠ ':' && c ≠ '?'
    if host.isEmpty then (none, s) else (some host, s.drop host.length)
  match s with
  | '[' :: rest =>
    let span := rest.takeWhile fun c => c ≠ '/' && c ≠ '?'
    match span.reverse.dropWhile (· ≠ ']') with
    | _ :: inner =>
      if inner.isEmpty then plain
      else (some inner.reverse, rest.drop (inner.length + 1))
    | [] => plain
  | _ => plain

/-- Splits off what a mark introduces, up to a character at which `stops` holds. -/
def splitMarked (mark : Char) (stops : Char → Bool) (s : List Char) :
    Option (List Char) × List Char :=
  match s with
  | c :: rest =>
    if c = mark then (some (rest.takeWhile (!stops ·)), rest.dropWhile (!stops ·)) else (none, s)
  | [] => (none, s)

/-- The names and values of a query; a name without a value is left out. -/
def queryPairs (s : List Char) : List (String × String) :=
  let plain := fun (t : List Char) =>
    percentDecode (.ofList (t.map fun c => if c = '+' then ' ' else c))
  (s.splitOn '&').filterMap fun item =>
    match item.dropWhile (· ≠ '=') with
    | _ :: c :: value => some (plain (item.takeWhile (· ≠ '=')), plain (c :: value))
    | _ => none

/-- Collects the values of each name, in the order of the names. -/
def collect (pairs : List (String × String)) : List (String × List String) :=
  pairs.foldl (fun found (name, value) =>
    if found.any (·.1 = name) then
      found.map fun (n, values) => if n = name then (n, values ++ [value]) else (n, values)
    else found ++ [(name, [value])]) []

/-- Reads a locator. -/
def read (text : String) : Except UrlError Url :=
  match splitName text.toList with
  | none => .error .unreadable
  | some (name, rest) =>
    let (user, password, rest) := splitCredentials rest
    let (host, rest) := splitHost rest
    let (port, rest) := splitMarked ':' (fun c => c = '/' || c = '?') rest
    let (database, rest) := splitMarked '/' (· = '?') rest
    let (query, _) := splitMarked '?' (· = '\n') rest
    let decoded := fun (part : Option (List Char)) => part.map fun s => percentDecode (.ofList s)
    let url : Option Int → Url := fun port =>
      { driver := .ofList name
        user := decoded user
        password := decoded password
        host := host.map .ofList
        port := port
        database := decoded database
        query := collect (queryPairs (query.getD [])) }
    match port with
    | none => .ok (url none)
    | some digits => ((readInteger 10 digits).map fun n => url (some n)).mapError .badPort

/-- Whether the password is written out. -/
inductive PasswordView where
  | shown
  | hidden
deriving DecidableEq

/-- The credentials of a locator as text. A password without a user is left out. -/
def credentials (view : PasswordView) (url : Url) : String :=
  match url.user with
  | none => ""
  | some user =>
    let password := match url.password, view with
      | none, _ => ""
      | some _, .hidden => ":***"
      | some p, .shown => ":" ++ percentEncode " +" p
    percentEncode " +" user ++ password ++ "@"

/-- A locator as text. -/
def render (view : PasswordView) (url : Url) : String :=
  let host := match url.host with
    | none => ""
    | some h => if h.toList.contains ':' then "[" ++ h ++ "]" else h
  let port := match url.port with
    | none => ""
    | some n => ":" ++ toString n
  let database := match url.database with
    | none => ""
    | some d => "/" ++ percentEncode " +/" d
  let names := url.query.mergeSort fun a b => a.1 ≤ b.1
  let items := names.flatMap fun (name, values) =>
    values.map fun value => formEncode name ++ "=" ++ formEncode value
  let query := if items.isEmpty then "" else "?" ++ "&".intercalate items
  url.driver ++ "://" ++ credentials view url ++ host ++ port ++ database ++ query

/-- The dialect of a locator: its name up to the first plus sign. -/
def dialect (url : Url) : String := .ofList (url.driver.toList.takeWhile (· ≠ '+'))

end Url

end SchemaScribe.Connection
