import SchemaScribe.Catalog.Selection
import SchemaScribe.Connection.Descriptor
import SchemaScribe.Database.Reading

/-!
# Sessions

A session connects to a source, reads its catalog and lets go of everything again. What it does to the
source is kept as a list of **events**; each is recorded before it can fail.
-/

namespace SchemaScribe.Database

open SchemaScribe.Connection SchemaScribe.Catalog

/-- What a session does to a source. -/
inductive Event where
  | create (url : String) (arguments : List (String × Nat))
  | connect
  | inspect
  | closeConnection
  | dispose
deriving DecidableEq, Repr

/-- A session with what it holds open. -/
structure Session where
  descriptor : Descriptor
  engine : Bool := false
  connection : Bool := false
  inspector : Bool := false

/-- Why a session could not be opened. -/
inductive OpenError where
  | badUrl (error : UrlError)
  | unreachable (url reason : String)
  | uncaught (fault : SourceFault)
deriving DecidableEq, Repr

/-- The complaint about a session that could not be opened. -/
def OpenError.message : OpenError → String
  | .badUrl .unreadable => "Invalid database URL: " ++ UrlError.unreadable.message
  | .badUrl error => error.message
  | .unreachable url reason => "Cannot connect to " ++ url ++ ": " ++ reason
  | .uncaught fault => fault.message

/-- The argument that bounds the time of connecting, by dialect. -/
def timeoutArgument? : String → Option String
  | "postgresql" | "mysql" | "mariadb" => some "connect_timeout"
  | "sqlite" | "mssql" => some "timeout"
  | _ => none

namespace Session

/-- Lets go of what is held, the connection first. -/
def close (s : Session) : Session × List Event :=
  ({ s with engine := false, connection := false, inspector := false },
    (if s.connection then [.closeConnection] else []) ++ if s.engine then [.dispose] else [])

/-- The steps of opening in order: each is an event, changes what is held, and may fail. -/
def openSteps (source : Source) (url : Url) (timeout : Nat) :
    List (Event × (Session → Session) × Option SourceFault) := [
  (.create (url.render .shown) ((timeoutArgument? url.dialect).toList.map fun name => (name, timeout)),
    fun s => { s with engine := true }, source.createFault),
  (.connect, fun s => { s with connection := true }, source.connectFault),
  (.inspect, fun s => { s with inspector := true }, source.inspectFault)]

/-- Takes steps until one fails. -/
def take (s : Session) (done : List Event) :
    List (Event × (Session → Session) × Option SourceFault) →
      Session × List Event × Option SourceFault
  | [] => (s, done, none)
  | (event, change, none) :: rest => (change s).take (done ++ [event]) rest
  | (event, _, some fault) :: _ => (s, done ++ [event], some fault)

/-- Opens a session. A failure of the database layer or a missing driver closes it again; any other
failure leaves open what was opened. -/
def connect (s : Session) (source : Source) : Session × List Event × Except OpenError Unit :=
  match s.descriptor.toUrl with
  | .error error => (s, [], .error (.badUrl error))
  | .ok url =>
    match s.take [] (openSteps source url s.descriptor.timeout) with
    | (opened, events, none) => (opened, events, .ok ())
    | (left, events, some fault) =>
      if fault.kind.isDatabase || fault.kind = .missingDriver then
        let (closed, more) := left.close
        (closed, events ++ more, .error (.unreachable (url.render .hidden) fault.message))
      else (left, events, .error (.uncaught fault))

/-- A session for people. -/
def shown (s : Session) : Except UrlError String :=
  s.descriptor.shown.map fun d =>
    "<IntrospectionSession " ++ d ++ " " ++ (if s.connection then "open" else "closed") ++ ">"

/-- Reads through the inspector, which is there only while the session is open. -/
def inspect (s : Session) (reading : Answer α) : Answer α :=
  if s.inspector then reading else .error .closed

/-- The dialect of the source. -/
def dialect (s : Session) (source : Source) : Answer String :=
  if s.engine then .ok source.dialect else .error .closed

end Session

/-! ## Introspection -/

/-- Why no catalog could be read. -/
inductive IntrospectError where
  | opening (error : OpenError)
  | malformed (record : Document.Malformed)
  | unreadable (reason : String)
  | inconsistent (catalog : Inconsistent)
  | uncaught (error : ReadError)

/-- The complaint about a catalog that could not be read. -/
def IntrospectError.message : IntrospectError → String
  | .opening error => error.message
  | .malformed record => "Catalog metadata is malformed: " ++ record.message
  | .unreadable reason => "Failed to read catalog: " ++ reason
  | .inconsistent catalog => catalog.message
  | .uncaught error => error.message

/-- How a failed reading of the whole catalog is reported. -/
def IntrospectError.ofRead : ReadError → IntrospectError
  | .malformed record => .malformed record
  | .source fault =>
    if fault.kind.isDatabase then .unreadable fault.message else .uncaught (.source fault)
  | error => .uncaught error

/-- Reads the catalog of an open session. -/
def Session.read (s : Session) (source : Source) : Except IntrospectError Snapshot :=
  (s.inspect (readSnapshot source s.descriptor.schema)).mapError IntrospectError.ofRead

/-- The catalog of a source with what was done to read it. -/
structure Introspection where
  events : List Event
  notices : List Notice := []
  result : Except IntrospectError Snapshot

/-- Opens a session, reads the catalog, closes the session, then checks the catalog and selects its
tables. -/
def introspect (d : Descriptor) (source : Source) (o : Option Options) : Introspection :=
  match (Session.mk d false false false).connect source with
  | (_, events, .error error) => { events, result := .error (.opening error) }
  | (session, events, .ok ()) =>
    let found := session.read source
    let events := events ++ session.close.2
    match found with
    | .error error => { events, result := .error error }
    | .ok snapshot =>
      let prepared := snapshot.prepare o
      { events, notices := prepared.notes, result := prepared.outcome.mapError .inconsistent }

end SchemaScribe.Database
