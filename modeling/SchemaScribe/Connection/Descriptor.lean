import SchemaScribe.Connection.Url
import SchemaScribe.Document.Form

/-!
# Connection descriptors

Where a schema is read from: a locator given as it is, or its parts. A locator wins over the parts. At
least one of the locator and the database name is there.
-/

namespace SchemaScribe.Connection

open SchemaScribe.Document

/-- The database engines with a dialect of their own. -/
inductive Engine where
  | postgresql
  | mysql
  | mariadb
  | sqlite
  | mssql
  | oracle
deriving DecidableEq, Repr

/-- All engines. -/
def Engine.all : List Engine := [.postgresql, .mysql, .mariadb, .sqlite, .mssql, .oracle]

/-- The dialect name of an engine. -/
def Engine.name : Engine → String
  | .postgresql => "postgresql"
  | .mysql => "mysql"
  | .mariadb => "mariadb"
  | .sqlite => "sqlite"
  | .mssql => "mssql"
  | .oracle => "oracle"

/-- The names of the engines with the engines. -/
def Engine.choices : List (String × Engine) := Engine.all.map fun e => (e.name, e)

/-- Where to read a schema from. -/
structure Descriptor where
  engine : Engine := .postgresql
  driver : Option String := none
  host : Option String := none
  port : Option Nat := none
  user : Option String := none
  password : Option String := none
  database : Option String := none
  schema : Option String := none
  url : Option String := none
  timeout : Nat := 10
  has_target : url.isSome ∨ database.isSome
deriving DecidableEq

namespace Descriptor

/-- The kind of record that messages name. -/
def title : String := "ConnectionDescriptor"

/-- The fields of a descriptor as configurations name them. -/
def fields : List String := [
  "engine", "driver", "host", "port", "username", "password", "database", "schema_name", "url",
  "connect_timeout"]

/-- What a descriptor without a target is told. -/
def noTarget : String := "Either 'url' or 'database' must be provided."

/-- A descriptor from its parts, if they name a target. -/
def make (engine : Engine) (driver host : Option String) (port : Option Nat)
    (user password database schema url : Option String) (timeout : Nat) : Checked Descriptor :=
  if h : url.isSome ∨ database.isSome then
    .ok { engine, driver, host, port, user, password, database, schema, url, timeout,
          has_target := h }
  else .fail (.rejected noTarget)

/-- Reads a descriptor. -/
def reader : Reader Descriptor := fun value =>
  (Read.record fields (fun r =>
    (fun engine driver host port user password database schema url timeout =>
      make engine driver host port user password database schema url timeout) <$>
      Read.fieldOr "engine" .postgresql (Read.choice Engine.choices) r <*>
      Read.fieldOr "driver" none (Read.optional Read.text) r <*>
      Read.fieldOr "host" none (Read.optional Read.text) r <*>
      Read.fieldOr "port" none (Read.optional (Read.boundedInteger 1 (some 65535))) r <*>
      Read.fieldOr "username" none (Read.optional Read.text) r <*>
      Read.fieldOr "password" none (Read.optional Read.text) r <*>
      Read.fieldOr "database" none (Read.optional Read.text) r <*>
      Read.fieldOr "schema_name" none (Read.optional Read.text) r <*>
      Read.fieldOr "url" none (Read.optional Read.text) r <*>
      Read.fieldOr "connect_timeout" 10 (Read.boundedInteger 1 (some 600)) r) value).andThen id

/-- The locator of a descriptor. -/
def toUrl (d : Descriptor) : Except UrlError Url :=
  match d.url with
  | some text => Url.read text
  | none =>
    let driver := match d.driver with
      | some name => if name.isEmpty then d.engine.name else d.engine.name ++ "+" ++ name
      | none => d.engine.name
    .ok { driver, user := d.user, password := d.password, host := d.host,
          port := d.port.map Int.ofNat, database := d.database, query := [] }

/-- The dialect that the locator selects. -/
def dialect (d : Descriptor) : Except UrlError String := d.toUrl.map Url.dialect

/-- A descriptor for people: its locator with the password hidden. -/
def shown (d : Descriptor) : Except UrlError String :=
  d.toUrl.map fun url => "<ConnectionDescriptor " ++ url.render .hidden ++ ">"

/-- A descriptor as a value, under the names by which it is read. -/
def toValue (d : Descriptor) : Value := .record [
  ("engine", .text d.engine.name), ("driver", .textOrNull d.driver), ("host", .textOrNull d.host),
  ("port", .intOrNull (d.port.map Int.ofNat)), ("username", .textOrNull d.user),
  ("password", .textOrNull d.password), ("database", .textOrNull d.database),
  ("schema_name", .textOrNull d.schema), ("url", .textOrNull d.url),
  ("connect_timeout", .int d.timeout)]

/-- The fields that are set, in order. -/
def settings (d : Descriptor) : List (String × Scalar) :=
  let optional := fun (name : String) (part : Option String) =>
    part.toList.map fun s => (name, Scalar.text s)
  [("engine", .text d.engine.name)] ++ optional "driver" d.driver ++ optional "host" d.host ++
    d.port.toList.map (fun n => ("port", .int n)) ++ optional "username" d.user ++
    optional "password" d.password ++ optional "database" d.database ++
    optional "schema_name" d.schema ++ optional "url" d.url ++
    [("connect_timeout", .int d.timeout)]

end Descriptor

end SchemaScribe.Connection
