import Pagewise.Options
import Pagewise.Json.Printer

/-!
# Settings of a client

Where the server is and how cursors fetch, with a value for everything that is left out. The
endpoint is the URL that every request path is appended to; it tells scheme, port and database
apart.
-/

namespace Pagewise

/-- Where a server is. -/
structure Server where
  host : String
  port : Nat
  https : Bool
  /-- The database on the server, unless it is the default one. -/
  database : Option String
  /-- Seconds until a request is given up. -/
  timeout : Nat
deriving DecidableEq, Repr

/-- The settings of a client. -/
structure Settings where
  server : Server
  cursor : CursorDefaults
deriving DecidableEq, Repr

namespace Server

/-- The host when none is named. -/
def defaultHost : String := "localhost"

/-- The port when none is named. -/
def defaultPort : Nat := 8529

/-- The seconds until a request is given up when nothing is said of them. -/
def defaultTimeout : Nat := 30

/-- The server on this machine. -/
def standard : Server := ⟨defaultHost, defaultPort, false, none, defaultTimeout⟩

/-- The URL of the server. -/
def baseUrl (s : Server) : String :=
  (if s.https then "https" else "http") ++ "://" ++ s.host ++ ":" ++ Nat.repr s.port

/-- The URL of the database. -/
def endpoint (s : Server) : String :=
  match s.database with
  | none => s.baseUrl
  | some name => s.baseUrl ++ "/_db/" ++ name

end Server

/-- Whether cursors count their rows when nothing is said of that. -/
def CursorDefaults.defaultCount : Bool := true

/-- Cursors count their rows, and the server chooses the size of a batch. -/
def CursorDefaults.standard : CursorDefaults := ⟨true, none⟩

namespace Settings

/-- The settings when nothing is written. -/
def standard : Settings := ⟨.standard, .standard⟩

/-- A number that may be missing, as a JSON value. -/
def numberOrNull : Option Nat → Json
  | none => .null
  | some n => .number (.int n)

/-- All settings, section by section, each in the order of its fields. -/
def toJson (s : Settings) : Json :=
  .object [
    ("connection", .object [
      ("host", .string s.server.host),
      ("port", .number (.int s.server.port)),
      ("https", .bool s.server.https),
      ("database", match s.server.database with
        | none => .null
        | some name => .string name),
      ("timeout_secs", .number (.int s.server.timeout))]),
    ("cursor", .object [
      ("count", .bool s.cursor.count),
      ("batch_size", numberOrNull s.cursor.batchSize)])]

end Settings

end Pagewise
