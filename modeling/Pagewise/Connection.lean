import Pagewise.Cursor.Basic
import Pagewise.Query.Render
import Pagewise.Settings.Basic
import Pagewise.Text.Quoted

/-!
# Connections

A connection is an endpoint with defaults for its cursors. From a query it makes a cursor, which
carries the text that the query has now, its bind variables and its options completed by the
defaults. Handles of collections are made on first use and kept in a `Registry`.
-/

namespace Pagewise

/-- Where a database is, and how its cursors fetch. -/
structure Connection where
  /-- The URL that paths are appended to. -/
  endpoint : String
  defaults : CursorDefaults
deriving DecidableEq, Repr

namespace Connection

/-- The connection that settings describe. -/
def ofSettings (s : Settings) : Connection :=
  ⟨s.server.endpoint, s.cursor⟩

/-- A text without the slashes at its end. -/
def trimSlashes (url : String) : String :=
  String.ofList (url.toList.reverse.dropWhile (· == '/')).reverse

/-- A connection to a given endpoint, with the usual defaults. -/
def ofEndpoint (url : String) : Connection :=
  ⟨trimSlashes url, .standard⟩

/-- The URL of a path. -/
def url (c : Connection) (path : String) : String :=
  c.endpoint ++ path

/-- A cursor over the text of a query. -/
def cursor (c : Connection) (query : String) (binds : List (String × Json))
    (options : CursorOptions) : Cursor :=
  let fetching := options.completedBy c.defaults
  Statement.cursor ⟨c.endpoint, query, fetching.count, fetching.batchSize, binds⟩

/-- A description of the defaults for people. -/
def describeDefaults (d : CursorDefaults) : String :=
  Text.shownRecord "CursorDefaults" [
    ("count", if d.count then "true" else "false"),
    ("batch_size", Text.shownOption Nat.repr d.batchSize)]

/-- A description for people. -/
def describe (c : Connection) : String :=
  Text.shownRecord "Connection" [
    ("endpoint", Text.quoted c.endpoint),
    ("cursor_defaults", describeDefaults c.defaults)]

end Connection

/-- Renders a query and hands it to a cursor; a success freezes the text of the query. Nothing is
sent. -/
def Query.execute (c : Connection) (q : Query) : Except Error Cursor × Query :=
  match q.render with
  | (.ok text, q) => (.ok (c.cursor text q.binds q.options), q)
  | (.error e, q) => (.error (.build e), q)

/-! ## Collections -/

/-- A handle of a collection. Handles are told apart by the order in which they were made. -/
structure Collection where
  serial : Nat
  name : String
deriving DecidableEq, Repr

/-- A query over the rows of a collection. -/
def Collection.query (c : Collection) : Query :=
  .ofCollection c.name

/-- The handles that were made so far, in the order of their names. -/
structure Registry where
  handles : List (String × Collection)
deriving DecidableEq, Repr

namespace Registry

/-- The registry before the first look-up. -/
def empty : Registry := ⟨[]⟩

/-- The handle of a collection; it is made when there is none. -/
def lookup (name : String) (r : Registry) : Collection × Registry :=
  match Keyed.get? name r.handles with
  | some handle => (handle, r)
  | none =>
    let handle := ⟨r.handles.length, name⟩
    (handle, ⟨Keyed.insert name handle r.handles⟩)

/-- The names of the collections that have handles, in ascending order. -/
def known (r : Registry) : List String :=
  r.handles.map (·.1)

end Registry

end Pagewise
