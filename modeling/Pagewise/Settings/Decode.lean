import Pagewise.Settings.Basic
import Pagewise.Toml.Document

/-!
# Settings from TOML

A document has a section for the server and one for the cursors. A field that is not written has a
default of its own, a section that is not written is the standard one, and names that mean nothing
here are passed over. A value has to have exactly the type and range of its field. A section may also
be written as an array of its fields in their order.
-/

namespace Pagewise

namespace Toml

/-! ## Values of fields -/

/-- The value of a string. -/
def string? : Toml → Option String
  | .string s => some s
  | _ => none

/-- The value of a boolean. -/
def bool? : Toml → Option Bool
  | .boolean b => some b
  | _ => none

/-- A natural number up to a bound, itself included. -/
def natUpTo? (bound : Nat) : Toml → Option Nat
  | .integer (some n) => if 0 ≤ n ∧ n ≤ bound then some n.toNat else none
  | _ => none

mutual

/-- Whether a value can be passed over: integers have their digits and at most 128 bits, and doubles
are finite or infinite by name. -/
def isReadable : Toml → Bool
  | .integer (some n) => minSigned 128 ≤ n && n ≤ maxUnsigned 128
  | .integer none => false
  | .float x => x.isSome
  | .array items => areReadable items
  | .table entries => entriesReadable entries
  | .string _ | .boolean _ | .moment => true

/-- Whether all items of an array can be passed over. -/
def areReadable : List Toml → Bool
  | [] => true
  | item :: rest => item.isReadable && areReadable rest

/-- Whether all entries of a table can be passed over. -/
def entriesReadable : List (String × Toml) → Bool
  | [] => true
  | (_, value) :: rest => value.isReadable && entriesReadable rest

end

/-- The fields of a section, by name, when it has the form of a section. A date counts as a section
that says nothing. -/
def section? (names : List String) : Toml → Option (List (String × Toml))
  | .table entries =>
    if entriesReadable (entries.filter fun e => e.1 ∉ names) then some entries else none
  | .array items => some (names.zip items)
  | .moment => some []
  | _ => none

/-- The value of a field, or its default where it is not written. -/
def field? {α : Type} (fields : List (String × Toml)) (name : String) (default : α)
    (read : Toml → Option α) : Option α :=
  match Keyed.get? name fields with
  | none => some default
  | some value => read value

end Toml

namespace Server

/-- The fields of the section, in their order. -/
def fieldNames : List String := ["host", "port", "https", "database", "timeout_secs"]

/-- The server that fields describe. -/
def ofFields? (fields : List (String × Toml)) : Option Server := do
  let host ← Toml.field? fields "host" defaultHost Toml.string?
  let port ← Toml.field? fields "port" defaultPort (Toml.natUpTo? (maxUnsigned 16))
  let https ← Toml.field? fields "https" false Toml.bool?
  let database ← Toml.field? fields "database" none fun v => v.string?.map some
  let timeout ← Toml.field? fields "timeout_secs" defaultTimeout (Toml.natUpTo? (maxUnsigned 64))
  return ⟨host, port, https, database, timeout⟩

/-- The server that a section describes. -/
def ofToml? (value : Toml) : Option Server :=
  (value.section? fieldNames).bind ofFields?

end Server

namespace CursorDefaults

/-- The fields of the section, in their order. -/
def fieldNames : List String := ["count", "batch_size"]

/-- The defaults that fields describe. -/
def ofFields? (fields : List (String × Toml)) : Option CursorDefaults := do
  let count ← Toml.field? fields "count" defaultCount Toml.bool?
  let batchSize ← Toml.field? fields "batch_size" none fun v =>
    (v.natUpTo? (maxUnsigned 32)).map some
  return ⟨count, batchSize⟩

/-- The defaults that a section describes. -/
def ofToml? (value : Toml) : Option CursorDefaults :=
  (value.section? fieldNames).bind ofFields?

end CursorDefaults

namespace Settings

/-- The sections of a document. -/
def sectionNames : List String := ["connection", "cursor"]

/-- The settings that a document describes. -/
def ofDocument? (entries : List (String × Toml)) : Option Settings := do
  let fields ← (Toml.table entries).section? sectionNames
  let server ← Toml.field? fields "connection" standard.server Server.ofToml?
  let cursor ← Toml.field? fields "cursor" standard.cursor CursorDefaults.ofToml?
  return ⟨server, cursor⟩

/-- The settings that a text describes. -/
def ofText? (text : String) : Option Settings :=
  (Toml.ofText? text).bind ofDocument?

end Settings

end Pagewise
