import Mathlib.Algebra.Group.Nat.Defs
import Pagewise.Settings.Files

/-!
# Settings laid over the standard ones

The settings that a document describes are the standard ones, with those replaced that are written.
It makes no difference whether one field is left out, a section or everything: the defaults of single
fields and the standard sections say the same (`standard_of_no_fields`), although they are written
down apart.

* `Setting`: what can be set, with the values that it can have (`Setting.Accepts`).
* `written?`: the value that a document has for a setting.
* `Toml.Coded.field?`: what the reader of one field gives.
* `ofDocument?_eq_some`: which settings a document describes, if any.
* `Toml.Reordered.sameEntries`: documents with their entries in another order say the same.
* **`document_overlays`**: when a document describes settings, and which.
-/

namespace Pagewise

/-! ## What can be set -/

/-- A setting that a document can have a value for. -/
inductive Setting where
  | host
  | port
  | https
  | database
  | timeout
  | count
  | batchSize
deriving DecidableEq, Repr

namespace Setting

/-- The section of a setting. -/
def sectionName : Setting → String
  | .host | .port | .https | .database | .timeout => "connection"
  | .count | .batchSize => "cursor"

/-- The name of a setting in its section. -/
def key : Setting → String
  | .host => "host"
  | .port => "port"
  | .https => "https"
  | .database => "database"
  | .timeout => "timeout_secs"
  | .count => "count"
  | .batchSize => "batch_size"

/-- **The values that a setting can have**, of its type and in its range. -/
def Accepts : Setting → Toml → Prop
  | .host, v | .database, v => ∃ s, v = .string s
  | .https, v | .count, v => ∃ b, v = .boolean b
  | .port, v => ∃ n : Nat, n < 2 ^ 16 ∧ v = .integer (some n)
  | .timeout, v => ∃ n : Nat, n < 2 ^ 64 ∧ v = .integer (some n)
  | .batchSize, v => ∃ n : Nat, n < 2 ^ 32 ∧ v = .integer (some n)

end Setting

/-- The value of a setting, unless it has none. -/
def Settings.value? (s : Settings) : Setting → Option Toml
  | .host => some (.string s.server.host)
  | .port => some (.integer (some s.server.port))
  | .https => some (.boolean s.server.https)
  | .database => s.server.database.map .string
  | .timeout => some (.integer (some s.server.timeout))
  | .count => some (.boolean s.cursor.count)
  | .batchSize => s.cursor.batchSize.map fun n : Nat => .integer (some n)

namespace Toml

/-! ## What is written -/

/-- The fields of the section with a name; none if the section is missing. -/
def fieldsOf (name : String) (d : List (String × Toml)) : List (String × Toml) :=
  match Keyed.get? name d with
  | some (.table fields) => fields
  | _ => []

/-- The value that a document has for a setting. -/
def written? (d : List (String × Toml)) (x : Setting) : Option Toml :=
  Keyed.get? x.key (fieldsOf x.sectionName d)

/-- A document in which the sections that are there are tables. -/
def Sectioned (d : List (String × Toml)) : Prop :=
  ∀ name ∈ Settings.sectionNames, ∀ v, Keyed.get? name d = some v → ∃ fields, v = .table fields

/-- The entries of a document and of its sections that mean nothing here. -/
def unknown (d : List (String × Toml)) : List (String × Toml) :=
  d.filter (fun e => e.1 ∉ Settings.sectionNames)
    ++ (fieldsOf "connection" d).filter (fun e => e.1 ∉ Server.fieldNames)
    ++ (fieldsOf "cursor" d).filter (fun e => e.1 ∉ CursorDefaults.fieldNames)

/-- All entries that mean nothing can be passed over. -/
def Passable (d : List (String × Toml)) : Prop :=
  ∀ e ∈ unknown d, e.2.isReadable = true

variable {d d' fields : List (String × Toml)} {name : String} {v : Toml}

theorem areReadable_iff {items : List Toml} :
    areReadable items = true ↔ ∀ v ∈ items, v.isReadable = true := by
  induction items with
  | nil => simp [areReadable]
  | cons item rest ih => rw [areReadable, Bool.and_eq_true, ih, List.forall_mem_cons]

theorem entriesReadable_iff {entries : List (String × Toml)} :
    entriesReadable entries = true ↔ ∀ e ∈ entries, e.2.isReadable = true := by
  induction entries with
  | nil => simp [entriesReadable]
  | cons e rest ih => rw [entriesReadable, Bool.and_eq_true, ih, List.forall_mem_cons]

/-! ## Readers of fields -/

/-- **A reader of a field**: the values that it takes, and the value that each result stands for. -/
structure Coded {α : Type} (read : Toml → Option α) (write : α → Option Toml) (P : Toml → Prop) :
    Prop where
  read_eq_some : ∀ {v a}, read v = some a ↔ P v ∧ write a = some v
  exists_of : ∀ {v}, P v → ∃ a, write a = some v
  injective : ∀ {a b}, write a = write b → a = b

namespace Coded

variable {α : Type} {read : Toml → Option α} {write : α → Option Toml} {P : Toml → Prop}
  {default a : α}

/-- A field has the value that is written, if the reader takes it, or its default. -/
theorem field? (h : Coded read write P) : Toml.field? fields name default read = some a ↔
    (∀ v, Keyed.get? name fields = some v → P v) ∧
      write a = (Keyed.get? name fields).or (write default) := by
  unfold Toml.field?
  cases Keyed.get? name fields with
  | none =>
    constructor
    · rintro ⟨⟩
      exact ⟨nofun, rfl⟩
    · rintro ⟨-, heq⟩
      exact congrArg some (h.injective heq).symm
  | some v =>
    rw [h.read_eq_some]
    constructor
    · rintro ⟨hv, heq⟩
      exact ⟨by rintro _ ⟨⟩; exact hv, heq⟩
    · rintro ⟨hv, heq⟩
      exact ⟨hv v rfl, heq⟩

/-- A value that the reader takes, or the default, is the value of something. -/
theorem exists_or (h : Coded read write P) {o : Option Toml} (ho : ∀ v, o = some v → P v)
    (default : α) : ∃ a, write a = o.or (write default) := by
  cases o with
  | none => exact ⟨default, rfl⟩
  | some v => exact h.exists_of (ho v rfl)

/-- A field that may be left without a value has one where it is written. -/
theorem optional {write : α → Toml} (h : Coded read (fun a => some (write a)) P) :
    Coded (fun v => (read v).map some) (fun a => a.map write) P where
  read_eq_some := by
    intro v a
    cases a with
    | none => simp
    | some a =>
      rw [Option.map_some, ← h.read_eq_some, Option.map_eq_some_iff]
      simp
  exists_of hv := by
    obtain ⟨a, ha⟩ := h.exists_of hv
    exact ⟨some a, ha⟩
  injective := by
    intro a b hab
    cases a with
    | none =>
      cases b with
      | none => rfl
      | some b => cases hab
    | some a =>
      cases b with
      | none => cases hab
      | some b => rw [h.injective hab]

/-- A reader that takes the values of one kind, whatever they hold. -/
theorem of_kind {kind : α → Toml} (hkind : ∀ {a b}, kind a = kind b → a = b)
    (h : ∀ {v a}, read v = some a ↔ v = kind a) :
    Coded read (fun a => some (kind a)) fun v => ∃ a, v = kind a where
  read_eq_some := by
    intro v a
    rw [h]
    constructor
    · rintro rfl
      exact ⟨⟨a, rfl⟩, rfl⟩
    · rintro ⟨-, heq⟩
      exact (Option.some.inj heq).symm
  exists_of := by
    rintro v ⟨a, rfl⟩
    exact ⟨a, rfl⟩
  injective heq := hkind (Option.some.inj heq)

end Coded

theorem coded_string : Coded string? (fun s => some (.string s)) fun v => ∃ s, v = .string s := by
  refine .of_kind string.inj @fun v s => ?_
  cases v <;> simp [string?]

theorem coded_bool : Coded bool? (fun b => some (.boolean b)) fun v => ∃ b, v = .boolean b := by
  refine .of_kind boolean.inj @fun v b => ?_
  cases v <;> simp [bool?]

theorem natUpTo?_eq_some {bound n : Nat} :
    natUpTo? bound v = some n ↔ n ≤ bound ∧ v = .integer (some n) := by
  constructor
  · intro h
    unfold natUpTo? at h
    split at h
    case h_1 m =>
      split at h
      case isTrue hrange =>
        obtain rfl := Option.some.inj h
        have hcast : (m.toNat : Int) = m := Int.toNat_of_nonneg hrange.1
        exact ⟨by omega, by rw [hcast]⟩
      case isFalse => cases h
    case h_2 => cases h
  · rintro ⟨hbound, rfl⟩
    have hrange : (0 : Int) ≤ n ∧ (n : Int) ≤ bound := ⟨by omega, by omega⟩
    rw [natUpTo?, if_pos hrange]
    rfl

theorem coded_natUpTo (bits : Nat) :
    Coded (natUpTo? (maxUnsigned bits)) (fun n => some (.integer (some n)))
      fun v => ∃ n : Nat, n < 2 ^ bits ∧ v = .integer (some n) where
  read_eq_some := by
    intro v n
    have hbound : n ≤ maxUnsigned bits ↔ n < 2 ^ bits := Nat.le_pred_iff_lt (Nat.two_pow_pos bits)
    rw [natUpTo?_eq_some, hbound]
    constructor
    · rintro ⟨hn, rfl⟩
      exact ⟨⟨n, hn, rfl⟩, rfl⟩
    · rintro ⟨⟨m, hm, rfl⟩, heq⟩
      obtain rfl : n = m := Int.ofNat.inj (Option.some.inj (integer.inj (Option.some.inj heq)))
      exact ⟨hm, rfl⟩
  exists_of := by
    rintro v ⟨n, -, rfl⟩
    exact ⟨n, rfl⟩
  injective h := Int.ofNat.inj (Option.some.inj (integer.inj (Option.some.inj h)))

/-! ## Sections -/

/-- A table is a section when all that means nothing in it can be passed over. -/
theorem section?_table {names : List String} {entries : List (String × Toml)} :
    (Toml.table entries).section? names = some fields ↔
      (∀ e ∈ entries.filter (fun e => e.1 ∉ names), e.2.isReadable = true) ∧ fields = entries := by
  rw [section?, ← entriesReadable_iff]
  split
  case isTrue h =>
    rw [Option.some.injEq, eq_comm]
    exact (and_iff_right h).symm
  case isFalse h => exact ⟨nofun, fun hreadable => absurd hreadable.1 h⟩

/-- **The reader of a section.** It reads the fields that are there. Where the section is missing,
it gives the standard one, which is what no fields at all are read as. -/
theorem field?_section {α : Type} {names : List String}
    {ofFields? : List (String × Toml) → Option α} {standard a : α} (hstandard : ofFields? [] = some standard)
    (htable : ∀ v, Keyed.get? name d = some v → ∃ fields, v = .table fields) :
    Toml.field? d name standard (fun v => (v.section? names).bind ofFields?) = some a ↔
      (∀ e ∈ (fieldsOf name d).filter (fun e => e.1 ∉ names), e.2.isReadable = true) ∧
        ofFields? (fieldsOf name d) = some a := by
  unfold Toml.field? fieldsOf
  cases hget : Keyed.get? name d with
  | none => simp [hstandard]
  | some v =>
    obtain ⟨fields, rfl⟩ := htable v hget
    simp only [Option.bind_eq_some_iff, section?_table]
    constructor
    · rintro ⟨_, ⟨hreadable, rfl⟩, hfields⟩
      exact ⟨hreadable, hfields⟩
    · rintro ⟨hreadable, hfields⟩
      exact ⟨_, ⟨hreadable, rfl⟩, hfields⟩

/-- **What fields say of a setting.** A value that is written is one that the setting can have, and
the settings have it; else they have the standard one. -/
def Describes (fields : List (String × Toml)) (s : Settings) (x : Setting) : Prop :=
  (∀ v, Keyed.get? x.key fields = some v → x.Accepts v) ∧
    s.value? x = (Keyed.get? x.key fields).or (Settings.standard.value? x)

end Toml

open Toml

theorem Server.ofFields?_eq_some {fields : List (String × Toml)} {server : Server}
    {cursor : CursorDefaults} : Server.ofFields? fields = some server ↔
      ∀ x : Setting, x.sectionName = "connection" → Describes fields ⟨server, cursor⟩ x := by
  unfold Server.ofFields?
  simp only [bind, Option.bind_eq_some_iff]
  constructor
  · rintro ⟨host, hhost, port, hport, https, hhttps, database, hdatabase, timeout, htimeout, ⟨⟩⟩
    intro x hx
    cases x with
    | host => exact coded_string.field?.mp hhost
    | port => exact (coded_natUpTo 16).field?.mp hport
    | https => exact coded_bool.field?.mp hhttps
    | database => exact coded_string.optional.field?.mp hdatabase
    | timeout => exact (coded_natUpTo 64).field?.mp htimeout
    | count | batchSize => exact absurd hx (by decide)
  · intro h
    exact ⟨_, coded_string.field?.mpr (h .host rfl), _, (coded_natUpTo 16).field?.mpr (h .port rfl),
      _, coded_bool.field?.mpr (h .https rfl), _,
      coded_string.optional.field?.mpr (h .database rfl), _,
      (coded_natUpTo 64).field?.mpr (h .timeout rfl), rfl⟩

theorem CursorDefaults.ofFields?_eq_some {fields : List (String × Toml)} {server : Server}
    {cursor : CursorDefaults} : CursorDefaults.ofFields? fields = some cursor ↔
      ∀ x : Setting, x.sectionName = "cursor" → Describes fields ⟨server, cursor⟩ x := by
  unfold CursorDefaults.ofFields?
  simp only [bind, Option.bind_eq_some_iff]
  constructor
  · rintro ⟨count, hcount, batchSize, hbatchSize, ⟨⟩⟩ x hx
    cases x with
    | count => exact coded_bool.field?.mp hcount
    | batchSize => exact (coded_natUpTo 32).optional.field?.mp hbatchSize
    | host | port | https | database | timeout => exact absurd hx (by decide)
  · intro h
    exact ⟨_, coded_bool.field?.mpr (h .count rfl), _,
      (coded_natUpTo 32).optional.field?.mpr (h .batchSize rfl), rfl⟩

namespace Settings

variable {d d' : List (String × Toml)} {s : Settings}

/-- The defaults of the single fields make the standard sections. -/
theorem standard_of_no_fields :
    Server.ofFields? [] = some standard.server ∧
      CursorDefaults.ofFields? [] = some standard.cursor :=
  ⟨rfl, rfl⟩

/-- A document describes settings section by section. -/
theorem ofDocument?_sections (hd : Sectioned d) : ofDocument? d = some s ↔
    Passable d ∧ Server.ofFields? (fieldsOf "connection" d) = some s.server ∧
      CursorDefaults.ofFields? (fieldsOf "cursor" d) = some s.cursor := by
  have hserver := @field?_section d "connection" Server Server.fieldNames Server.ofFields?
    standard.server s.server standard_of_no_fields.1 (hd "connection" (by decide))
  have hcursor := @field?_section d "cursor" CursorDefaults CursorDefaults.fieldNames
    CursorDefaults.ofFields? standard.cursor s.cursor standard_of_no_fields.2
    (hd "cursor" (by decide))
  unfold ofDocument? Passable unknown
  simp only [bind, Option.bind_eq_some_iff, section?_table, List.forall_mem_append]
  constructor
  · rintro ⟨_, ⟨hothers, rfl⟩, server, hconnection, cursor, hdefaults, ⟨⟩⟩
    obtain ⟨hreadable, hfields⟩ := hserver.mp hconnection
    obtain ⟨hreadable', hfields'⟩ := hcursor.mp hdefaults
    exact ⟨⟨⟨hothers, hreadable⟩, hreadable'⟩, hfields, hfields'⟩
  · rintro ⟨⟨⟨hothers, hreadable⟩, hreadable'⟩, hfields, hfields'⟩
    exact ⟨_, ⟨hothers, rfl⟩, _, hserver.mpr ⟨hreadable, hfields⟩, _,
      hcursor.mpr ⟨hreadable', hfields'⟩, rfl⟩

/-- **Which settings a document describes**: those in which every setting has the value that is
written for it, or else the standard one. What is written has to be a value that the setting can
have, and what means nothing has to be readable. -/
theorem ofDocument?_eq_some (hd : Sectioned d) : ofDocument? d = some s ↔
    (∀ x v, written? d x = some v → x.Accepts v) ∧ Passable d ∧
      ∀ x, s.value? x = (written? d x).or (standard.value? x) := by
  rw [ofDocument?_sections hd, @Server.ofFields?_eq_some _ s.server s.cursor,
    @CursorDefaults.ofFields?_eq_some _ s.server s.cursor]
  constructor
  · rintro ⟨hpassable, hserver, hcursor⟩
    have hdescribes (x : Setting) : Describes (fieldsOf x.sectionName d) s x := by
      cases x with
      | count | batchSize => exact hcursor _ rfl
      | host | port | https | database | timeout => exact hserver _ rfl
    exact ⟨fun x => (hdescribes x).1, hpassable, fun x => (hdescribes x).2⟩
  · rintro ⟨haccepts, hpassable, hvalues⟩
    refine ⟨hpassable, fun x hx => ?_, fun x hx => ?_⟩
    · rw [← hx]
      exact ⟨haccepts x, hvalues x⟩
    · rw [← hx]
      exact ⟨haccepts x, hvalues x⟩

/-- There are settings with the values that are written, if each of them can be had. -/
theorem exists_overlay (h : ∀ x v, written? d x = some v → x.Accepts v) :
    ∃ s : Settings, ∀ x, s.value? x = (written? d x).or (standard.value? x) := by
  obtain ⟨host, hhost⟩ := coded_string.exists_or (h .host) Server.defaultHost
  obtain ⟨port, hport⟩ := (coded_natUpTo 16).exists_or (h .port) Server.defaultPort
  obtain ⟨https, hhttps⟩ := coded_bool.exists_or (h .https) false
  obtain ⟨database, hdatabase⟩ := coded_string.optional.exists_or (h .database) none
  obtain ⟨timeout, htimeout⟩ := (coded_natUpTo 64).exists_or (h .timeout) Server.defaultTimeout
  obtain ⟨count, hcount⟩ := coded_bool.exists_or (h .count) CursorDefaults.defaultCount
  obtain ⟨batchSize, hbatchSize⟩ := (coded_natUpTo 32).optional.exists_or (h .batchSize) none
  refine ⟨⟨⟨host, port, https, database, timeout⟩, ⟨count, batchSize⟩⟩, fun x => ?_⟩
  cases x with
  | host => exact hhost
  | port => exact hport
  | https => exact hhttps
  | database => exact hdatabase
  | timeout => exact htimeout
  | count => exact hcount
  | batchSize => exact hbatchSize

/-- Documents that write the same settings describe the same. -/
theorem ofDocument?_congr (hd : Sectioned d) (hd' : Sectioned d') (hpassable : Passable d)
    (hpassable' : Passable d') (h : ∀ x, written? d x = written? d' x) :
    ofDocument? d = ofDocument? d' := by
  refine Option.ext fun s => ?_
  rw [ofDocument?_eq_some hd, ofDocument?_eq_some hd']
  simp only [h, hpassable, hpassable']

end Settings

/-! ## Documents proper -/

namespace Toml

/-- **Values of documents proper**: integers have their digits and fit into 64 bits, and no double
is too great. -/
inductive Proper : Toml → Prop
  | string (s : String) : Proper (.string s)
  | integer {n : Int} (hlow : minSigned 64 ≤ n) (hhigh : n ≤ maxSigned 64) :
    Proper (.integer (some n))
  | float (x : Binary64) : Proper (.float (some x))
  | boolean (b : Bool) : Proper (.boolean b)
  | moment : Proper .moment
  | array {items : List Toml} (h : ∀ v ∈ items, Proper v) : Proper (.array items)
  | table {entries : List (String × Toml)} (h : ∀ e ∈ entries, Proper e.2) :
    Proper (.table entries)

variable {d d' : List (String × Toml)} {name : String} {v : Toml}

theorem Proper.isReadable (h : v.Proper) : v.isReadable = true := by
  induction h with
  | integer hlow hhigh =>
    have hbounds : minSigned 128 ≤ minSigned 64 ∧ maxSigned 64 ≤ maxUnsigned 128 := by decide
    rw [Toml.isReadable, Bool.and_eq_true, decide_eq_true_eq, decide_eq_true_eq]
    exact ⟨Int.le_trans hbounds.1 hlow, Int.le_trans hhigh hbounds.2⟩
  | array _ ih => exact areReadable_iff.mpr ih
  | table _ ih => exact entriesReadable_iff.mpr ih
  | _ => rfl

/-- What is in a section of a document proper is proper. -/
theorem proper_fieldsOf (hd : ∀ e ∈ d, e.2.Proper) : ∀ e ∈ fieldsOf name d, e.2.Proper := by
  unfold fieldsOf
  split
  case h_1 fields hget =>
    have htable : (Toml.table fields).Proper := hd _ (Keyed.mem_of_get? hget)
    cases htable with
    | table h => exact h
  case h_2 => nofun

/-- In a document proper all can be passed over that means nothing. -/
theorem passable_of_proper (hd : ∀ e ∈ d, e.2.Proper) : Passable d := by
  intro e he
  simp only [unknown, List.mem_append, List.mem_filter] at he
  obtain (⟨he, -⟩ | ⟨he, -⟩) | ⟨he, -⟩ := he
  · exact (hd e he).isReadable
  · exact (proper_fieldsOf hd e he).isReadable
  · exact (proper_fieldsOf hd e he).isReadable

/-- Every time that a document proper can name is in the range of the setting. -/
theorem accepts_timeout_iff (hd : ∀ e ∈ d, e.2.Proper) (hv : written? d .timeout = some v) :
    Setting.timeout.Accepts v ↔ ∃ n : Nat, v = .integer (some n) := by
  have hproper : v.Proper := proper_fieldsOf hd _ (Keyed.mem_of_get? hv)
  constructor
  · rintro ⟨n, -, rfl⟩
    exact ⟨n, rfl⟩
  · rintro ⟨n, rfl⟩
    cases hproper with
    | integer _ hhigh =>
      have hbound : maxSigned 64 < 2 ^ 64 := by decide
      exact ⟨n, by omega, rfl⟩

/-! ## The order of entries -/

/-- **Documents with their entries in another order.** -/
inductive Reordered : List (String × Toml) → List (String × Toml) → Prop
  /-- Sections and other entries change places. -/
  | entries {d d' : List (String × Toml)} (hkeys : (d.map (·.1)).Nodup) (hperm : d.Perm d') :
    Reordered d d'
  /-- The fields of one section change places. -/
  | fields (before after : List (String × Toml)) {name : String}
    (hname : name ∈ Settings.sectionNames) {fields fields' : List (String × Toml)}
    (hkeys : (fields.map (·.1)).Nodup) (hperm : fields.Perm fields') :
    Reordered (before ++ (name, .table fields) :: after) (before ++ (name, .table fields') :: after)
  | trans {d m d' : List (String × Toml)} (h : Reordered d m) (h' : Reordered m d') : Reordered d d'

/-- Documents that have the same entries, and their sections too. -/
structure SameEntries (d d' : List (String × Toml)) : Prop where
  sectioned : Sectioned d ↔ Sectioned d'
  others : (d.filter fun e => e.1 ∉ Settings.sectionNames).Perm
    (d'.filter fun e => e.1 ∉ Settings.sectionNames)
  fields : ∀ name, (fieldsOf name d).Perm (fieldsOf name d')
  get?_eq : ∀ name key, Keyed.get? key (fieldsOf name d) = Keyed.get? key (fieldsOf name d')

namespace SameEntries

theorem trans {m : List (String × Toml)} (h : SameEntries d m) (h' : SameEntries m d') :
    SameEntries d d' where
  sectioned := h.sectioned.trans h'.sectioned
  others := h.others.trans h'.others
  fields name := (h.fields name).trans (h'.fields name)
  get?_eq name key := (h.get?_eq name key).trans (h'.get?_eq name key)

theorem written?_eq (h : SameEntries d d') (x : Setting) : written? d x = written? d' x :=
  h.get?_eq x.sectionName x.key

theorem passable_iff (h : SameEntries d d') : Passable d ↔ Passable d' := by
  have hperm : (unknown d).Perm (unknown d') :=
    (h.others.append ((h.fields "connection").filter _)).append ((h.fields "cursor").filter _)
  exact forall_congr' fun e => imp_congr_left hperm.mem_iff

/-- They describe the same settings. -/
theorem ofDocument?_eq (h : SameEntries d d') (hd : Sectioned d) :
    Settings.ofDocument? d = Settings.ofDocument? d' := by
  refine Option.ext fun s => ?_
  rw [Settings.ofDocument?_eq_some hd, Settings.ofDocument?_eq_some (h.sectioned.mp hd)]
  simp only [h.written?_eq, h.passable_iff]

end SameEntries

theorem get?_replaced (before after : List (String × Toml)) (key name : String) (v v' : Toml) :
    Keyed.get? key (before ++ (name, v) :: after) = Keyed.get? key (before ++ (name, v') :: after) ∨
      Keyed.get? key (before ++ (name, v) :: after) = some v ∧
        Keyed.get? key (before ++ (name, v') :: after) = some v' := by
  induction before with
  | nil =>
    rw [List.nil_append, List.nil_append, Keyed.get?, Keyed.get?]
    split
    · exact .inr ⟨rfl, rfl⟩
    · exact .inl rfl
  | cons e rest ih =>
    rw [List.cons_append, List.cons_append, Keyed.get?, Keyed.get?]
    split
    · exact .inl rfl
    · exact ih

theorem Reordered.sameEntries (h : Reordered d d') : SameEntries d d' := by
  induction h with
  | @entries d d' hkeys hperm =>
    have hget (name : String) : Keyed.get? name d = Keyed.get? name d' :=
      Keyed.get?_perm hkeys hperm name
    have hfields (name : String) : fieldsOf name d = fieldsOf name d' := by
      rw [fieldsOf, fieldsOf, hget]
    refine ⟨by simp only [Sectioned, hget], hperm.filter _, fun name => ?_, fun name key => ?_⟩
    · rw [hfields]
    · rw [hfields]
  | @fields before after name hname fields fields' hkeys hperm =>
    have hreplaced := fun other =>
      get?_replaced before after other name (.table fields) (.table fields')
    refine ⟨?_, ?_, fun other => ?_, fun other key => ?_⟩
    · refine forall_congr' fun other => imp_congr_right fun _ => ?_
      obtain heq | ⟨heq, heq'⟩ := hreplaced other
      · rw [heq]
      · rw [heq, heq']
        simp
    · simp [List.filter_append, hname]
    · unfold fieldsOf
      obtain heq | ⟨heq, heq'⟩ := hreplaced other
      · rw [heq]
      · rw [heq, heq']
        exact hperm
    · unfold fieldsOf
      obtain heq | ⟨heq, heq'⟩ := hreplaced other
      · rw [heq]
      · rw [heq, heq']
        exact Keyed.get?_perm hkeys hperm key
  | trans _ _ ih ih' => exact ih.trans ih'

end Toml

namespace Settings

/-- **Settings are laid over the standard ones.** Take a document in which the sections that are
there are tables. It describes settings exactly when every value that is written for a setting has
the type of that setting and is in its range, and whatever means nothing here can be passed over.
Then it describes the settings in which every setting has the value that is written for it, and the
standard one where none is: be it that the field, its whole section or everything is left out.

In a document proper everything can be passed over, and every time that is not negative is in range.
Documents that write the same values describe the same settings, whatever else is in them, and so do
documents with their entries in another order. A text that stands for a document is parsed to the
settings that it describes; if it describes none, that is a parse error. -/
theorem document_overlays (d : List (String × Toml)) (hd : Sectioned d) :
    (∀ s, ofDocument? d = some s ↔
      (∀ x v, written? d x = some v → x.Accepts v) ∧ Passable d ∧
        ∀ x, s.value? x = (written? d x).or (standard.value? x)) ∧
      ((∃ s, ofDocument? d = some s) ↔
        (∀ x v, written? d x = some v → x.Accepts v) ∧ Passable d) ∧
      ((∀ e ∈ d, e.2.Proper) → Passable d ∧ ∀ v, written? d .timeout = some v →
        (Setting.timeout.Accepts v ↔ ∃ n : Nat, v = .integer (some n))) ∧
      (∀ d', Sectioned d' → Passable d → Passable d' → (∀ x, written? d x = written? d' x) →
        ofDocument? d = ofDocument? d') ∧
      (∀ d', Reordered d d' → ofDocument? d = ofDocument? d') ∧
      (Passable d → (∀ x, written? d x = none) → ofDocument? d = some standard) ∧
      ∀ text, Toml.ofText? text = some d →
        (∀ s, parse text = .ok s ↔ ofDocument? d = some s) ∧
          (ofDocument? d = none → parse text = .error .parse) := by
  refine ⟨fun s => ofDocument?_eq_some hd, ⟨fun ⟨s, hs⟩ => ?_, fun ⟨haccepts, hpassable⟩ => ?_⟩,
    fun hproper => ⟨passable_of_proper hproper, fun v hv => accepts_timeout_iff hproper hv⟩,
    fun d' hd' hpassable hpassable' hsame => ofDocument?_congr hd hd' hpassable hpassable' hsame,
    fun d' h => h.sameEntries.ofDocument?_eq hd, fun hpassable hnone => ?_, fun text htext => ?_⟩
  · obtain ⟨haccepts, hpassable, -⟩ := (ofDocument?_eq_some hd).mp hs
    exact ⟨haccepts, hpassable⟩
  · obtain ⟨s, hs⟩ := exists_overlay haccepts
    exact ⟨s, (ofDocument?_eq_some hd).mpr ⟨haccepts, hpassable, hs⟩⟩
  · refine (ofDocument?_eq_some hd).mpr ⟨fun x v hv => ?_, hpassable, fun x => ?_⟩
    · rw [hnone] at hv
      cases hv
    · rw [hnone, Option.none_or]
  · have hread : ofText? text = ofDocument? d := congrArg (Option.bind · ofDocument?) htext
    unfold parse
    rw [hread]
    cases ofDocument? d with
    | none => exact ⟨by simp, fun _ => rfl⟩
    | some s => exact ⟨by simp, nofun⟩

/-- A port, a size of batches and something that means nothing are written, and the section of the
cursors stands first. -/
theorem document_overlays_port :
    let d : List (String × Toml) :=
      [("cursor", .table [("batch_size", .integer (some 50))]),
        ("connection", .table [("port", .integer (some 1234)), ("colour", .string "red")])]
    Sectioned d ∧ ofDocument? d = some
      ⟨{ Server.standard with port := 1234 },
        { CursorDefaults.standard with batchSize := some 50 }⟩ := by
  intro d
  have hd : Sectioned d := by
    intro name hname v hv
    obtain rfl | rfl : name = "connection" ∨ name = "cursor" := by simpa [sectionNames] using hname
    · obtain rfl := Option.some.inj hv
      exact ⟨_, rfl⟩
    · obtain rfl := Option.some.inj hv
      exact ⟨_, rfl⟩
  have hproper : ∀ e ∈ d, e.2.Proper := by
    refine List.forall_mem_cons.mpr ⟨.table ?_, List.forall_mem_singleton.mpr (.table ?_)⟩
    · exact List.forall_mem_singleton.mpr (.integer (by decide) (by decide))
    · exact List.forall_mem_cons.mpr ⟨.integer (by decide) (by decide),
        List.forall_mem_singleton.mpr (.string "red")⟩
  obtain ⟨hdescribes, -, hpassable, -⟩ := document_overlays d hd
  refine ⟨hd, (hdescribes _).mpr ⟨fun x v hv => ?_, (hpassable hproper).1, fun x => ?_⟩⟩
  · cases x with
    | port =>
      obtain rfl := Option.some.inj hv
      exact ⟨1234, by decide, rfl⟩
    | batchSize =>
      obtain rfl := Option.some.inj hv
      exact ⟨50, by decide, rfl⟩
    | host | https | database | timeout | count => cases hv
  · cases x <;> rfl

end Settings

end Pagewise
