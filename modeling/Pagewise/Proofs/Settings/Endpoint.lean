import Pagewise.Decimal
import Pagewise.Settings.Basic

/-!
# What an endpoint says of its server

An endpoint is a text put together of parts without a fixed width: the scheme, the host, the port in
decimal and the name of the database. The host may hold any characters, so the endpoint alone does
not say where it ends. But behind a host that is known every part ends where it can be seen: the
port is made of digits, and what follows it begins with a slash or is not there.

* `Server.front`, `Server.databasePart`: the texts on both sides of the port.
* `takeWhile_port`: the port goes up to the first slash behind the host.
* **`Server.endpoint_identifies`**: servers on one host with one endpoint are the same, up to the
  time that is allowed; and the URL of the server is its endpoint up to that slash.
-/

namespace Pagewise.Server

/-! ## The parts of an endpoint -/

/-- What stands in front of the port. -/
def front (s : Server) : String :=
  (if s.https then "https" else "http") ++ "://" ++ s.host ++ ":"

/-- What stands behind the port. -/
def databasePart (s : Server) : String :=
  match s.database with
  | none => ""
  | some name => "/_db/" ++ name

variable {s t : Server}

theorem baseUrl_eq (s : Server) : s.baseUrl = s.front ++ Nat.repr s.port :=
  rfl

theorem endpoint_eq (s : Server) : s.endpoint = s.baseUrl ++ s.databasePart := by
  unfold endpoint databasePart
  cases s.database with
  | none => exact String.append_empty.symm
  | some name => exact String.append_assoc

/-- Whether a server is asked over a secure connection shows in the fifth character. -/
theorem front_fifth (s : Server) (rest : String) :
    (s.front ++ rest).toList[4]? = some (if s.https then 's' else ':') := by
  unfold front
  cases s.https <;> simp

/-- A database part begins with a slash, if there is a database. -/
theorem databasePart_head {c : Char} (h : s.databasePart.toList.head? = some c) : c = '/' := by
  unfold databasePart at h
  cases hdatabase : s.database with
  | none => simp [hdatabase] at h
  | some name => simpa [hdatabase, eq_comm] using h

/-- No database and a database without a name differ. -/
theorem databasePart_injective (h : s.databasePart = t.databasePart) : s.database = t.database := by
  unfold databasePart at h
  cases hs : s.database with
  | none =>
    cases ht : t.database with
    | none => rfl
    | some name => simp [hs, ht] at h
  | some name =>
    cases ht : t.database with
    | none => simp [hs, ht] at h
    | some name' =>
      rw [hs, ht] at h
      rw [(String.append_right_inj "/_db/").mp h]

/-! ## The port -/

/-- The port goes up to the first slash behind the host. -/
theorem takeWhile_port (s : Server) :
    (Nat.repr s.port ++ s.databasePart).toList.takeWhile (· ≠ '/') = (Nat.repr s.port).toList := by
  have hport : ∀ c ∈ (Nat.repr s.port).toList, decide (c ≠ '/') = true := by
    intro c hc
    rw [Nat.toList_repr] at hc
    have hdigit := Nat.isDigit_of_mem_toDigits (by decide) (by decide) hc
    refine decide_eq_true ?_
    rintro rfl
    exact absurd hdigit (by decide)
  rw [String.toList_append, List.takeWhile_append_of_pos hport]
  cases hpart : s.databasePart.toList with
  | nil => exact List.append_nil _
  | cons c rest =>
    obtain rfl : c = '/' := databasePart_head (by rw [hpart]; rfl)
    exact List.append_nil _

/-- A port and what stands behind it are told apart. -/
theorem port_injective
    (h : Nat.repr s.port ++ s.databasePart = Nat.repr t.port ++ t.databasePart) :
    s.port = t.port ∧ s.database = t.database := by
  have hport : Nat.repr s.port = Nat.repr t.port := by
    rw [← String.toList_inj, ← takeWhile_port, h, takeWhile_port]
  rw [hport, String.append_right_inj] at h
  exact ⟨Decimal.repr_injective hport, databasePart_injective h⟩

/-! ## Endpoints -/

/-- **On one host, endpoints tell servers apart.** Two servers on one host, whatever its name is,
have the same endpoint exactly when scheme, port and database are the same; and no database is not
the same as one with an empty name. The URL of a server is its endpoint with the database part
removed: it is what the endpoint would be without a database, and in the endpoint it goes up to the
first slash behind the host. -/
theorem endpoint_identifies (s t : Server) (hhost : s.host = t.host) :
    (s.endpoint = t.endpoint ↔ s.https = t.https ∧ s.port = t.port ∧ s.database = t.database) ∧
      s.baseUrl = { s with database := none }.endpoint ∧
      s.endpoint = s.baseUrl ++ s.database.elim "" ("/_db/" ++ ·) ∧
      ∃ rest, s.endpoint.toList = s.front.toList ++ rest ∧
        s.baseUrl.toList = s.front.toList ++ rest.takeWhile (· ≠ '/') := by
  have hparts (s : Server) : s.endpoint = s.front ++ (Nat.repr s.port ++ s.databasePart) := by
    rw [endpoint_eq, baseUrl_eq, String.append_assoc]
  refine ⟨⟨fun h => ?_, fun ⟨hhttps, hport, hdatabase⟩ => ?_⟩, rfl, ?_,
    (Nat.repr s.port ++ s.databasePart).toList, ?_, ?_⟩
  · rw [hparts, hparts] at h
    have hhttps : s.https = t.https := by
      have hfifth := s.front_fifth (Nat.repr s.port ++ s.databasePart)
      rw [h, front_fifth] at hfifth
      cases hs : s.https <;> cases ht : t.https <;> simp_all
    have hfront : s.front = t.front := by
      unfold front
      rw [hhttps, hhost]
    rw [hfront, String.append_right_inj] at h
    exact ⟨hhttps, port_injective h⟩
  · obtain ⟨host, port, https, database, timeout⟩ := s
    subst hhost hhttps hport hdatabase
    rfl
  · rw [endpoint_eq, databasePart]
    cases s.database <;> rfl
  · rw [hparts, String.toList_append]
  · rw [takeWhile_port, baseUrl_eq, String.toList_append]

/-- Without a database, with one of an empty name, and with a port that goes on: three endpoints on
a host whose name looks like an endpoint itself. -/
theorem endpoint_identifies_unnamed :
    let s : Server := ⟨"db:1/_db/a", 8, false, none, 30⟩
    let t : Server := ⟨"db:1/_db/a", 8, false, some "", 30⟩
    let u : Server := ⟨"db:1/_db/a", 80, false, none, 30⟩
    s.host = t.host ∧ s.endpoint ≠ t.endpoint ∧ s.host = u.host ∧ s.endpoint ≠ u.endpoint ∧
      s.baseUrl = "http://db:1/_db/a:8" := by
  intro s t u
  obtain ⟨hdatabase, hbase, -⟩ := endpoint_identifies s t rfl
  obtain ⟨hport, -⟩ := endpoint_identifies s u rfl
  refine ⟨rfl, fun h => ?_, rfl, fun h => ?_, hbase.trans (by decide)⟩
  · exact absurd (hdatabase.mp h).2.2 (by decide)
  · exact absurd (hport.mp h).2.1 (by decide)

/-- The host has to be known: its name can take over what port and database would say. -/
example : (⟨"a:1/_db/b", 2, false, none, 30⟩ : Server).endpoint =
    (⟨"a", 1, false, some "b:2", 30⟩ : Server).endpoint := by
  decide

end Pagewise.Server
