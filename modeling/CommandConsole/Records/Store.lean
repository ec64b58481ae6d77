import CommandConsole.Records.Domain
import CommandConsole.Request

/-!
# Records in memory

A store keeps the records of every model by number. A number is given once for all models and is
never given again. `answer` is the backend: it searches, reads, creates, writes and deletes. A
request that fails leaves the store as it was; one that names a record that is not there fails
before the others are touched.
-/

set_option autoImplicit false

namespace CommandConsole.Records

/-- The records of one model by number. -/
abbrev Table := List (Nat × Json.Fields)

/-- All records, and the number given last. The number has no bound here. It stands for a signed
counter of 64 bits, which overflows when 2⁶³ records have been made. -/
structure Store where
  lastId : Nat
  models : List (String × Table)
deriving Repr

namespace Store

/-- No records. -/
def empty : Store := ⟨0, []⟩

/-- The records of a model. -/
def table (s : Store) (model : String) : Table := (Assoc.find? model s.models).getD []

/-- How many records a model has. -/
def count (s : Store) (model : String) : Nat := (s.table model).length

/-- The store with other records of a model. -/
def withTable (s : Store) (model : String) (t : Table) : Store :=
  { s with models := Assoc.insert model t s.models }

/-- A new record, and its number. A number among its values is not kept. -/
def insert (s : Store) (model : String) (values : Json.Fields) : Nat × Store :=
  let id := s.lastId + 1
  let t := Assoc.insert id (Assoc.erase "id" values) (s.table model)
  (id, { s.withTable model t with lastId := id })

/-- Values put on a record. Its number stays. -/
def update (values record : Json.Fields) : Json.Fields :=
  Assoc.union record (values.filter fun f => f.1 ≠ "id")

/-- A record as it is handed out: its number and the fields that are asked for, or all. -/
def project (fields : Option (List String)) (id : Nat) (record : Json.Fields) : Json :=
  match fields with
  | none => .obj (Assoc.union [("id", .ofNat id)] record)
  | some names =>
      .object (("id", .ofNat id) :: (names.filter (· ≠ "id")).map fun name =>
        (name, (Assoc.find? name record).getD (.bool false)))

/-- The numbers of the records that a request names: one number or a list of them. -/
def ids : Option Json → Except String (List Int)
  | some (.arr items) =>
      match items.mapM Json.int64? with
      | some ns => .ok ns
      | none => .error "expected a record id or a list of ids"
  | some v =>
      match v.int64? with
      | some n => .ok [n]
      | none => .error "expected a record id or a list of ids"
  | none => .error "expected a record id or a list of ids"

/-- The fields that a request asks for; without a list, all. -/
def fieldNames : Option Json → Except String (Option (List String))
  | none => .ok none
  | some .null => .ok none
  | some (.bool false) => .ok none
  | some (.arr items) =>
      match items.mapM Json.str? with
      | some names => .ok (some names)
      | none => .error "fields must be a list of names"
  | some _ => .error "fields must be a list of names"

/-- The record with a number, if there is one. -/
def record? (t : Table) (id : Int) : Option (Nat × Json.Fields) :=
  if 0 ≤ id then (Assoc.find? id.toNat t).map fun r => (id.toNat, r) else none

/-- The first of the numbers that no record has. -/
def firstMissing? (t : Table) (ids : List Int) : Option Int :=
  ids.find? fun id => (record? t id).isNone

/-- The complaint about a record that is not there. -/
def noRecord (model : String) (id : Int) : String := s!"Record {model}({id}) does not exist"

/-- What a request gets: an answer or a complaint. -/
abbrev Reply := Except String Json

/-- The records that meet a domain. -/
def search (s : Store) (r : Request) : Reply := do
  let domain := ((Assoc.find? "domain" r.named).or r.args.head?).getD (.arr [])
  let conditions ← Condition.ofJson domain
  let names ← fieldNames ((Assoc.find? "fields" r.named).or r.args[1]?)
  let found := (s.table r.model).filter fun e => conditions.all (·.meets e.1 e.2)
  .ok (.arr (found.map fun e => project names e.1 e.2))

/-- The records with the given numbers; a number without a record is passed over. -/
def read (s : Store) (r : Request) : Reply := do
  let ids ← ids r.args.head?
  let names ← fieldNames ((Assoc.find? "fields" r.named).or r.args[1]?)
  let found := ids.filterMap (record? (s.table r.model))
  .ok (.arr (found.map fun e => project names e.1 e.2))

/-- A new record. -/
def create (s : Store) (r : Request) : Except String (Json × Store) :=
  match r.args.head? with
  | some (Json.obj values) =>
      let (id, s) := s.insert r.model values
      .ok (.ofNat id, s)
  | _ => .error "create expects a values object"

/-- Values written to records. -/
def write (s : Store) (r : Request) : Except String (Json × Store) := do
  let ids ← ids r.args.head?
  match r.args[1]? with
  | some (Json.obj values) =>
      let t := s.table r.model
      match firstMissing? t ids with
      | some id => .error (noRecord r.model id)
      | none =>
          let t := t.map fun e => if ids.contains (e.1 : Int) then (e.1, update values e.2) else e
          .ok (.bool true, s.withTable r.model t)
  | _ => .error "write expects a values object"

/-- Records deleted. -/
def unlink (s : Store) (r : Request) : Except String (Json × Store) := do
  let ids ← ids r.args.head?
  let t := s.table r.model
  match firstMissing? t ids with
  | some id => .error (noRecord r.model id)
  | none => .ok (.bool true, s.withTable r.model (t.filter fun e => !ids.contains (e.1 : Int)))

/-- The answer to a request that only looks. -/
def looked (s : Store) (reply : Reply) : Reply × Store := (reply, s)

/-- The answer to a request that changes the store where it succeeds. -/
def changed (s : Store) : Except String (Json × Store) → Reply × Store
  | .ok (v, t) => (.ok v, t)
  | .error e => (.error e, s)

/-- **The answer to a request, and the store behind it.** -/
def answer (s : Store) (r : Request) : Reply × Store :=
  match r.method with
  | "search_read" => s.looked (s.search r)
  | "read" => s.looked (s.read r)
  | "create" => s.changed (s.create r)
  | "write" => s.changed (s.write r)
  | "unlink" => s.changed (s.unlink r)
  | other => s.looked (.error s!"method '{other}' is not supported on '{r.model}'")

end Store

end CommandConsole.Records
