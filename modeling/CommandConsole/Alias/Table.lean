import CommandConsole.Assoc

/-!
# The alias table

Aliases in memory: each has a name of its own and a number that no other alias gets. A change is
made by `apply`, which fails and changes nothing when a new name is taken or the alias is not
there.
-/

set_option autoImplicit false

namespace CommandConsole.Alias

/-- An alias: its number, its name and the template it stands for. -/
structure Record where
  id : Int
  name : String
  command : String
deriving DecidableEq, Repr

/-- A change of one alias. -/
inductive Change where
  | create (name command : String)
  | update (id : Int) (command : String)
  | delete (id : Int)
deriving DecidableEq, Repr

/-- The aliases by name, and the number given last. The number has no bound here. It stands for a
signed counter of 64 bits, which overflows when 2⁶³ aliases have been made. -/
structure Table where
  lastId : Int
  byName : List (String × Record)
deriving DecidableEq, Repr

namespace Table

/-- No aliases. -/
def empty : Table := ⟨0, []⟩

/-- The alias with a name. -/
def find? (t : Table) (name : String) : Option Record := Assoc.find? name t.byName

/-- The templates by name. -/
def commands (t : Table) : List (String × String) := t.byName.map fun e => (e.1, e.2.command)

/-- Whether an alias has a number. -/
def has (t : Table) (id : Int) : Bool := t.byName.any fun e => e.2.id == id

/-- A new alias, and its number. -/
def add (t : Table) (name command : String) : Table :=
  let id := t.lastId + 1
  ⟨id, Assoc.insert name ⟨id, name, command⟩ t.byName⟩

/-- The complaint about an alias that is not there. -/
def noAlias (id : Int) : String := s!"alias #{id} does not exist"

/-- **The table behind a change, and the number of the alias changed.** -/
def apply (t : Table) : Change → Except String (Int × Table)
  | .create name command =>
      if (t.find? name).isSome then .error s!"alias '{name}' already exists"
      else .ok (t.lastId + 1, t.add name command)
  | .update id command =>
      if t.has id then
        .ok (id, { t with byName := t.byName.map fun e =>
          if e.2.id = id then (e.1, { e.2 with command := command }) else e })
      else .error (noAlias id)
  | .delete id =>
      if t.has id then .ok (id, { t with byName := t.byName.filter fun e => e.2.id ≠ id })
      else .error (noAlias id)

/-- The table of templates by name, numbered in order. -/
def ofCommands (commands : List (String × String)) : Table :=
  commands.foldl (fun t e => t.add e.1 e.2) empty

end Table

end CommandConsole.Alias
