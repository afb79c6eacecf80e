import SqlBroker.Request.Basic

/-!
# Tables of a request

What a request tells about the table that it works on: its name and the columns that are mentioned.
Nothing is asked of the database. Columns are known by exactly these names, which stand in order, so
that one is looked up by halves.

Models `infer`, and `column` of `InferredTable` (SPEC_FULL.md, section 4.2).
-/

namespace SqlBroker

/-- A table by its name and the columns that a request mentions. -/
structure Table where
  name : String
  columns : List String
deriving DecidableEq, Repr

namespace Table

/-- Names in ascending order, each once. -/
def sortedNames (names : List String) : List String :=
  (Keyed.ofList (names.map fun name => (name, ()))).keys

/-- The one of ascending names at which the search for a name ends. While there are several, those
from the middle on are set aside if the middle is past the name, and else those before it; of an odd
number the middle itself stays. -/
@[semireducible]
def nearest? (name : String) (names : List String) : Option String :=
  if _several : 1 < names.length then
    let half := names.length / 2
    if name < names[half] then nearest? name (names.take (names.length - half))
    else nearest? name (names.drop half)
  else names.head?
termination_by names.length
decreasing_by
  · rw [List.length_take]
    omega
  · rw [List.length_drop]
    omega

/-- The column of a name. -/
def column (t : Table) (name : String) : Except Error String :=
  if nearest? name t.columns = some name then .ok name else .error (.unknownField name)

/-- The columns that an operation mentions: the fields of its filter, the fields that it writes and
the fields that it sorts by. -/
def mentioned (op : Operation) : List String :=
  (op.filters?.elim [] fun clause => clause.fields.keys) ++
    (op.writes?.elim [] Keyed.keys) ++
    op.sortItems.map SortItem.field

/-- The table that an operation works on. -/
def ofOperation (op : Operation) : Table :=
  ⟨op.resource?.getD "", sortedNames (mentioned op)⟩

end Table

end SqlBroker
