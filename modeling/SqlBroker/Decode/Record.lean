import SqlBroker.Decode.Basic

/-!
# Records

A record is written as an object of its fields in any order, or as an array of their values in the
order of their declaration. Keys that are no field are passed over, and nothing is asked of their
values. Entries are taken in the order of the text: a field met twice is refused before its second
value is looked at, and the fields that are missing are looked for once all entries are through.

Models the records of a request and their fields (SPEC_FULL.md, section 6).
-/

namespace SqlBroker.Decode

/-- A field of a record. -/
structure Field (α : Type) where
  name : String
  decode : Decoder α
  /-- What a missing field stands for, if it may be missing. -/
  absent : Option α

/-- A field that has to be there. -/
def needed {α : Type} (name : String) (d : Decoder α) : Field α := ⟨name, d, none⟩

/-- A field that may be missing and then has a value of its own. -/
def defaulted {α : Type} (name : String) (d : Decoder α) (absent : α) : Field α :=
  ⟨name, d, some absent⟩

/-- A field that may be missing or null. -/
def possible {α : Type} (name : String) (d : Decoder α) : Field (Option α) :=
  defaulted name (optional d) none

/-- The fields of a record, by the types of their values. -/
inductive Fields : List Type → Type 1 where
  | nil : Fields []
  | cons {α : Type} {αs : List Type} (field : Field α) (rest : Fields αs) : Fields (α :: αs)

/-- A value for each field. -/
def Values : List Type → Type
  | [] => Unit
  | α :: αs => α × Values αs

/-- The fields met so far. -/
def Slots : List Type → Type
  | [] => Unit
  | α :: αs => Option α × Slots αs

namespace Fields

/-- How many fields there are. -/
def count : {αs : List Type} → Fields αs → Nat
  | _, .nil => 0
  | _, .cons _ rest => rest.count + 1

/-- No field met. -/
def unmet : {αs : List Type} → Fields αs → Slots αs
  | _, .nil => ()
  | _, .cons _ rest => (none, rest.unmet)

/-- Takes one entry. -/
def take (src : Source) (k : String) (d : Draft) :
    {αs : List Type} → Fields αs → Slots αs → Except Fault (Slots αs)
  | _, .nil, slots => if d.isPassable then .ok slots else fail .malformed
  | _, .cons field rest, (slot, slots) =>
    if field.name = k then
      if slot.isSome then fail (.duplicateField k)
      else do
        let a ← within (.key k) (field.decode src d)
        return (some a, slots)
    else do
      let slots ← rest.take src k d slots
      return (slot, slots)

/-- Takes entries in their order. -/
def fill (src : Source) {αs : List Type} (fields : Fields αs) :
    List (Draft × Draft) → Slots αs → Except Fault (Slots αs)
  | [], slots => .ok slots
  | (k, d) :: rest, slots => do
    let k ← key k
    let slots ← fields.take src k d slots
    fields.fill src rest slots

/-- The values once all entries are through; the first field that is missing is at fault. -/
def finish : {αs : List Type} → Fields αs → Slots αs → Except Fault (Values αs)
  | _, .nil, _ => .ok ()
  | _, .cons field rest, (slot, slots) => do
    let a ←
      match slot, field.absent with
      | some a, _ => pure a
      | none, some a => pure a
      | none, none => fail (.missingField field.name)
    let values ← rest.finish slots
    return (a, values)

/-- The values of an array from position `i` on, and what is left of it; `expected` words the fault
of an array that is too short. -/
def positional (src : Source) (expected : String) :
    {αs : List Type} → Fields αs → Nat → List Draft → Except Fault (Values αs × List Draft)
  | _, .nil, _, ds => .ok ((), ds)
  | _, .cons field rest, i, d :: ds => do
    let a ← within (.index i) (field.decode src d)
    let (values, ds) ← rest.positional src expected (i + 1) ds
    return ((a, values), ds)
  | _, .cons field rest, i, [] => do
    let a ←
      match field.absent with
      | some a => pure a
      | none => fail (.wrongLength i expected)
    let (values, ds) ← rest.positional src expected i []
    return ((a, values), ds)

end Fields

/-- A number of elements in a message. -/
def elementCount (n : Nat) : String := if n = 1 then "1 element" else s!"{n} elements"

/-- The fault of an array with values left over. -/
def surplus {α : Type} (src : Source) (fields length : Nat) : Except Fault α :=
  match src with
  | .text => fail .malformed
  | .tree => fail (.wrongLength length "fewer elements in array")
  | .held => fail (.wrongLength length s!"{elementCount fields} in sequence")

/-- A record called `title` in messages. -/
def record {αs : List Type} {β : Type} (title : String) (fields : Fields αs)
    (make : Values αs → β) : Decoder β
  | src, .object es => do
    let slots ← fields.fill src es fields.unmet
    make <$> fields.finish slots
  | src, .array ds => do
    let expected := s!"{title} with {elementCount fields.count}"
    let (values, rest) ← fields.positional src expected 0 ds
    if rest = [] then return make values else surplus src fields.count ds.length
  | _, d => wrongType d title

end SqlBroker.Decode
