import SqlBroker.Decode.Basic

/-!
# Variants

A value of one of several named kinds. `choice` takes the bare name, or an object with the name as
its only key and null under it. `tagged` takes a record that names its kind under a key of its own,
wherever among the entries that key stands, or an array with the name in front.

Models the tags `op` and `type`, and the names of orders (SPEC_FULL.md, section 6).
-/

namespace SqlBroker.Decode

variable {α : Type}

/-! ## Names -/

/-- The variant of a name. -/
def variantOf (variants : List (String × α)) (name : String) : Except Fault α :=
  match variants.lookup name with
  | some a => .ok a
  | none => fail (.unknownVariant name (variants.map Prod.fst))

/-- The variant that a tag names. Inside a tagged value the position of a variant stands for it,
too. -/
def variantTag (variants : List (String × α)) : Decoder α
  | _, .string name => variantOf variants name
  | .held, .number (.integer n) =>
    if n < 0 then wrongType (.number (.integer n)) "variant identifier"
    else
      match variants[n.toNat]? with
      | some v => .ok v.2
      | none =>
        fail (.wrongValue (.number (.integer n)) s!"variant index 0 <= i < {variants.length}")
  | _, d => wrongType d "variant identifier"

/-! ## Bare variants -/

/-- The value under the name of a variant: null, or inside a tagged value also an empty object. -/
def bare : Source → Draft → Except Fault Unit
  | _, .null => .ok ()
  | .held, .object [] => .ok ()
  | _, d => wrongType d "unit"

/-- The fault of an object that has not exactly one key. -/
def notSingle : Except Fault α := fail (.wrongValue .map "map with a single key")

/-- A variant by its name, or by an object with the name as its only key. -/
def choice (variants : List (String × α)) : Decoder α
  | _, .string name => variantOf variants name
  | .text, .object ((k, d) :: rest) => do
    let a ← variantTag variants .text k
    bare .text d
    if rest = [] then return a else fail .malformed
  | .text, _ => fail .malformed
  | src, .object [(k, d)] => do
    let a ← variantTag variants .tree k
    bare src d
    return a
  | _, .object _ => notSingle
  | _, d => wrongType d "string or map"

/-! ## Tagged variants -/

/-- A part that is kept for later: it has to have a value, whether that is looked at or not. -/
def kept (d : Draft) : Except Fault Draft :=
  match d.json? with
  | some _ => .ok d
  | none => fail .malformed

/-- The variant that the entries of an object name under `tag`, and the other entries. -/
def splitTag (src : Source) (tag : String) (variants : List (String × α)) :
    List (Draft × Draft) → Option α → Except Fault (Option α × List (Draft × Draft))
  | [], found => .ok (found, [])
  | (k, d) :: rest, found => do
    let name ← key k
    if name = tag then
      if found.isSome then fail (.duplicateField tag)
      else do
        let a ← within (.key tag) (variantTag variants src d)
        splitTag src tag variants rest (some a)
    else do
      let d ← kept d
      let (found, others) ← splitTag src tag variants rest found
      return (found, (k, d) :: others)

/-- A value that names its kind under `tag`; it is called `title` in messages, and a fault inside it
is ascribed to the whole. -/
def tagged (title tag : String) (variants : List (String × Decoder α)) : Decoder α
  | src, .object es => do
    let (found, others) ← splitTag src tag variants es none
    match found with
    | some decode => (decode .held (.object others)).mapError Fault.asWhole
    | none => fail (.missingField tag)
  | _, .array [] => fail (.missingField tag)
  | src, .array (d :: rest) => do
    let decode ← within (.index 0) (variantTag variants src d)
    let others ← rest.mapM kept
    (decode .held (.array others)).mapError Fault.asWhole
  | _, d => wrongType d title

end SqlBroker.Decode
