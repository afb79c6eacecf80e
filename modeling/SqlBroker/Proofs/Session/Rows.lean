import Mathlib.Data.List.Forall2
import SqlBroker.Proofs.Row.Null
import SqlBroker.Proofs.Text.Hex
import SqlBroker.Session.Run

/-!
# Rows of an answer

The rows of a statement come back as they were sent: each as one object, in their order, with the
names of the columns for its keys. Whole numbers come back as numbers of the same value, whatever
their size, and bytes as digits that tell each of them.

Concerns `run` and the rows that it gives (SPEC_FULL.md, sections 4.5 and 14).

Headlines:
* **`ResultSet.keeps_rowOf`**: what the object of a row keeps of it.
* **`Session.perform_rows`**: the answer to a statement keeps each row, in order.
-/

namespace SqlBroker

/-! ## Cells -/

/-- The types of whole numbers. SQLite has no types of columns. -/
def integerTypes : Backend → List String
  | .postgres => ["INT2", "INT4", "INT8"]
  | .mysql =>
    ["TINYINT", "SMALLINT", "MEDIUMINT", "INT", "BIGINT"].flatMap fun type =>
      [type, type ++ " UNSIGNED"]
  | .sqlite => []

/-- The types of bytes. -/
def binaryTypes : Backend → List String
  | .postgres => ["BYTEA"]
  | .mysql => ["BINARY", "VARBINARY", "TINYBLOB", "BLOB", "MEDIUMBLOB", "LONGBLOB"]
  | .sqlite => []

theorem ofType_of_mem_integerTypes {b : Backend} :
    ∀ type ∈ integerTypes b, ColumnKind.ofType b type = .integer := by
  cases b <;> decide

theorem ofType_of_mem_binaryTypes {b : Backend} :
    ∀ type ∈ binaryTypes b, ColumnKind.ofType b type = .binary := by
  cases b <;> decide

namespace Cell

/-- The whole number of a cell in a column of whole numbers; in SQLite that is the cell's own
matter. -/
def integer? (b : Backend) (type : String) : Cell → Option Int
  | .int n => if b = .sqlite ∨ type ∈ integerTypes b then some n else none
  | _ => none

/-- The bytes of a cell in a column of bytes; in SQLite those of a blob. -/
def binary? (b : Backend) (type : String) : Cell → Option (List UInt8)
  | .blob bytes => if b = .sqlite ∨ type ∈ binaryTypes b then some bytes else none
  | .text bytes => if type ∈ binaryTypes b then some bytes else none
  | _ => none

variable {b : Backend} {type : String} {c : Cell}

/-- **A whole number is the number itself.** -/
theorem toJson_of_integer? {n : Int} (h : c.integer? b type = some n) :
    c.toJson b (.ofType b type) = .int n := by
  unfold integer? at h
  split at h
  next =>
    obtain ⟨types, same⟩ := Option.ite_none_right_eq_some.mp h
    obtain rfl := Option.some.inj same
    rcases types with rfl | mem
    · rfl
    · rw [ofType_of_mem_integerTypes type mem]
      rfl
  next => exact nomatch h

/-- **Bytes are their digits.** -/
theorem toJson_of_binary? {bytes : List UInt8} (h : c.binary? b type = some bytes) :
    c.toJson b (.ofType b type) = .string (Text.hexText bytes) := by
  unfold binary? at h
  split at h
  next =>
    obtain ⟨types, same⟩ := Option.ite_none_right_eq_some.mp h
    obtain rfl := Option.some.inj same
    rcases types with rfl | mem
    · rfl
    · rw [ofType_of_mem_binaryTypes type mem]
      rfl
  next =>
    obtain ⟨mem, same⟩ := Option.ite_none_right_eq_some.mp h
    obtain rfl := Option.some.inj same
    rw [ofType_of_mem_binaryTypes type mem]
    rfl
  next => exact nomatch h

end Cell

/-! ## Rows -/

namespace ResultSet

/-- A column with its cell, of which no later column has the name. -/
def IsLast (columns : List Column) (cells : List Cell) (column : Column) (cell : Cell) : Prop :=
  ∃ before after, columns.zip cells = before ++ (column, cell) :: after ∧
    ∀ later ∈ after, later.1.name ≠ column.name

/-- What an object keeps of a row. -/
structure Keeps (b : Backend) (columns : List Column) (cells : List Cell) (o : Keyed Json) :
    Prop where
  /-- Its keys are the names of the columns. -/
  mem_keys_iff (name : String) : name ∈ o.keys ↔ ∃ column ∈ columns, column.name = name
  /-- Of several columns with one name the last counts. -/
  get?_eq {column : Column} {cell : Cell} (h : IsLast columns cells column cell) :
    o.get? column.name = some (cell.toJson b (.ofType b column.type))
  integer {column : Column} {cell : Cell} (h : IsLast columns cells column cell) {n : Int}
    (hn : cell.integer? b column.type = some n) : o.get? column.name = some (.int n)
  binary {column : Column} {cell : Cell} (h : IsLast columns cells column cell)
    {bytes : List UInt8} (hb : cell.binary? b column.type = some bytes) :
    ∃ text, o.get? column.name = some (.string text) ∧ Text.WritesHex text bytes

/-- **The object of a row keeps it.** -/
theorem keeps_rowOf (b : Backend) {columns : List Column} {cells : List Cell}
    (full : cells.length = columns.length) : Keeps b columns cells (rowOf b columns cells) := by
  have value {column : Column} {cell : Cell} (h : IsLast columns cells column cell) :
      (rowOf b columns cells).get? column.name =
        some (cell.toJson b (.ofType b column.type)) := by
    obtain ⟨before, after, row, last⟩ := h
    exact get?_rowOf b row last
  refine ⟨fun name => ?_, value, fun h n hn => ?_, fun h bytes hb => ?_⟩
  · -- There is a cell for each column, so that no name is left out.
    have names : (columns.zip cells).map (fun e => e.1.name) = columns.map Column.name :=
      calc (columns.zip cells).map (fun e => e.1.name)
        _ = ((columns.zip cells).map Prod.fst).map Column.name := List.map_map.symm
        _ = columns.map Column.name := by rw [List.map_fst_zip (Nat.le_of_eq full.symm)]
    rw [rowOf, Keyed.mem_keys_ofList, List.map_map]
    change name ∈ (columns.zip cells).map (fun e => e.1.name) ↔ _
    rw [names, List.mem_map]
  · rw [value h, Cell.toJson_of_integer? hn]
  · rw [value h, Cell.toJson_of_binary? hb]
    exact ⟨_, rfl, Text.writesHex_hexText bytes⟩

end ResultSet

/-! ## Answers -/

namespace Session

open ResultSet

/-- **The answer to a statement keeps each row, in order.** -/
theorem perform_rows {b : Backend} {server : Server} {s : Sql.Statement} {params : List Param}
    {r : ResultSet} (returns : s.returnsRows)
    (sent : Param.ofValues b 1 (s.script b).params = .ok params)
    (answered : server.run (s.script b).text params = .answer r)
    (full : ∀ cells ∈ r.rows, cells.length = r.columns.length) :
    ∃ objects, (perform b server (.statement s)).value.map Result.toJson =
        .answer (.array (objects.map .ofKeyed)) ∧
      List.Forall₂ (Keeps b r.columns) r.rows objects := by
  refine ⟨r.objects b, ?_, ?_⟩
  · simp only [perform, runStatement, sent, answered]
    rw [Reply.map, Reply.map, resultOf, if_pos returns]
    rfl
  · refine List.forall₂_map_right_iff.mpr (List.forall₂_same.mpr fun cells mem => ?_)
    exact keeps_rowOf b (full cells mem)

/-- A number without a sign under the name of another column, and bytes. -/
def hashes : ResultSet where
  columns := [⟨"n", "TINYINT"⟩, ⟨"hash", "VARBINARY"⟩, ⟨"n", "BIGINT UNSIGNED"⟩]
  rows := [[.int (-128), .blob [0, 127, 255], .int 18446744073709551615],
    [.null, .blob [], .int 9223372036854775808]]

/-- A database that has one answer for every statement. -/
def answering (r : ResultSet) : Server where
  connect _ := .answer ()
  run _ _ := .answer r
  tables := .silence
  columns _ _ := .silence
  close := .answer ()

/-- The largest numbers of 64 bits come back, and each byte. -/
theorem perform_rows_hashes :
    ∃ o o' : Keyed Json,
      (perform .mysql (answering hashes) (.statement (.select "t" .always [] none))).value.map
          Result.toJson = .answer (.array [.ofKeyed o, .ofKeyed o']) ∧
      (o.get? "n" = some (.int 18446744073709551615) ∧
        o'.get? "n" = some (.int 9223372036854775808)) ∧
      ∃ text, o.get? "hash" = some (.string text) ∧ Text.WritesHex text [0, 127, 255] := by
  obtain ⟨objects, answer, kept⟩ := @perform_rows .mysql (answering hashes)
    (.select "t" .always [] none) [] hashes rfl rfl rfl (by decide)
  obtain ⟨o, rest, first, later, rfl⟩ := List.forall₂_cons_left_iff.mp kept
  obtain ⟨o', none, second, done, rfl⟩ := List.forall₂_cons_left_iff.mp later
  obtain rfl := List.forall₂_nil_left_iff.mp done
  have number (c d e : Cell) :
      IsLast hashes.columns [c, d, e] ⟨"n", "BIGINT UNSIGNED"⟩ e :=
    ⟨[(⟨"n", "TINYINT"⟩, c), (⟨"hash", "VARBINARY"⟩, d)], [], rfl, List.forall_mem_nil _⟩
  have bytes (c d e : Cell) : IsLast hashes.columns [c, d, e] ⟨"hash", "VARBINARY"⟩ d :=
    ⟨[(⟨"n", "TINYINT"⟩, c)], [(⟨"n", "BIGINT UNSIGNED"⟩, e)], rfl, by simp⟩
  refine ⟨o, o', answer, ⟨?_, ?_⟩, ?_⟩
  · exact first.integer (number _ _ _) (by decide)
  · exact second.integer (number _ _ _) (by decide)
  · exact first.binary (bytes _ _ _) (by decide)

end Session

end SqlBroker
