import Mathlib.Algebra.Group.Int.Defs
import Mathlib.Data.List.Basic
import Mathlib.Logic.Function.Basic

/-!
# Data definition

A database as the statements of data definition see it: a `Catalogue` of tables with their columns,
constraints and indexes, and a `Content`, the rows of each table. The names are of an arbitrary
type. A row gives a value to every name; the columns that its table does not have are null.

What the rows of a single table must satisfy are its `rules`. A rule either `admits` one more row
or not, and it holds in a table if each of the rows is admitted by those after it
(`Rule.holdsIn`); so the insertion of an admitted row keeps the rules by definition.

A statement (`Op`) changes both parts. Whether the database permits it is a matter of the catalogue
(`Op.permitted`) and of the rows that are there (`Op.accepts`), and neither part depends on what
the statement does to the other. So **a script runs through exactly if the catalogue permits its
statements and the rows accept them** (`run_eq_some_iff`), which separates what can be computed
once and for all from what depends on the rows. `select_storeAll` says which cells survive a script.
-/

namespace ZanovixCrm.Ddl

variable {ν : Type}

/-! ### Values -/

/-- A cell. -/
inductive Value where
  | null
  | uuid (k : ℕ)
  | text (s : String)
  | int (n : ℤ)
  | bool (b : Bool)
  | time (t : ℤ)
  | date (d : ℤ)
  | json (s : String)
deriving DecidableEq

/-- The type of a column. -/
inductive ColumnType where
  | uuid
  | varchar (n : ℕ)
  | text
  | integer
  | bigint
  | boolean
  | timestamptz
  | date
  | jsonb
deriving DecidableEq

/-- The values of a type. `NULL` is one of each. -/
def ColumnType.admits : ColumnType → Value → Bool
  | _, .null => true
  | .uuid, .uuid _ => true
  | .varchar n, .text s => decide (s.length ≤ n)
  | .text, .text _ => true
  | .integer, .int n => decide (-2 ^ 31 ≤ n ∧ n < 2 ^ 31)
  | .bigint, .int n => decide (-2 ^ 63 ≤ n ∧ n < 2 ^ 63)
  | .boolean, .bool _ | .timestamptz, .time _ | .date, .date _ | .jsonb, .json _ => true
  | _, _ => false

/-- A row. -/
abbrev Row (ν : Type) := ν → Value

/-- The rows of each table. -/
abbrev Content (ν : Type) := ν → List (Row ν)

/-! ### Catalogues -/

/-- The condition of a `CHECK` constraint. -/
inductive Condition (ν : Type) where
  /-- `column IN (values)`. -/
  | isIn (column : ν) (values : List String)
  /-- `char_length(column) = n`. -/
  | charLength (column : ν) (n : ℕ)
deriving DecidableEq

/-- A column. -/
structure ColumnDef (ν : Type) where
  name : ν
  type : ColumnType
  nullable : Bool
deriving DecidableEq

/-- What happens to a row when the row it refers to is deleted. -/
inductive OnDelete where
  | cascade | setNull
deriving DecidableEq

/-- A constraint of a table. -/
inductive Constraint (ν : Type) where
  | primaryKey (columns : List ν)
  | unique (columns : List ν)
  | check (c : Condition ν)
  | foreignKey (columns : List ν) (table : ν) (references : List ν) (onDelete : OnDelete)
deriving DecidableEq

/-- A constraint and its name, if it was given one. -/
structure ConstraintDef (ν : Type) where
  name : Option ν
  constraint : Constraint ν
deriving DecidableEq

/-- An index. -/
structure IndexDef (ν : Type) where
  name : ν
  columns : List ν
  unique : Bool
deriving DecidableEq

/-- A table. -/
structure TableDef (ν : Type) where
  name : ν
  columns : List (ColumnDef ν)
  constraints : List (ConstraintDef ν)
  indexes : List (IndexDef ν)
deriving DecidableEq

/-- The tables. -/
abbrev Catalogue (ν : Type) := List (TableDef ν)

/-! ### Rules -/

/-- A condition on the rows of one table. -/
inductive Rule (ν : Type) where
  | typed (column : ν) (type : ColumnType)
  | notNull (column : ν)
  | check (c : Condition ν)
  | unique (columns : List ν)
deriving DecidableEq

/-- A `CHECK` condition; it is not violated by `NULL`. -/
def Condition.holds (r : Row ν) : Condition ν → Bool
  | .isIn c values =>
    match r c with
    | .null => true
    | .text s => values.contains s
    | _ => false
  | .charLength c n =>
    match r c with
    | .null => true
    | .text s => decide (s.length = n)
    | _ => false

/-- A value of a longer list is one of the shorter list, unless it is one of those in between. -/
theorem Condition.holds_isIn_append {r : Row ν} {c : ν} {values more : List String}
    (hdisjoint : ∀ s ∈ more, s ∉ values) (h : (isIn c (values ++ more)).holds r = true) :
    (isIn c values).holds r = !more.any fun s ↦ decide (r c = .text s) := by
  rw [holds] at h ⊢
  rcases hr : r c with - | k | s | n | b | t | d | j <;> simp only [hr] at h ⊢
  case null => simp
  case text =>
    have hany : more.any (fun s' ↦ decide (Value.text s = .text s')) = more.contains s := by
      rw [Bool.eq_iff_iff, List.any_eq_true, List.contains_iff_mem]
      simp
    rw [hany]
    rw [List.contains_append, Bool.or_eq_true] at h
    rcases hmore : more.contains s with - | -
    · rw [hmore] at h
      simpa using h
    · have hnot := hdisjoint s (List.contains_iff_mem.1 hmore)
      rw [Bool.eq_false_iff.2 fun hs ↦ hnot (List.contains_iff_mem.1 hs)]
      rfl
  all_goals cases h

/-- The rows have the same values in these columns, none of which is null. -/
def clash (columns : List ν) (r r' : Row ν) : Bool :=
  columns.all fun c ↦ decide (r c = r' c ∧ r c ≠ .null)

/-- The rule lets `r` in, beside the rows that are there. -/
def Rule.admits (rows : List (Row ν)) (r : Row ν) : Rule ν → Bool
  | .typed c type => type.admits (r c)
  | .notNull c => decide (r c ≠ .null)
  | .check c => c.holds r
  | .unique cs => rows.all fun r' ↦ !clash cs r r'

/-- The rule holds in a table. -/
def Rule.holdsIn (rule : Rule ν) : List (Row ν) → Bool
  | [] => true
  | r :: rows => rule.admits rows r && rule.holdsIn rows

@[simp] theorem Rule.holdsIn_nil (rule : Rule ν) : rule.holdsIn [] = true := rfl

@[simp] theorem Rule.holdsIn_cons (rule : Rule ν) (r : Row ν) (rows : List (Row ν)) :
    rule.holdsIn (r :: rows) = (rule.admits rows r && rule.holdsIn rows) := rfl

/-- A rule on single rows holds in a table if it holds of each row. -/
@[simp] theorem Rule.holdsIn_check (c : Condition ν) (rows : List (Row ν)) :
    (Rule.check c).holdsIn rows = rows.all fun r ↦ c.holds r := by
  induction rows with
  | nil => rfl
  | cons r rows ih =>
    rw [holdsIn_cons, ih, List.all_cons]
    rfl

/-- The columns of a constraint. -/
def Constraint.columns : Constraint ν → List ν
  | .primaryKey cs | .unique cs | .foreignKey cs _ _ _ => cs
  | .check (.isIn c _) | .check (.charLength c _) => [c]

/-- What a constraint says about the rows of its table alone. -/
def Constraint.rules : Constraint ν → List (Rule ν)
  | .primaryKey cs => cs.map .notNull ++ [.unique cs]
  | .unique cs => [.unique cs]
  | .check c => [.check c]
  | .foreignKey .. => []

/-- What a constraint says about the rows of other tables: what is referred to exists, unless a
part of the reference is null. -/
def Constraint.refersIn (d : Content ν) (t : ν) : Constraint ν → Bool
  | .foreignKey cs t' refs _ => (d t).all fun r ↦
    cs.any (fun c ↦ decide (r c = .null)) ||
      (d t').any fun r' ↦ decide (refs.map r' = cs.map r)
  | _ => true

/-- The constraint holds in a database. -/
def Constraint.holdsIn (d : Content ν) (t : ν) (k : Constraint ν) : Bool :=
  k.rules.all (fun rule ↦ rule.holdsIn (d t)) && k.refersIn d t

/-- The rules of a column. -/
def ColumnDef.rules (c : ColumnDef ν) : List (Rule ν) :=
  .typed c.name c.type :: if c.nullable then [] else [.notNull c.name]

/-- The rules of an index. -/
def IndexDef.rules (i : IndexDef ν) : List (Rule ν) := if i.unique then [.unique i.columns] else []

/-- **The rules of a table**: of its columns, of its constraints and of its indexes. -/
def TableDef.rules (d : TableDef ν) : List (Rule ν) :=
  d.columns.flatMap ColumnDef.rules ++ d.constraints.flatMap (fun k ↦ k.constraint.rules) ++
    d.indexes.flatMap IndexDef.rules

/-- The table lets a row in. -/
def TableDef.admits (rows : List (Row ν)) (r : Row ν) (d : TableDef ν) : Bool :=
  d.rules.all fun rule ↦ rule.admits rows r

/-- **Tables with the same rules let the same rows in**, in whatever order the rules are stated. -/
theorem TableDef.admits_congr {d d' : TableDef ν} (h : d.rules ⊆ d'.rules) (h' : d'.rules ⊆ d.rules)
    (rows : List (Row ν)) (r : Row ν) : d.admits rows r = d'.admits rows r := by
  rw [Bool.eq_iff_iff, admits, admits, List.all_eq_true, List.all_eq_true]
  exact ⟨fun hd rule hrule ↦ hd rule (h' hrule), fun hd rule hrule ↦ hd rule (h hrule)⟩

/-! ### Statements -/

section Statements

variable [DecidableEq ν]

/-- The table of a name. -/
def Catalogue.table? (cat : Catalogue ν) (t : ν) : Option (TableDef ν) :=
  cat.find? fun d ↦ decide (d.name = t)

theorem Catalogue.mem_of_table? {cat : Catalogue ν} {t : ν} {d : TableDef ν}
    (h : cat.table? t = some d) : d ∈ cat ∧ d.name = t := by
  rw [table?] at h
  have hname := List.find?_some h
  exact ⟨List.mem_of_find?_eq_some h, of_decide_eq_true hname⟩

/-- The catalogue has the table, and its rules let a row in beside those that are there. -/
def Catalogue.admits (cat : Catalogue ν) (t : ν) (rows : List (Row ν)) (r : Row ν) : Bool :=
  (cat.table? t).any (TableDef.admits rows r)

/-- The tables have the same rules. -/
def TableDef.sameRules (d d' : TableDef ν) : Bool :=
  decide (d.rules ⊆ d'.rules ∧ d'.rules ⊆ d.rules)

/-- **Catalogues whose tables correspond let the same rows in.** -/
theorem Catalogue.admits_congr {cat cat' : Catalogue ν} {t : ν}
    (h : ∀ d, cat.table? t = some d → (cat'.table? t).any d.sameRules = true)
    (h' : (cat'.table? t).isSome = true → (cat.table? t).isSome = true) (rows : List (Row ν))
    (r : Row ν) : cat.admits t rows r = cat'.admits t rows r := by
  rw [admits, admits]
  rcases hd : cat.table? t with - | d
  · rcases hd' : cat'.table? t with - | d'
    · rfl
    · rw [hd, hd'] at h'
      cases h' rfl
  · obtain ⟨d', hd', hsame⟩ := (Option.any_eq_true _ _).1 (h d hd)
    obtain ⟨hto, hfrom⟩ := of_decide_eq_true hsame
    rw [hd', Option.any_some, Option.any_some]
    exact TableDef.admits_congr hto hfrom rows r

/-- The names of the columns of a table. -/
def Catalogue.columns (cat : Catalogue ν) (t : ν) : List ν :=
  ((cat.table? t).map fun d ↦ d.columns.map ColumnDef.name).getD []

/-- The table has the column. -/
def TableDef.hasColumn (d : TableDef ν) (c : ν) : Bool := d.columns.any fun x ↦ decide (x.name = c)

/-- The table has a constraint of that name. -/
def TableDef.hasConstraint (d : TableDef ν) (name : ν) : Bool :=
  d.constraints.any fun k ↦ decide (k.name = some name)

/-- The columns identify the rows of the table. -/
def TableDef.identifiedBy (d : TableDef ν) (cs : List ν) : Bool :=
  d.constraints.any fun k ↦ decide (k.constraint = .primaryKey cs ∨ k.constraint = .unique cs)

/-- The table has a reference to the table `t`, or to the column `c` of it. -/
def TableDef.refersTo (d : TableDef ν) (t : ν) (c : Option ν) : Bool :=
  d.constraints.any fun k ↦
    match k.constraint with
    | .foreignKey _ t' refs _ => decide (t' = t) && c.all refs.contains
    | _ => false

/-- The constraint can be stated on the table `d`. -/
def Constraint.stated (cat : Catalogue ν) (d : TableDef ν) (k : Constraint ν) : Bool :=
  k.columns.all d.hasColumn &&
    match k with
    | .foreignKey _ t refs _ => (cat.table? t).any fun d' ↦ d'.identifiedBy refs
    | _ => true

/-- There is an index of that name. -/
def Catalogue.hasIndex (cat : Catalogue ν) (name : ν) : Bool :=
  cat.any fun d ↦ d.indexes.any fun i ↦ decide (i.name = name)

/-- Alter a table. -/
def Catalogue.modify (cat : Catalogue ν) (t : ν) (f : TableDef ν → TableDef ν) : Catalogue ν :=
  cat.map fun d ↦ if d.name = t then f d else d

/-- A statement of data definition. -/
inductive Op (ν : Type) where
  | createTable (name : ν) (columns : List (ColumnDef ν)) (constraints : List (ConstraintDef ν))
  | dropTable (name : ν)
  | addColumn (table : ν) (column : ColumnDef ν)
  | dropColumn (table column : ν)
  | addConstraint (name table : ν) (constraint : Constraint ν)
  | dropConstraint (name table : ν)
  | createIndex (name table : ν) (columns : List ν) (unique : Bool)
  | dropIndex (name table : ν)
deriving DecidableEq

namespace Op

/-- The catalogue permits the statement: what it creates is not there, what it names is, and nothing
refers to what it drops. -/
def permitted (cat : Catalogue ν) : Op ν → Bool
  | .createTable t cs ks =>
    (cat.table? t).isNone && ks.all fun k ↦ k.constraint.stated cat ⟨t, cs, ks, []⟩
  | .dropTable t =>
    (cat.table? t).isSome && cat.all fun d ↦ decide (d.name = t) || !d.refersTo t none
  | .addColumn t c => (cat.table? t).any fun d ↦ !d.hasColumn c.name
  | .dropColumn t c => (cat.table? t).any (fun d ↦ d.hasColumn c) &&
    cat.all fun d ↦ decide (d.name = t) || !d.refersTo t (some c)
  | .addConstraint name t k =>
    (cat.table? t).any fun d ↦ !d.hasConstraint name && k.stated cat d
  | .dropConstraint name t => (cat.table? t).any fun d ↦ d.hasConstraint name
  | .createIndex name t cs _ =>
    !cat.hasIndex name && (cat.table? t).any fun d ↦ cs.all d.hasColumn
  | .dropIndex name t =>
    (cat.table? t).any fun d ↦ d.indexes.any fun i ↦ decide (i.name = name)

/-- What the statement makes of the catalogue. A column takes its constraints and its indexes with
it. -/
def alter (cat : Catalogue ν) : Op ν → Catalogue ν
  | .createTable t cs ks => cat ++ [⟨t, cs, ks, []⟩]
  | .dropTable t => cat.filter fun d ↦ decide (d.name ≠ t)
  | .addColumn t c => cat.modify t fun d ↦ { d with columns := d.columns ++ [c] }
  | .dropColumn t c => cat.modify t fun d ↦ { d with
      columns := d.columns.filter fun x ↦ decide (x.name ≠ c)
      constraints := d.constraints.filter fun k ↦ !k.constraint.columns.contains c
      indexes := d.indexes.filter fun i ↦ !i.columns.contains c }
  | .addConstraint name t k =>
    cat.modify t fun d ↦ { d with constraints := d.constraints ++ [⟨some name, k⟩] }
  | .dropConstraint name t => cat.modify t fun d ↦
    { d with constraints := d.constraints.filter fun k ↦ decide (k.name ≠ some name) }
  | .createIndex name t cs unique =>
    cat.modify t fun d ↦ { d with indexes := d.indexes ++ [⟨name, cs, unique⟩] }
  | .dropIndex name t => cat.modify t fun d ↦
    { d with indexes := d.indexes.filter fun i ↦ decide (i.name ≠ name) }

/-- The rows accept the statement: a new constraint holds of them, and a new column that must not be
null finds none. -/
def accepts (d : Content ν) : Op ν → Bool
  | .addColumn t c => c.nullable || (d t).isEmpty
  | .addConstraint _ t k => k.holdsIn d t
  | .createIndex _ t cs unique => !unique || (Rule.unique cs).holdsIn (d t)
  | _ => true

/-- What the statement makes of the rows: a new table is empty, a new column is null, and what is
dropped is gone. -/
def store (d : Content ν) : Op ν → Content ν
  | .createTable t _ _ | .dropTable t => Function.update d t []
  | .addColumn t ⟨c, _, _⟩ | .dropColumn t c =>
    Function.update d t ((d t).map fun r ↦ Function.update r c .null)
  | _ => d

/-- The statement leaves the table `t` alone, as far as its rows are concerned. -/
def sparesTable (t : ν) : Op ν → Bool
  | .createTable t' _ _ | .dropTable t' => decide (t' ≠ t)
  | _ => true

/-- The statement leaves the cells of the column `c` of `t` alone, as far as it is about columns. -/
def sparesColumn (t c : ν) : Op ν → Bool
  | .addColumn t' ⟨c', _, _⟩ | .dropColumn t' c' => decide (¬(t' = t ∧ c' = c))
  | _ => true

end Op

/-! ### Scripts -/

/-- A database. -/
structure State (ν : Type) where
  catalogue : Catalogue ν
  content : Content ν

/-- Perform a statement. -/
def Op.perform (s : State ν) (op : Op ν) : Option (State ν) :=
  if op.permitted s.catalogue && op.accepts s.content then
    some ⟨op.alter s.catalogue, op.store s.content⟩
  else none

/-- Run a script. -/
def run : List (Op ν) → State ν → Option (State ν)
  | [], s => some s
  | op :: ops, s => (op.perform s).bind (run ops)

/-- The catalogue permits the statements, one after another. -/
def permittedAll : List (Op ν) → Catalogue ν → Bool
  | [], _ => true
  | op :: ops, cat => op.permitted cat && permittedAll ops (op.alter cat)

/-- The catalogue after a script. -/
def alterAll (ops : List (Op ν)) (cat : Catalogue ν) : Catalogue ν := ops.foldl Op.alter cat

/-- The rows accept the statements, one after another. -/
def acceptsAll : List (Op ν) → Content ν → Bool
  | [], _ => true
  | op :: ops, d => op.accepts d && acceptsAll ops (op.store d)

/-- The rows after a script. -/
def storeAll (ops : List (Op ν)) (d : Content ν) : Content ν := ops.foldl Op.store d

/-- **What a script does**: it runs through if the catalogue permits it and the rows accept it, and
changes both. -/
theorem run_eq_some_iff {ops : List (Op ν)} {s s' : State ν} :
    run ops s = some s' ↔ permittedAll ops s.catalogue = true ∧ acceptsAll ops s.content = true ∧
      s' = ⟨alterAll ops s.catalogue, storeAll ops s.content⟩ := by
  induction ops generalizing s with
  | nil => simp [run, permittedAll, acceptsAll, alterAll, storeAll, eq_comm]
  | cons op ops ih =>
    rw [run, Op.perform, permittedAll, acceptsAll]
    rcases hp : op.permitted s.catalogue with - | - <;>
      rcases ha : op.accepts s.content with - | - <;> simp [ih, alterAll, storeAll]

/-- `SELECT columns`: the cells of some columns. -/
def select (cs : List ν) (rows : List (Row ν)) : List (List Value) := rows.map fun r ↦ cs.map r

/-- A statement leaves the cells alone that it does not create or drop. -/
theorem select_store {op : Op ν} {t : ν} {cs : List ν} (ht : op.sparesTable t = true)
    (hcs : ∀ c ∈ cs, op.sparesColumn t c = true) (d : Content ν) :
    select cs (op.store d t) = select cs (d t) := by
  have hupdate : ∀ t' c', (∀ c ∈ cs, ¬(t' = t ∧ c' = c)) →
      select cs (Function.update d t' ((d t').map fun r ↦ Function.update r c' .null) t) =
        select cs (d t) := by
    intro t' c' hne
    by_cases htt : t = t'
    · subst htt
      rw [Function.update_self, select, List.map_map]
      refine List.map_congr_left fun r _ ↦ List.map_congr_left fun c hc ↦ ?_
      exact Function.update_of_ne (fun h ↦ hne c hc ⟨rfl, h.symm⟩) _ _
    · rw [Function.update_of_ne htt]
  cases op with
  | createTable t' _ _ | dropTable t' =>
    have hne : t ≠ t' := (of_decide_eq_true ht).symm
    rw [Op.store, Function.update_of_ne hne]
  | addColumn t' c' => exact hupdate t' c'.name fun c hc ↦ of_decide_eq_true (hcs c hc)
  | dropColumn t' c' => exact hupdate t' c' fun c hc ↦ of_decide_eq_true (hcs c hc)
  | _ => rfl

/-- **What survives a script**: the rows of a table that it does not create or drop, in the columns
that it does not add or drop. -/
theorem select_storeAll {ops : List (Op ν)} {t : ν} {cs : List ν}
    (ht : ops.all (Op.sparesTable t) = true)
    (hcs : cs.all (fun c ↦ ops.all (Op.sparesColumn t c)) = true) (d : Content ν) :
    select cs (storeAll ops d t) = select cs (d t) := by
  induction ops generalizing d with
  | nil => rfl
  | cons op ops ih =>
    simp only [List.all_cons, Bool.and_eq_true, List.all_eq_true] at ht hcs ih
    rw [storeAll, List.foldl_cons]
    exact (ih ht.2 (fun c hc ↦ (hcs c hc).2) _).trans
      (select_store ht.1 (fun c hc ↦ (hcs c hc).1) d)

/-! ### There and back -/

/-- The rows satisfy the catalogue: the rules of each table hold in it, and its references are to
rows that exist. -/
def Catalogue.holdsIn (cat : Catalogue ν) (d : Content ν) : Bool := cat.all fun t ↦
  t.rules.all (fun rule ↦ rule.holdsIn (d t.name)) &&
    t.constraints.all fun k ↦ k.constraint.refersIn d t.name

theorem Catalogue.rule_holdsIn {cat : Catalogue ν} {d : Content ν} {t : ν} {rule : Rule ν}
    (h : cat.holdsIn d = true)
    (hrule : (cat.table? t).any (fun x ↦ decide (rule ∈ x.rules)) = true) :
    rule.holdsIn (d t) = true := by
  obtain ⟨x, hx, hmem⟩ := (Option.any_eq_true _ _).1 hrule
  obtain ⟨hcat, rfl⟩ := mem_of_table? hx
  have hrules := (Bool.and_eq_true_iff.1 (List.all_eq_true.1 h x hcat)).1
  exact List.all_eq_true.1 hrules rule (of_decide_eq_true hmem)

/-- The columns of a table that it has in both catalogues. -/
def common (cat cat' : Catalogue ν) (t : ν) : List ν :=
  (cat.columns t).filter (cat'.columns t).contains

/-- **A script can be taken back**: from this state the one runs through, the other runs through
from where the one ends, and in the tables and columns that exist at both ends, every value is as it
was. -/
def RoundTrips (down up : List (Op ν)) (s : State ν) : Prop :=
  ∃ s₁ s₂, run down s = some s₁ ∧ run up s₁ = some s₂ ∧
    ∀ t, (s.catalogue.table? t).isSome = true → (s₁.catalogue.table? t).isSome = true →
      select (common s.catalogue s₁.catalogue t) (s₂.content t) =
        select (common s.catalogue s₁.catalogue t) (s.content t)

/-- The scripts leave alone what exists at both ends. -/
def sparesCommon (down up : List (Op ν)) (cat : Catalogue ν) : Bool := cat.all fun d ↦
  ((alterAll down cat).table? d.name).isNone ||
    ((down ++ up).all (Op.sparesTable d.name) &&
      (common cat (alterAll down cat) d.name).all fun c ↦
        (down ++ up).all (Op.sparesColumn d.name c))

/-- **What a round trip depends on**, once the catalogue permits it: that the rows accept both
scripts. -/
theorem roundTrips_iff {down up : List (Op ν)} {cat : Catalogue ν}
    (hdown : permittedAll down cat = true) (hup : permittedAll up (alterAll down cat) = true)
    (hspares : sparesCommon down up cat = true) (d : Content ν) :
    RoundTrips down up ⟨cat, d⟩ ↔
      acceptsAll down d = true ∧ acceptsAll up (storeAll down d) = true := by
  constructor
  · rintro ⟨s₁, s₂, h₁, h₂, -⟩
    obtain ⟨-, haccepts, rfl⟩ := run_eq_some_iff.1 h₁
    exact ⟨haccepts, (run_eq_some_iff.1 h₂).2.1⟩
  · rintro ⟨h₁, h₂⟩
    refine ⟨_, _, run_eq_some_iff.2 ⟨hdown, h₁, rfl⟩, run_eq_some_iff.2 ⟨hup, h₂, rfl⟩, ?_⟩
    intro t ht ht'
    obtain ⟨x, hx⟩ := Option.isSome_iff_exists.1 ht
    obtain ⟨hcat, rfl⟩ := Catalogue.mem_of_table? hx
    have hcommon := List.all_eq_true.1 hspares x hcat
    have hexists : ((alterAll down cat).table? x.name).isNone = false :=
      Option.isNone_eq_false_iff.2 ht'
    rw [hexists, Bool.false_or, Bool.and_eq_true] at hcommon
    have happend : storeAll up (storeAll down d) = storeAll (down ++ up) d :=
      (List.foldl_append ..).symm
    show select _ (storeAll up (storeAll down d) x.name) = _
    rw [happend]
    exact select_storeAll hcommon.1 hcommon.2 d

end Statements

end ZanovixCrm.Ddl
