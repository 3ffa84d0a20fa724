import ZanovixCrm.Database.Schema
import ZanovixCrm.Library.Query

/-!
# The ORM session

What a handler does through its session: insert a new object, assign attributes of a loaded object
and flush, refresh it, page through a query, update in bulk.

**A flush writes only what changed.** An attribute is in the `UPDATE` if the value assigned differs
from the one loaded, and without such an attribute no statement is sent at all, so that `updated_at`
stays as it was. The values are encoded when the statement is sent; an object can therefore hold a
`None` or an over-long string until then. `saved` is the resulting assignment as a function of the
loaded row, and `run_flush` is the specification of a flush in terms of it.

**Where a value is refused.** `Encoding.store` is the way from a Python value to a column, with the
error that PostgreSQL or the driver answers: too long, out of range, `NULL` in a column that is not
nullable, not in the list of a `CHECK`. `Encoding.load` is the way back, and a value that has been
loaded can be stored again.

**What is left out, and why.** The identity map: a handler loads each row once, so an object is a
row together with the changes made to it. Autoflush and the expiration of objects at the commit are
switched off in the source, so a query sends nothing ahead and an answer is rendered from what was
loaded. Savepoints, retries and locks do not occur. Nothing cascades, because only tables that
nothing refers to are deleted from.
-/

namespace ZanovixCrm

/-- A transaction of the application. -/
abbrev Tx (α : Type) := Prog Db Write Fault α

/-- What a request takes from its surroundings: the time at which its transaction starts, which is
`now()` throughout, the identifiers that `uuid4` yields in order, and for the public intake the
number of seconds for which the rate limiter turns the sender away, if it does. -/
structure Env where
  now : Time
  uuid : ℕ → UUID
  retryAfter : Option ℤ

/-- Surroundings for examples: the identifiers count up from `first`. -/
def Env.sample (first : ℕ) : Env := ⟨0, fun i ↦ first + i, none⟩

/-! ### Encoding -/

/-- Python values of type `raw` as values of a column type. -/
class Encoding (β : Type) (raw : outParam Type) where
  /-- The column value, or the error with which the database refuses the attribute. -/
  store : raw → Except DbError β
  /-- The attribute of a loaded object. -/
  load : β → raw
  /-- A value that is stored is accepted when it is assigned again. -/
  store_load : ∀ b, store (load b) = .ok b

/-- The value of an option, or an error. -/
def orError {α : Type} (e : DbError) : Option α → Except DbError α
  | some a => .ok a
  | none => .error e

@[simp] theorem orError_eq_ok_iff {α : Type} {e : DbError} {o : Option α} {a : α} :
    orError e o = .ok a ↔ o = some a := by
  rcases o with - | b <;> simp [orError]

/-- A row is built if each of its columns is. -/
theorem bind_eq_ok_iff {ε α β : Type} {x : Except ε α} {f : α → Except ε β} {b : β} :
    (x >>= f) = .ok b ↔ ∃ a, x = .ok a ∧ f a = .ok b := by
  rcases x with e | a
  · exact ⟨fun h ↦ (nomatch h), fun ⟨_, h, _⟩ ↦ (nomatch h)⟩
  · constructor
    · exact fun h ↦ ⟨a, rfl, h⟩
    · rintro ⟨_, ⟨⟩, h⟩
      exact h

theorem pure_eq_ok_iff {ε α : Type} {a b : α} : (pure a : Except ε α) = .ok b ↔ a = b :=
  ⟨fun h ↦ Except.ok.inj h, fun h ↦ congrArg Except.ok h⟩

instance {bound : Option ℕ} : Encoding (Varchar bound) String where
  store s := orError .data (Varchar.store? bound s)
  load := Varchar.val
  store_load v := by simp [orError]

instance {bits : ℕ} : Encoding (PgInt bits) ℤ where
  store x := orError .data (PgInt.store? bits x)
  load := PgInt.val
  store_load v := by simp [orError]

instance : Encoding CountryCode String where
  store s := (orError .data (Varchar.store? (some 2) s)).bind fun v ↦
    if h : v.val.length = 2 then .ok ⟨v, h⟩ else .error .check
  load v := v.code.val
  store_load v := by simp [orError, Except.bind, v.iso2]

instance : Encoding Timestamptz PyDateTime where
  store t := orError .data (Timestamptz.store? t)
  load := Timestamptz.load
  store_load v := by simp [orError]

instance : Encoding FreeText PyStr where
  store s := orError .data (FreeText.store? s)
  load v := PyStr.ofString v.text.val
  store_load v := by simp [orError]

instance {α : Type} [TextEnum α] : Encoding α α := ⟨.ok, id, fun _ ↦ rfl⟩
instance : Encoding ℤ ℤ := ⟨.ok, id, fun _ ↦ rfl⟩
instance : Encoding UUID UUID := ⟨.ok, id, fun _ ↦ rfl⟩
instance : Encoding Bool Bool := ⟨.ok, id, fun _ ↦ rfl⟩

/-- Attribute values in `raw`, where `None` is `none`, as values of a column of type `β`. -/
class Codec (β : Type) (raw : outParam Type) where
  /-- The column value, or the error with which the database refuses the attribute. -/
  encode : Option raw → Except DbError β
  /-- The attribute of a loaded object. -/
  decode : β → Option raw
  /-- A value that is stored is accepted when it is assigned again. -/
  encode_decode : ∀ b, encode (decode b) = .ok b

export Codec (encode decode encode_decode)

/-- A `NOT NULL` column. -/
instance {β raw : Type} [Encoding β raw] : Codec β raw where
  encode
    | some v => Encoding.store v
    | none => .error .notNull
  decode b := some (Encoding.load b)
  encode_decode b := Encoding.store_load b

/-- A nullable column. -/
instance {β raw : Type} [Encoding β raw] : Codec (Option β) raw where
  encode
    | some v => (Encoding.store v).map some
    | none => .ok none
  decode := Option.map Encoding.load
  encode_decode b := by
    rcases b with - | b
    · rfl
    · show (Encoding.store (Encoding.load b)).map some = _
      rw [Encoding.store_load]
      rfl

/-- A text as a value of an enumerated column. -/
def encodeText (α : Type) [TextEnum α] (s : String) : Except DbError α :=
  orError .check (TextEnum.ofText? s)

theorem encodeText_eq_ok_iff {α : Type} [TextEnum α] {s : String} {a : α} :
    encodeText α s = .ok a ↔ TextEnum.text a = s := by
  rw [← TextEnum.ofText?_eq_some_iff, encodeText]
  rcases TextEnum.ofText? s with - | b <;> simp [orError]

/-- An enumerated value is stored as it is. -/
theorem eq_some_of_encode {α : Type} [TextEnum α] {o : Option α} {a : α}
    (h : (encode o : Except DbError α) = .ok a) : o = some a := by
  rcases o with - | b
  · cases h
  · exact congrArg some (Except.ok.inj h)

/-- A text within the bound is stored as it is. -/
theorem eq_some_val_of_encode {n : ℕ} {o : Option String} {v : Str n}
    (hlen : ∀ s ∈ o, s.length ≤ n) (h : (encode o : Except DbError (Str n)) = .ok v) :
    o = some v.val := by
  rcases o with - | s
  · cases h
  · have hstore : Varchar.store? (some n) s = some v := orError_eq_ok_iff.1 h
    rw [Varchar.val_of_store? (fun k hk ↦ Option.some.inj hk ▸ hlen s rfl) hstore]

/-- So is an optional one. -/
theorem map_val_of_encode {n : ℕ} {o : Option String} {v : Option (Str n)}
    (hlen : ∀ s ∈ o, s.length ≤ n) (h : (encode o : Except DbError (Option (Str n))) = .ok v) :
    v.map Varchar.val = o := by
  rcases o with - | s
  · cases h
    rfl
  · have hstore : (encode (some s) : Except DbError (Str n)).map some = .ok v := h
    rcases hs : (encode (some s) : Except DbError (Str n)) with e | w
    · rw [hs] at hstore
      cases hstore
    · rw [hs] at hstore
      cases hstore
      exact (eq_some_val_of_encode hlen hs).symm

/-- A nullable column is null if and only if the attribute is `None`. -/
theorem isSome_of_encode {β raw : Type} [Encoding β raw] {o : Option raw} {v : Option β}
    (h : (encode o : Except DbError (Option β)) = .ok v) : v.isSome = o.isSome := by
  rcases o with - | x
  · cases h
    rfl
  · have hstore : (Encoding.store x).map some = .ok v := h
    rcases hx : (Encoding.store x : Except DbError β) with e | b
    · rw [hx] at hstore
      cases hstore
    · rw [hx] at hstore
      cases hstore
      rfl

/-- An integer is stored as it is. -/
theorem map_int_of_encode {bits : ℕ} {o : Option ℤ} {v : Option (PgInt bits)}
    (h : (encode o : Except DbError (Option (PgInt bits))) = .ok v) : v.map PgInt.val = o := by
  rcases o with - | x
  · cases h
    rfl
  · have hstore : (orError .data (PgInt.store? bits x)).map some = .ok v := h
    rcases hx : PgInt.store? bits x with - | w
    · rw [hx] at hstore
      cases hstore
    · rw [hx] at hstore
      cases hstore
      exact congrArg some (PgInt.val_of_store? hx)

/-! ### Attributes -/

/-- A column of a row that is not its key. -/
structure Column (ρ : Type) [Keyed ρ UUID] (β : Type) where
  get : ρ → β
  set : β → ρ → ρ
  get_set : ∀ b r, get (set b r) = b
  key_set : ∀ b r, key (set b r) = key r

/-- An attribute that has been assigned on a loaded object. -/
structure Change (ρ : Type) [Keyed ρ UUID] where
  /-- The value differs from the one loaded. -/
  dirty : ρ → Bool
  /-- The assignment in the `UPDATE`, or the error of encoding the value. -/
  assign : Except DbError (Assign ρ)

namespace Column

variable {ρ β raw : Type} [Keyed ρ UUID]

/-- The assignment of a column value. -/
def put (c : Column ρ β) (b : β) : Assign ρ := ⟨c.set b, c.key_set b⟩

@[simp] theorem put_fn (c : Column ρ β) (b : β) (r : ρ) : (c.put b).fn r = c.set b r := rfl

/-- `setattr(obj, column, v)`. -/
def assign [Codec β raw] [DecidableEq raw] (c : Column ρ β) (v : Option raw) : Change ρ where
  dirty r := decide (decode (c.get r) ≠ v)
  assign := (encode v).map c.put

/-- `setattr` with a text, on an enumerated column. -/
def assignText [TextEnum β] (c : Column ρ β) (s : String) : Change ρ where
  dirty r := decide (TextEnum.text (c.get r) ≠ s)
  assign := (encodeText β s).map c.put

/-- `setattr` if the field was set. -/
def patch [Codec β raw] [DecidableEq raw] (c : Column ρ β) (f : Field raw) : List (Change ρ) :=
  if f.isSet then [c.assign f.toOption] else []

end Column

/-- Every assignment in the list preserves `f`. -/
def Preserves {ρ β : Type} [Keyed ρ UUID] (f : ρ → β) (cs : List (Change ρ)) : Prop :=
  ∀ c ∈ cs, ∀ a, c.assign = .ok a → ∀ r, f (a.fn r) = f r

namespace Preserves

variable {ρ β γ raw : Type} [Keyed ρ UUID] {f : ρ → γ}

@[simp] theorem nil : Preserves f ([] : List (Change ρ)) := fun _ h ↦ absurd h List.not_mem_nil

@[simp] theorem append {cs ds : List (Change ρ)} :
    Preserves f (cs ++ ds) ↔ Preserves f cs ∧ Preserves f ds := by
  simp only [Preserves, List.mem_append]
  exact ⟨fun h ↦ ⟨fun c hc ↦ h c (Or.inl hc), fun c hc ↦ h c (Or.inr hc)⟩,
    fun h c hc ↦ hc.elim (h.1 c) (h.2 c)⟩

theorem put {x : Except DbError β} {col : Column ρ β} (h : ∀ b r, f (col.set b r) = f r)
    {a : Assign ρ} (ha : x.map col.put = .ok a) (r : ρ) : f (a.fn r) = f r := by
  rcases x with e | b
  · cases ha
  · cases ha
    exact h b r

theorem assign [Codec β raw] [DecidableEq raw] {col : Column ρ β} {v : Option raw}
    (h : ∀ b r, f (col.set b r) = f r) : Preserves f [col.assign v] := by
  intro c hc a ha
  rw [List.mem_singleton.1 hc] at ha
  exact put h ha

theorem assignText [TextEnum β] {col : Column ρ β} {s : String}
    (h : ∀ b r, f (col.set b r) = f r) : Preserves f [col.assignText s] := by
  intro c hc a ha
  rw [List.mem_singleton.1 hc] at ha
  exact put h ha

/-- A patch preserves whatever its column has no part in, and everything if its field is not
set. -/
theorem patch [Codec β raw] [DecidableEq raw] {col : Column ρ β} {fld : Field raw}
    (h : fld.isSet = true → ∀ b r, f (col.set b r) = f r) : Preserves f (col.patch fld) := by
  unfold Column.patch
  split
  · next hset => exact assign (h hset)
  · exact nil

end Preserves

/-- Every assignment in the list keeps `P`. -/
def Keeps {ρ : Type} [Keyed ρ UUID] (P : ρ → Prop) (cs : List (Change ρ)) : Prop :=
  ∀ c ∈ cs, ∀ a, c.assign = .ok a → ∀ r, P r → P (a.fn r)

namespace Keeps

variable {ρ β raw : Type} [Keyed ρ UUID] {P : ρ → Prop}

@[simp] theorem append {cs ds : List (Change ρ)} :
    Keeps P (cs ++ ds) ↔ Keeps P cs ∧ Keeps P ds := by
  simp only [Keeps, List.mem_append]
  exact ⟨fun h ↦ ⟨fun c hc ↦ h c (Or.inl hc), fun c hc ↦ h c (Or.inr hc)⟩,
    fun h c hc ↦ hc.elim (h.1 c) (h.2 c)⟩

/-- A patch keeps what the values that it can store keep. -/
theorem patch [Codec β raw] [DecidableEq raw] {col : Column ρ β} {fld : Field raw}
    (h : fld.isSet = true → ∀ b, encode fld.toOption = .ok b → ∀ r, P r → P (col.set b r)) :
    Keeps P (col.patch fld) := by
  intro c hc a ha r hr
  unfold Column.patch at hc
  split at hc
  · next hset =>
    rw [List.mem_singleton.1 hc, Column.assign] at ha
    rcases hb : (encode fld.toOption : Except DbError β) with e | b
    · rw [hb] at ha
      cases ha
    · rw [hb] at ha
      cases ha
      exact h hset b hb r hr
  · cases hc

end Keeps

theorem Preserves.keeps {ρ β : Type} [Keyed ρ UUID] {f : ρ → β} {cs : List (Change ρ)}
    (h : Preserves f cs) (b : β) : Keeps (fun r ↦ f r = b) cs :=
  fun c hc a ha r hr ↦ (h c hc a ha r).trans hr

/-- The column with `onupdate=func.now()`, where there is one. -/
class Touched (ρ : Type) [Keyed ρ UUID] where
  /-- The assignment that every `UPDATE` makes besides. -/
  touch : Time → Assign ρ

export Touched (touch)

instance : Touched Lead := ⟨fun now ↦ ⟨fun r ↦ { r with updatedAt := now }, fun _ ↦ rfl⟩⟩
instance : Touched Client := ⟨fun now ↦ ⟨fun r ↦ { r with updatedAt := now }, fun _ ↦ rfl⟩⟩
instance : Touched Contact := ⟨fun now ↦ ⟨fun r ↦ { r with updatedAt := now }, fun _ ↦ rfl⟩⟩
instance : Touched Service := ⟨fun now ↦ ⟨fun r ↦ { r with updatedAt := now }, fun _ ↦ rfl⟩⟩
instance : Touched BillingProfile := ⟨fun now ↦ ⟨fun r ↦ { r with updatedAt := now }, fun _ ↦ rfl⟩⟩
instance : Touched Ticket := ⟨fun now ↦ ⟨fun r ↦ { r with updatedAt := now }, fun _ ↦ rfl⟩⟩
instance : Touched Milestone := ⟨fun _ ↦ Assign.none⟩

namespace Session

section Flush

variable {ρ : Type} [Keyed ρ UUID]

/-- The changed attributes. -/
def dirty (loaded : ρ) (cs : List (Change ρ)) : List (Change ρ) :=
  cs.filter fun c ↦ c.dirty loaded

/-- The assignments of a list of attributes, or the error of encoding one of them. -/
def assignments : List (Change ρ) → Except DbError (List (Assign ρ))
  | [] => .ok []
  | c :: cs => c.assign.bind fun a ↦ (assignments cs).map (a :: ·)

/-- The assignment of the `UPDATE` for a loaded object, or the error of encoding a value. -/
def updateOf [Touched ρ] (now : Time) (loaded : ρ) (cs : List (Change ρ)) :
    Except DbError (Assign ρ) :=
  (assignments (dirty loaded cs)).map fun as ↦ Assign.seq (as ++ [touch now])

/-- What a flush assigns to the row: nothing, if no attribute has changed. -/
def saved [Touched ρ] (now : Time) (loaded : ρ) (cs : List (Change ρ)) : Assign ρ :=
  if (dirty loaded cs).isEmpty then Assign.none
  else match updateOf now loaded cs with
    | .ok a => a
    | .error _ => Assign.none

/-- A database error, raised. -/
def column {α : Type} (x : Except DbError α) : Tx α := .liftExcept (x.mapError .db)

/-- `session.flush()` with a changed object. -/
def flush [Stored ρ] [Touched ρ] (env : Env) (loaded : ρ) (cs : List (Change ρ)) : Tx Unit :=
  if (dirty loaded cs).isEmpty then pure ()
  else do
    let a ← column (updateOf env.now loaded cs)
    .exec (Stored.wrap (.update (key loaded) a))

/-- `session.add(obj)` and `session.flush()`. -/
def add [Stored ρ] (row : Except DbError ρ) : Tx Unit := do
  let r ← column row
  .exec (Stored.wrap (.insert r))

/-- `session.refresh(obj)`; the row must still be there. -/
def refresh [Relation ρ] (k : UUID) : Tx ρ := do
  let r ← .query fun db ↦ (Relation.table db : Table ρ).find? k
  .demand r .unhandled

/-- `scalar_one_or_none()`: more than one row is an exception. -/
def scalarOneOrNone {α : Type} : List α → Tx (Option α)
  | [] => pure none
  | [a] => pure (some a)
  | _ => .raise .unhandled

/-- `session.delete(obj)` and `session.flush()`. -/
def delete (t : LeafTable) (k : UUID) : Tx Unit := .exec (.delete t k)

/-- `UPDATE … SET a WHERE p`: the rows that satisfy the condition when the statement begins are
updated one by one, each if it still does. -/
def updateWhere [Stored ρ] (p : ρ → Bool) (a : Assign ρ) : Tx Unit := do
  let ks ← .query fun db ↦ ((Relation.table db : Table ρ).rows.filter p).map key
  .execAll (ks.map fun k ↦ Stored.wrap (.updateIf k p a))

end Flush

/-- The largest value of a `bigint` parameter. -/
def maxBigint : ℤ := 2 ^ 63 - 1

/-- `LIMIT` and `OFFSET`: negative values and values beyond `bigint` are errors. -/
def limitOffset {α : Type} (limit offset : ℤ) (rows : List α) : Except DbError (List α) :=
  if 0 ≤ limit ∧ limit ≤ maxBigint ∧ 0 ≤ offset ∧ offset ≤ maxBigint then
    .ok ((rows.drop offset.toNat).take limit.toNat)
  else .error .data

/-- The rows of a page are rows of the list. -/
theorem mem_of_limitOffset {α : Type} {limit offset : ℤ} {rows page : List α}
    (h : limitOffset limit offset rows = .ok page) {r : α} (hr : r ∈ page) : r ∈ rows := by
  unfold limitOffset at h
  split at h
  · cases h
    exact List.mem_of_mem_drop (List.mem_of_mem_take hr)
  · cases h

/-- A text parameter of a query; PostgreSQL takes no NUL in it. -/
def bindText (s : Option String) : Tx Unit :=
  .require (s.all fun s ↦ !s.toList.contains (Char.ofNat 0)) (.db .data)

/-- `LIKE`: `%` stands for any text, `_` for any character, and a backslash takes the next character
literally. -/
def like : List Char → List Char → Bool
  | [], s => s.isEmpty
  | ['\\'], _ => false
  | '\\' :: c :: pattern, s =>
    match s with
    | d :: s => c == d && like pattern s
    | [] => false
  | c :: pattern, s =>
    if c = '%' then s.tails.any fun t ↦ like pattern t
    else match s with
      | d :: s => (c == '_' || c == d) && like pattern s
      | [] => false

/-! ### Specifications -/

section Specs

variable {ρ : Type} [Keyed ρ UUID]

@[simp] theorem ensures_column {α : Type} {x : Except DbError α} {db : Db}
    {Q : α → Db → Prop} : (column x).Ensures db Q ↔ ∀ a, x = .ok a → Q a db := by
  rcases x with e | a <;> simp [column, Except.mapError]

@[simp] theorem ensures_pure {α : Type} {a : α} {db : Db} {Q : α → Db → Prop} :
    (pure a : Tx α).Ensures db Q ↔ Q a db := Prog.ensures_ret

theorem run_add [Stored ρ] {r : ρ} {db : Db}
    (hnew : (Relation.table db : Table ρ).has (key r) = false)
    (hc : checkRow db r = .ok ()) : (add (.ok r)).run db =
      .ok ((), Relation.setTable db ((Relation.table db : Table ρ).insert r)) :=
  Prog.run_write_ok (apply_insert.2 ⟨hnew, hc, rfl⟩) id (.ret ())

theorem run_refresh [Relation ρ] {k : UUID} {r : ρ} {db : Db}
    (hr : (Relation.table db : Table ρ).find? k = some r) : (refresh k).run db = .ok (r, db) :=
  Prog.run_lookup_some db hr _

/-- **An insert adds one row under a new key, or fails.** -/
@[simp] theorem ensures_add [Stored ρ] {row : Except DbError ρ} {db : Db} {Q : Unit → Db → Prop} :
    (add row).Ensures db Q ↔ ∀ r, row = .ok r → (Relation.table db : Table ρ).has (key r) = false →
      checkRow db r = .ok () →
      Q () (Relation.setTable db ((Relation.table db : Table ρ).insert r)) := by
  simp only [add, Prog.ensures_bind, ensures_column, Prog.ensures_exec, apply_insert]
  constructor
  · exact fun h r hr hk ha ↦ h r hr _ ⟨hk, ha, rfl⟩
  · rintro h r hr db' ⟨hk, ha, rfl⟩
    exact h r hr hk ha

@[simp] theorem ensures_refresh [Relation ρ] {k : UUID} {db : Db} {Q : ρ → Db → Prop} :
    (refresh k).Ensures db Q ↔
      ∀ r, (Relation.table db : Table ρ).find? k = some r → Q r db := by
  simp [refresh]

@[simp] theorem ensures_delete {t : LeafTable} {k : UUID} {db : Db} {Q : Unit → Db → Prop} :
    (delete t k).Ensures db Q ↔ Q () (t.erase db k) := by
  simp [delete, apply_delete]

@[simp] theorem ensures_scalarOneOrNone {α : Type} {l : List α} {db : Db}
    {Q : Option α → Db → Prop} :
    (scalarOneOrNone l).Ensures db Q ↔ (l = [] → Q none db) ∧ ∀ a, l = [a] → Q (some a) db := by
  match l with
  | [] => simp [scalarOneOrNone]
  | [a] => simp [scalarOneOrNone]
  | _ :: _ :: _ => simp [scalarOneOrNone]

theorem refuses_column {α : Type} {x : Except DbError α} {db : Db} {P : Fault → Prop}
    (h : ∀ e, P (.db e)) : (column x).Refuses db P := by
  rw [column, Prog.refuses_liftExcept]
  intro f hf
  rcases x with e | a
  · exact Except.error.inj hf ▸ h e
  · cases hf

/-- A write is refused by the database alone. -/
theorem refuses_exec {w : Write} {db : Db} {P : Fault → Prop} (h : ∀ e, P (.db e)) :
    (Prog.exec w : Tx Unit).Refuses db P := by
  rw [Prog.refuses_exec]
  intro f hf
  have hmap : (w.perform db).mapError Fault.db = .error f := hf
  rcases hw : w.perform db with e | db'
  · rw [hw] at hmap
    exact Except.error.inj hmap ▸ h e
  · rw [hw] at hmap
    cases hmap

theorem refuses_add [Stored ρ] {row : Except DbError ρ} {db : Db} {P : Fault → Prop}
    (h : ∀ e, P (.db e)) : (add row).Refuses db P :=
  .bind (refuses_column h) fun _ _ ↦ refuses_exec h

theorem refuses_refresh [Relation ρ] {k : UUID} {db : Db} {P : Fault → Prop} (h : P .unhandled) :
    (refresh k : Tx ρ).Refuses db P :=
  .bind Prog.refuses_query fun _ _ ↦ Prog.refuses_demand.2 fun _ ↦ h

theorem saved_of_clean [Touched ρ] {now : Time} {loaded : ρ} {cs : List (Change ρ)}
    (h : (dirty loaded cs).isEmpty = true) : saved now loaded cs = Assign.none := by
  rw [saved, if_pos h]

theorem saved_of_updateOf [Touched ρ] {now : Time} {loaded : ρ} {cs : List (Change ρ)}
    {a : Assign ρ} (h : ¬(dirty loaded cs).isEmpty = true) (ha : updateOf now loaded cs = .ok a) :
    saved now loaded cs = a := by
  rw [saved, if_neg h, ha]

theorem assignments_cons_eq_ok {c : Change ρ} {cs : List (Change ρ)} {as : List (Assign ρ)} :
    assignments (c :: cs) = .ok as ↔
      ∃ a as', c.assign = .ok a ∧ assignments cs = .ok as' ∧ as = a :: as' := by
  rw [assignments]
  rcases c.assign with e | a
  · simp [Except.bind]
  · rcases assignments cs with e | as'
    · simp [Except.bind, Except.map]
    · simp [Except.bind, Except.map, eq_comm]

/-- All attributes of an `UPDATE` can be encoded. -/
theorem assign_of_assignments {cs : List (Change ρ)} {as : List (Assign ρ)}
    (h : assignments cs = .ok as) {c : Change ρ} (hc : c ∈ cs) : ∃ a, c.assign = .ok a := by
  induction cs generalizing as with
  | nil => cases hc
  | cons d cs ih =>
    obtain ⟨a, as', ha, has', rfl⟩ := assignments_cons_eq_ok.1 h
    rcases List.mem_cons.1 hc with rfl | hc
    · exact ⟨a, ha⟩
    · exact ih has' hc

/-- What the changes keep, their assignments keep. -/
theorem assignments_keep {P : ρ → Prop} {cs : List (Change ρ)} {as : List (Assign ρ)}
    (hcs : Keeps P cs) (h : assignments cs = .ok as) : ∀ a ∈ as, ∀ r, P r → P (a.fn r) := by
  induction cs generalizing as with
  | nil => cases h; simp
  | cons c cs ih =>
    obtain ⟨a, as', ha, has', rfl⟩ := assignments_cons_eq_ok.1 h
    have htail := ih (fun d hd ↦ hcs d (List.mem_cons_of_mem _ hd)) has'
    intro b hb
    rcases List.mem_cons.1 hb with rfl | hb
    · exact hcs c List.mem_cons_self b ha
    · exact htail b hb

theorem keeps_dirty {P : ρ → Prop} {cs : List (Change ρ)} (h : Keeps P cs) (loaded : ρ) :
    Keeps P (dirty loaded cs) :=
  fun c hc ↦ h c (List.mem_of_mem_filter hc)

variable [Touched ρ] {now : Time} {loaded : ρ} {cs : List (Change ρ)} {β : Type}

theorem updateOf_eq_ok {a : Assign ρ} (h : updateOf now loaded cs = .ok a) :
    ∃ as, assignments (dirty loaded cs) = .ok as ∧ a = Assign.seq (as ++ [touch now]) := by
  rw [updateOf] at h
  rcases has : assignments (dirty loaded cs) with e | as
  · rw [has] at h; cases h
  · rw [has] at h; cases h; exact ⟨as, rfl, rfl⟩

/-- A flush keeps what its changes and the time stamp keep. -/
theorem saved_keeps {P : ρ → Prop} (hcs : Keeps P cs)
    (htouch : ∀ t r, P r → P ((touch t : Assign ρ).fn r)) {r : ρ} (hr : P r) :
    P ((saved now loaded cs).fn r) := by
  unfold saved
  split
  · exact hr
  split
  · next a ha =>
    obtain ⟨as, has, rfl⟩ := updateOf_eq_ok ha
    refine Assign.seq_keeps (fun b hb ↦ ?_) hr
    rcases List.mem_append.1 hb with hb | hb
    · exact assignments_keep (keeps_dirty hcs loaded) has b hb
    · rw [List.mem_singleton.1 hb]
      exact htouch now
  · exact hr

/-- A flush preserves whatever its changes and the time stamp have no part in. -/
theorem saved_preserves {f : ρ → β} (hcs : Preserves f cs)
    (htouch : ∀ t r, f ((touch t : Assign ρ).fn r) = f r) (r : ρ) :
    f ((saved now loaded cs).fn r) = f r :=
  saved_keeps (P := fun x ↦ f x = f r) (hcs.keeps (f r))
    (fun t x hx ↦ (htouch t x).trans hx) rfl

/-- All changed values can be encoded, or there are none. -/
def Flushes (now : Time) (loaded : ρ) (cs : List (Change ρ)) : Prop :=
  (dirty loaded cs).isEmpty = true ∨ ∃ a, updateOf now loaded cs = .ok a

omit [Touched ρ] in
theorem exists_assignments_iff (cs : List (Change ρ)) :
    (∃ as, assignments cs = .ok as) ↔ ∀ c ∈ cs, ∃ a, c.assign = .ok a := by
  induction cs with
  | nil => exact iff_of_true ⟨[], rfl⟩ fun _ hc ↦ absurd hc List.not_mem_nil
  | cons c cs ih =>
    simp only [assignments_cons_eq_ok, List.forall_mem_cons, ← ih]
    constructor
    · rintro ⟨_, a, as, ha, has, -⟩
      exact ⟨⟨a, ha⟩, as, has⟩
    · rintro ⟨⟨a, ha⟩, as, has⟩
      exact ⟨_, a, as, ha, has, rfl⟩

/-- A flush can be encoded if each changed value can. -/
theorem flushes_iff : Flushes now loaded cs ↔
    ∀ c ∈ cs, c.dirty loaded = true → ∃ a, c.assign = .ok a := by
  have hdirty : (∃ a, updateOf now loaded cs = .ok a) ↔
      ∀ c ∈ cs, c.dirty loaded = true → ∃ a, c.assign = .ok a := by
    have hmem := exists_assignments_iff (dirty loaded cs)
    simp only [dirty, List.mem_filter, and_imp] at hmem
    rw [← hmem, updateOf, dirty]
    rcases assignments (cs.filter fun c ↦ c.dirty loaded) with e | as <;> simp [Except.map]
  rw [Flushes, hdirty]
  refine or_iff_right_of_imp fun hclean c hc hd ↦ ?_
  have hc' : c ∈ dirty loaded cs := List.mem_filter.2 ⟨hc, hd⟩
  rw [List.isEmpty_iff.1 hclean] at hc'
  cases hc'

theorem flushes_append {ds : List (Change ρ)} :
    Flushes now loaded (cs ++ ds) ↔ Flushes now loaded cs ∧ Flushes now loaded ds := by
  simp only [flushes_iff, List.forall_mem_append]

/-- A field that was set can be written if its value can be encoded; a value that was loaded
can. -/
theorem flushes_patch {raw : Type} [Codec β raw] [DecidableEq raw] {c : Column ρ β}
    {fld : Field raw} : Flushes now loaded (c.patch fld) ↔
      (fld.isSet = true → ∃ b : β, encode fld.toOption = .ok b) := by
  have hassign : (∃ a, (c.assign fld.toOption).assign = .ok a) ↔
      ∃ b : β, encode fld.toOption = .ok b := by
    rw [Column.assign]
    rcases (encode fld.toOption : Except DbError β) with e | b <;> simp [Except.map]
  rw [flushes_iff, Column.patch]
  rcases fld.isSet with - | -
  · simp
  · simp only [if_true, List.mem_singleton, forall_eq, forall_const, hassign]
    refine ⟨fun h ↦ ?_, fun h _ ↦ h⟩
    by_cases hd : (c.assign fld.toOption).dirty loaded = true
    · exact h hd
    · have hsame : decode (c.get loaded) = fld.toOption := by
        simpa [Column.assign] using hd
      exact ⟨c.get loaded, by rw [← hsame, encode_decode]⟩

/-- The flush gets through: there is nothing to write, or it can be encoded, the row is still there
and its new version satisfies the constraints. -/
def Accepted [Relation ρ] (now : Time) (loaded : ρ) (cs : List (Change ρ)) (db : Db) :
    Prop :=
  (dirty loaded cs).isEmpty = true ∨ ∃ a r, updateOf now loaded cs = .ok a ∧
    (Relation.table db : Table ρ).find? (key loaded) = some r ∧
    checkChange db r (a.fn r) = .ok ()

theorem Accepted.flushes [Relation ρ] {db : Db} (h : Accepted now loaded cs db) :
    Flushes now loaded cs :=
  h.imp_right fun ⟨a, _, ha, _⟩ ↦ ⟨a, ha⟩

/-- The object with key `k` was loaded as `old`, and a flush of `cs` has left it as `new`. -/
structure Flushed [Relation ρ] (now : Time) (cs : List (Change ρ)) (db : Db) (k : UUID)
    (old new : ρ) : Prop where
  found : (Relation.table db : Table ρ).find? k = some old
  accepted : Accepted now old cs db
  new_eq : new = (saved now old cs).fn old

/-- The row that a `refresh` finds after a flush. -/
theorem Flushed.of_find? [Relation ρ] {db : Db} {k : UUID} {old new : ρ}
    (hold : (Relation.table db : Table ρ).find? k = some old) (hok : Accepted now old cs db)
    (hnew : ((Relation.table db : Table ρ).alter (key old) (saved now old cs)).find? k = some new) :
    Flushed now cs db k old new ∧ key old = k := by
  have hkey := Table.key_of_find? hold
  rw [hkey, Table.find?_alter_self hold] at hnew
  exact ⟨⟨hold, hok, (Option.some.inj hnew).symm⟩, hkey⟩

theorem Flushed.key_old [Relation ρ] {db : Db} {k : UUID} {old new : ρ}
    (h : Flushed now cs db k old new) : key old = k := Table.key_of_find? h.found

/-- The new row is in the table. -/
theorem Flushed.mem_new [Relation ρ] {db : Db} {k : UUID} {old new : ρ}
    (h : Flushed now cs db k old new) :
    new ∈ (Relation.table db : Table ρ).alter k (saved now old cs) :=
  Table.mem_alter.2 ⟨old, Table.mem_of_find? h.found, by rw [if_pos h.key_old, h.new_eq]⟩

/-- The row before and the row after. -/
theorem Flushed.exists_rows [Relation ρ] {db : Db} {k : UUID} {old new : ρ} {R : ρ → ρ → Prop}
    (h : Flushed now cs db k old new) (hR : R old new) :
    ∃ r ∈ (Relation.table db : Table ρ),
      ∃ r' ∈ (Relation.table db : Table ρ).alter k (saved now old cs),
        key r = k ∧ key r' = k ∧ R r r' := by
  have hkey : key new = k := by rw [h.new_eq, (saved now old cs).key_fn, h.key_old]
  exact ⟨old, Table.mem_of_find? h.found, new, h.mem_new, h.key_old, hkey, hR⟩

/-- The table after a flush differs in one row, which has become `new`. -/
theorem Flushed.evolves [Relation ρ] {db : Db} {k : UUID} {old new : ρ} {R : ρ → ρ → Prop}
    {N : ρ → Prop} (h : Flushed now cs db k old new) (hR : ∀ r, R r r) (hnew : R old new) :
    Table.Evolves R N (Relation.table db)
      ((Relation.table db : Table ρ).alter k (saved now old cs)) :=
  .alter hR h.found (h.new_eq ▸ hnew)

theorem Flushed.preserves [Relation ρ] {db : Db} {k : UUID} {old new : ρ} {f : ρ → β}
    (h : Flushed now cs db k old new) (hcs : Preserves f cs)
    (htouch : ∀ t r, f ((touch t : Assign ρ).fn r) = f r) : f new = f old := by
  rw [h.new_eq]
  exact saved_preserves hcs htouch old

theorem refuses_flush [Stored ρ] {env : Env} {db : Db} {P : Fault → Prop} (h : ∀ e, P (.db e)) :
    (flush env loaded cs).Refuses db P := by
  unfold flush
  split
  · exact Prog.refuses_ret
  · exact .bind (refuses_column h) fun _ _ ↦ refuses_exec h

/-- **A flush assigns `saved` to the row of the object, and to no other.** -/
theorem run_flush [Stored ρ] {env : Env} {loaded : ρ} {cs : List (Change ρ)} {db db' : Db}
    {u : Unit} : (flush env loaded cs).run db = .ok (u, db') ↔
      Accepted env.now loaded cs db ∧ db' = Relation.setTable db
        ((Relation.table db : Table ρ).alter (key loaded) (saved env.now loaded cs)) := by
  unfold flush Accepted
  split
  · next hclean =>
    rw [saved_of_clean hclean, Table.alter_none, Relation.setTable_table]
    simp [hclean, eq_comm]
  · next hdirty =>
    rcases ha : updateOf env.now loaded cs with e | a
    · simp [column, Except.mapError, Prog.liftExcept, hdirty]
    · rw [saved_of_updateOf hdirty ha]
      have hrun : ∀ w : Write, (Prog.exec w : Tx Unit).run db = .ok (u, db') ↔
          Store.apply w db = .ok db' := by
        intro w
        rw [Prog.exec, Prog.run_write]
        rcases Store.apply w db with e | s <;> simp
      simp only [column, Except.mapError, Prog.liftExcept, Prog.ret_bind, hrun, apply_update]
      simp [hdirty, exists_and_right, ← and_assoc]

theorem run_flush_ok [Stored ρ] {env : Env} {loaded : ρ} {cs : List (Change ρ)} {db : Db}
    (h : Accepted env.now loaded cs db) : (flush env loaded cs).run db =
      .ok ((), Relation.setTable db
        ((Relation.table db : Table ρ).alter (key loaded) (saved env.now loaded cs))) :=
  run_flush.2 ⟨h, rfl⟩

@[simp] theorem ensures_flush [Stored ρ] {env : Env} {loaded : ρ} {cs : List (Change ρ)}
    {db : Db} {Q : Unit → Db → Prop} :
    (flush env loaded cs).Ensures db Q ↔ (Accepted env.now loaded cs db → Q () (Relation.setTable db
      ((Relation.table db : Table ρ).alter (key loaded) (saved env.now loaded cs)))) := by
  constructor
  · exact fun h hok ↦ h () _ (run_flush.2 ⟨hok, rfl⟩)
  · intro h u db' hr
    obtain ⟨hok, rfl⟩ := run_flush.1 hr
    exact h hok

/-- A flush of one attribute: the row is as it was if the attribute had the value already. -/
theorem saved_one {c : Column ρ β} {x : Change ρ} {b : β} [Decidable (c.get loaded = b)]
    (ha : x.assign = .ok (c.put b)) (hx : x.dirty loaded = true ↔ c.get loaded ≠ b) :
    (saved now loaded [x]).fn loaded =
      if c.get loaded = b then loaded else (touch now : Assign ρ).fn (c.set b loaded) := by
  split
  · next h =>
    have hclean : x.dirty loaded = false := Bool.eq_false_iff.2 fun hd ↦ hx.1 hd h
    simp [saved, dirty, hclean]
  · next h =>
    simp [saved, dirty, hx.2 h, updateOf, assignments, ha, Except.bind, Except.map]

theorem saved_assign {raw : Type} [Codec β raw] [DecidableEq raw] {c : Column ρ β} {b : β}
    [Decidable (c.get loaded = b)] {v : Option raw} (hv : encode v = .ok b) (hb : decode b = v) :
    (saved now loaded [c.assign v]).fn loaded =
      if c.get loaded = b then loaded else (touch now : Assign ρ).fn (c.set b loaded) := by
  refine saved_one (by rw [Column.assign, hv]; rfl) ?_
  rw [Column.assign, decide_eq_true_eq, ← hb]
  refine not_congr ⟨fun h ↦ ?_, fun h ↦ by rw [h]⟩
  -- A stored value is determined by what is loaded from it.
  have hstored := encode_decode (c.get loaded)
  rw [h, encode_decode] at hstored
  exact (Except.ok.inj hstored).symm

theorem saved_assignText [TextEnum β] {c : Column ρ β} {b : β} [Decidable (c.get loaded = b)] :
    (saved now loaded [c.assignText (TextEnum.text b)]).fn loaded =
      if c.get loaded = b then loaded else (touch now : Assign ρ).fn (c.set b loaded) := by
  refine saved_one (by rw [Column.assignText, encodeText_eq_ok_iff.2 rfl]; rfl) ?_
  rw [Column.assignText, decide_eq_true_eq]
  exact not_congr ⟨fun h ↦ TextEnum.text_injective h, fun h ↦ by rw [h]⟩

/-- A text that gets through is the text of a value. -/
theorem Flushes.exists_text [TextEnum β] {c : Column ρ β} {s : String}
    (h : Flushes now loaded [c.assignText s]) : ∃ b : β, TextEnum.text b = s := by
  by_cases hs : TextEnum.text (c.get loaded) = s
  · exact ⟨_, hs⟩
  · have hdirty : dirty loaded [c.assignText s] = [c.assignText s] := by
      simp [dirty, Column.assignText, hs]
    rw [Flushes, updateOf, hdirty] at h
    obtain ⟨a, ha⟩ := h.resolve_left (by simp)
    rcases he : encodeText β s with e | b
    · simp [assignments, Column.assignText, he, Except.bind, Except.map] at ha
    · exact ⟨b, encodeText_eq_ok_iff.1 he⟩

/-- Each change assigns `v` to the column `c`, or leaves that column alone. -/
def Assigns {raw : Type} [Codec β raw] [DecidableEq raw] (c : Column ρ β) (v : Option raw)
    (cs : List (Change ρ)) : Prop :=
  ∀ x ∈ cs, x = c.assign v ∨ ∀ a, x.assign = .ok a → ∀ r, c.get (a.fn r) = c.get r

section Assigns

variable {raw : Type} [Codec β raw] [DecidableEq raw] {c : Column ρ β} {v : Option raw}

omit [Touched ρ] in
theorem Assigns.append {cs ds : List (Change ρ)} :
    Assigns c v (cs ++ ds) ↔ Assigns c v cs ∧ Assigns c v ds := by
  simp only [Assigns, List.mem_append]
  exact ⟨fun h ↦ ⟨fun x hx ↦ h x (Or.inl hx), fun x hx ↦ h x (Or.inr hx)⟩,
    fun h x hx ↦ hx.elim (h.1 x) (h.2 x)⟩

omit [Touched ρ] in
theorem Assigns.of_preserves {cs : List (Change ρ)} (h : Preserves c.get cs) : Assigns c v cs :=
  fun x hx ↦ Or.inr (h x hx)

omit [Touched ρ] in
theorem Assigns.self {fld : Field raw} : Assigns c fld.toOption (c.patch fld) := by
  intro x hx
  unfold Column.patch at hx
  split at hx
  · exact Or.inl (List.mem_singleton.1 hx)
  · cases hx

omit [Touched ρ] in
/-- If the value can be encoded as `b`, then `b` is what the column has in the end, provided that it
has it already or that one of the changes still assigns it. -/
theorem get_seq_of_assigns {cs : List (Change ρ)} {as : List (Assign ρ)} {b : β} {r : ρ}
    (hb : encode v = .ok b) (hcs : Assigns c v cs) (has : assignments cs = .ok as)
    (hr : c.get r = b ∨ c.assign v ∈ cs) : c.get ((Assign.seq as).fn r) = b := by
  induction cs generalizing as r with
  | nil =>
    cases has
    exact hr.resolve_right List.not_mem_nil
  | cons x cs ih =>
    obtain ⟨a, as', ha, has', rfl⟩ := assignments_cons_eq_ok.1 has
    rw [Assign.seq_cons_fn]
    refine ih (fun y hy ↦ hcs y (List.mem_cons_of_mem _ hy)) has' ?_
    have hassign : x = c.assign v → c.get (a.fn r) = b := by
      rintro rfl
      rw [Column.assign, hb] at ha
      cases ha
      exact c.get_set b r
    rcases hr with hr | hr
    · left
      rcases hcs x List.mem_cons_self with hx | hx
      · exact hassign hx
      · rw [hx a ha, hr]
    · rcases List.mem_cons.1 hr with hx | hmem
      · exact Or.inl (hassign hx.symm)
      · exact Or.inr hmem

/-- **What a flush stores for an attribute is the encoding of the value assigned to it**, whether or
not that differs from the value loaded. -/
theorem encode_eq_get_saved {cs : List (Change ρ)} (h : Flushes now loaded cs)
    (hmem : c.assign v ∈ cs) (hcs : Assigns c v cs)
    (htouch : ∀ t r, c.get ((touch t : Assign ρ).fn r) = c.get r) :
    encode v = .ok (c.get ((saved now loaded cs).fn loaded)) := by
  -- An attribute that has not changed has the value of the row.
  have hclean : c.assign v ∉ dirty loaded cs → encode v = .ok (c.get loaded) := by
    intro hnot
    have hsame : ¬(c.assign v).dirty loaded = true := fun hd ↦ hnot (List.mem_filter.2 ⟨hmem, hd⟩)
    have hv : decode (c.get loaded) = v := by
      simpa [Column.assign] using hsame
    rw [← hv, encode_decode]
  by_cases hd : (dirty loaded cs).isEmpty = true
  · rw [saved_of_clean hd]
    refine hclean ?_
    rw [List.isEmpty_iff.1 hd]
    exact List.not_mem_nil
  · obtain ⟨a, ha⟩ := h.resolve_left hd
    obtain ⟨as, has, rfl⟩ := updateOf_eq_ok ha
    rw [saved_of_updateOf hd ha, Assign.seq_append_fn, Assign.seq_cons_fn, Assign.seq_nil_fn,
      htouch]
    have hdirty : Assigns c v (dirty loaded cs) := fun x hx ↦ hcs x (List.mem_of_mem_filter hx)
    by_cases hx : c.assign v ∈ dirty loaded cs
    · obtain ⟨a, ha⟩ := assign_of_assignments has hx
      rcases hv : encode v with e | b
      · rw [Column.assign, hv] at ha
        cases ha
      · rw [get_seq_of_assigns hv hdirty has (Or.inr hx)]
    · have hv := hclean hx
      rw [get_seq_of_assigns hv hdirty has (Or.inl rfl)]
      exact hv

/-- The same for a field of a partial update that was set. -/
theorem encode_eq_get_of_patch {fld : Field raw} {cs : List (Change ρ)}
    (h : Flushes now loaded cs) (hset : fld.isSet = true) (hmem : ∀ x ∈ c.patch fld, x ∈ cs)
    (hcs : Assigns c fld.toOption cs)
    (htouch : ∀ t r, c.get ((touch t : Assign ρ).fn r) = c.get r) :
    encode fld.toOption = .ok (c.get ((saved now loaded cs).fn loaded)) := by
  refine encode_eq_get_saved h (hmem _ ?_) hcs htouch
  rw [Column.patch, if_pos hset]
  exact List.mem_singleton_self _

/-- The list contains the patch of a field, and its other changes leave the column alone. -/
structure Patches (c : Column ρ β) (fld : Field raw) (cs : List (Change ρ)) : Prop where
  contains : ∀ x ∈ c.patch fld, x ∈ cs
  spares : ∀ x ∈ cs, x ∈ c.patch fld ∨ ∀ a, x.assign = .ok a → ∀ r, c.get (a.fn r) = c.get r

section Patches

variable {fld : Field raw} {cs ds : List (Change ρ)}

omit [Touched ρ] in
theorem Patches.self : Patches c fld (c.patch fld) := ⟨fun _ ↦ id, fun _ ↦ Or.inl⟩

omit [Touched ρ] in
theorem Patches.left (h : Patches c fld cs) (hds : Preserves c.get ds) :
    Patches c fld (cs ++ ds) := by
  refine ⟨fun x hx ↦ List.mem_append_left _ (h.contains x hx), fun x hx ↦ ?_⟩
  exact (List.mem_append.1 hx).elim (h.spares x) fun hx ↦ Or.inr (hds x hx)

omit [Touched ρ] in
theorem Patches.right (h : Patches c fld ds) (hcs : Preserves c.get cs) :
    Patches c fld (cs ++ ds) := by
  refine ⟨fun x hx ↦ List.mem_append_right _ (h.contains x hx), fun x hx ↦ ?_⟩
  exact (List.mem_append.1 hx).elim (fun hx ↦ Or.inr (hcs x hx)) (h.spares x)

/-- **What a partial update leaves in a column** is the value that the field puts onto the one that
was loaded. -/
theorem encode_onto_of_patches (h : Flushes now loaded cs) (hp : Patches c fld cs)
    (htouch : ∀ t r, c.get ((touch t : Assign ρ).fn r) = c.get r) :
    encode (fld.onto (decode (c.get loaded))) = .ok (c.get ((saved now loaded cs).fn loaded)) := by
  rcases hset : fld.isSet with - | -
  · have hunset : fld = .unset := by
      cases fld with
      | unset => rfl
      | null | val v => cases hset
    subst hunset
    have hcs : Preserves c.get cs := fun x hx ↦
      (hp.spares x hx).resolve_left fun hx ↦ (nomatch hx)
    rw [saved_preserves hcs htouch]
    exact encode_decode _
  · have hassigns : Assigns c fld.toOption cs := by
      intro x hx
      refine (hp.spares x hx).imp_left fun hx ↦ ?_
      rw [Column.patch, if_pos hset] at hx
      exact List.mem_singleton.1 hx
    have honto : fld.onto (decode (c.get loaded)) = fld.toOption := by
      cases fld with
      | unset => cases hset
      | null | val v => rfl
    rw [honto]
    exact encode_eq_get_of_patch h hset hp.contains hassigns htouch

end Patches

end Assigns

omit [Touched ρ] in
/-- The row-by-row execution of a bulk update, on the rows whose keys are listed. -/
theorem run_updateIfs [Stored ρ] {p : ρ → Bool} {a : Assign ρ}
    (ha : ∀ r, Relation.sameKeys r (a.fn r) = true) {ks : List UUID} (hks : ks.Nodup) (db : Db) :
    (Prog.execAll (ks.map fun k ↦ Stored.wrap (.updateIf k p a)) : Tx Unit).run db =
      .ok ((), Relation.setTable db
        ((Relation.table db : Table ρ).alterWhere (fun r ↦ decide (key r ∈ ks) && p r) a)) := by
  induction ks generalizing db with
  | nil =>
    rw [Table.alterWhere_of_forall_not (fun r _ ↦ by simp), Relation.setTable_table]
    rfl
  | cons k ks ih =>
    obtain ⟨hk, hks⟩ := List.nodup_cons.1 hks
    have hw : Store.apply (Stored.wrap (.updateIf k p a)) db =
        .ok (Relation.setTable db ((Relation.table db : Table ρ).alterWhere
          (fun r ↦ decide (key r = k) && p r) a)) := by
      rw [apply_eq_ok_iff, Stored.perform_wrap, TableOp.perform_updateIf ha]
    rw [List.map_cons, Prog.execAll, Prog.run_write_ok hw, ih hks, Relation.table_setTable,
      Relation.setTable_setTable]
    congr 3
    refine Table.ext ?_
    simp only [Table.rows_alterWhere, List.map_map]
    refine List.map_congr_left fun r _ ↦ ?_
    by_cases hr : key r = k
    · rcases hp : p r with - | -
      · simp [hr, hp]
      · simp [hr, hp, a.key_fn, hk]
    · rcases hp : p r with - | - <;> simp [hr, hp]

omit [Touched ρ] in
/-- **A bulk update alters every row that satisfies its condition.** -/
theorem run_updateWhere [Stored ρ] {p : ρ → Bool} {a : Assign ρ}
    (ha : ∀ r, Relation.sameKeys r (a.fn r) = true) (db : Db) :
    (updateWhere p a).run db =
      .ok ((), Relation.setTable db ((Relation.table db : Table ρ).alterWhere p a)) := by
  have hnodup : (((Relation.table db : Table ρ).rows.filter p).map key).Nodup :=
    (Relation.table db : Table ρ).keys_nodup.sublist (List.filter_sublist.map key)
  have hwhere : ∀ r ∈ (Relation.table db : Table ρ),
      (decide (key r ∈ ((Relation.table db : Table ρ).rows.filter p).map key) && p r) = p r := by
    intro r hr
    rcases hp : p r with - | -
    · rw [Bool.and_false]
    · rw [Bool.and_true, decide_eq_true_eq]
      exact List.mem_map_of_mem (List.mem_filter.2 ⟨hr, hp⟩)
  rw [updateWhere, Prog.run_bind_ok (Prog.run_query _ db), run_updateIfs ha hnodup,
    Table.alterWhere_congr hwhere]

omit [Touched ρ] in
theorem ensures_updateWhere [Stored ρ] {p : ρ → Bool} {a : Assign ρ}
    (ha : ∀ r, Relation.sameKeys r (a.fn r) = true) {db : Db} {Q : Unit → Db → Prop} :
    (updateWhere p a).Ensures db Q ↔
      Q () (Relation.setTable db ((Relation.table db : Table ρ).alterWhere p a)) := by
  have hrun := run_updateWhere (p := p) ha db
  exact ⟨fun h ↦ h () _ hrun, fun h u db' hr ↦ by rw [hrun] at hr; cases hr; exact h⟩

end Specs

end Session

end ZanovixCrm
