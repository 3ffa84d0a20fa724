import ZanovixCrm.Database.Declarations
import ZanovixCrm.Database.Migrations
import ZanovixCrm.Services.ActivityLogService

/-!
# Schema agreement

There are two ways to build the schema: the models declare it, and the migrations arrive at it. Both
end in a catalogue, and the tables of the two have the same rules, in whatever order and by whatever
constraint or index they are stated. The one exception is the kind of an activity entry. The last
migration of the constraint let in the four kinds of the client portal, and the model was left as it
was. So **the two schemas let in the same rows, except for entries of the new kinds**, which only
the migrated one takes (`schemas_agree_iff`).
-/

namespace ZanovixCrm

open Ddl Declarations Migrations

/-! ### The tables but one -/

/-- **All other tables correspond.** -/
theorem admits_of_ne {t : String} (ht : t ≠ "activity_log") (rows : List (Row String))
    (r : Row String) : declared.admits t rows r = migrated.admits t rows r := by
  have hto : (declared.all fun d ↦ decide (d.name = "activity_log") ||
      (migrated.table? d.name).any d.sameRules) = true := by decide +kernel
  have hfrom : (migrated.all fun d ↦ (declared.table? d.name).isSome) = true := by decide +kernel
  refine Catalogue.admits_congr (fun d hd ↦ ?_) (fun h ↦ ?_) rows r
  · obtain ⟨hmem, rfl⟩ := Catalogue.mem_of_table? hd
    exact (Bool.or_eq_true_iff.1 (List.all_eq_true.1 hto d hmem)).resolve_left
      fun h ↦ ht (of_decide_eq_true h)
  · obtain ⟨d, hd⟩ := Option.isSome_iff_exists.1 h
    obtain ⟨hmem, rfl⟩ := Catalogue.mem_of_table? hd
    exact List.all_eq_true.1 hfrom d hmem

/-! ### Activity entries -/

/-- What both schemas ask of an entry: everything but the kind's being one of a list. -/
def entryRules : List (Rule String) :=
  [.typed "id" .uuid, .notNull "id", .unique ["id"], .typed "created_at" .timestamptz,
    .notNull "created_at", .typed "client_id" .uuid, .notNull "client_id",
    .typed "kind" (.varchar 64), .notNull "kind", .typed "actor_user_id" .uuid,
    .typed "body" .text, .notNull "body"]

/-- An entry that is otherwise in order. -/
def isEntry (rows : List (Row String)) (r : Row String) : Bool :=
  entryRules.all fun rule ↦ rule.admits rows r

/-- The rules of the table are these, and that the kind is one of a list. -/
def statesEntry (kinds : List String) (d : TableDef String) : Bool :=
  decide (d.rules ⊆ .check (.isIn "kind" kinds) :: entryRules ∧
    .check (.isIn "kind" kinds) :: entryRules ⊆ d.rules)

section Entries

variable {rows : List (Row String)} {r : Row String}

theorem admits_entry {cat : Catalogue String} {kinds : List String}
    (h : (cat.table? "activity_log").any (statesEntry kinds) = true) :
    cat.admits "activity_log" rows r =
      ((Condition.isIn "kind" kinds).holds r && isEntry rows r) := by
  obtain ⟨d, hd, hrules⟩ := (Option.any_eq_true _ _).1 h
  obtain ⟨hto, hfrom⟩ := of_decide_eq_true hrules
  have hcons : ((Condition.isIn "kind" kinds).holds r && isEntry rows r) = true ↔
      ∀ rule ∈ .check (.isIn "kind" kinds) :: entryRules, rule.admits rows r = true := by
    rw [List.forall_mem_cons, Bool.and_eq_true, isEntry, List.all_eq_true]
    exact Iff.rfl
  rw [Catalogue.admits, hd, Option.any_some, TableDef.admits, Bool.eq_iff_iff, List.all_eq_true,
    hcons]
  exact ⟨fun h rule hrule ↦ h rule (hfrom hrule), fun h rule hrule ↦ h rule (hto hrule)⟩

/-- **The model knows the kinds that the first migration knew.** -/
theorem admits_entry_declared (rows : List (Row String)) (r : Row String) :
    declared.admits "activity_log" rows r =
      ((Condition.isIn "kind" priorKinds).holds r && isEntry rows r) :=
  admits_entry (by decide +kernel)

theorem admits_entry_migrated (rows : List (Row String)) (r : Row String) :
    migrated.admits "activity_log" rows r =
      ((Condition.isIn "kind" extendedKinds).holds r && isEntry rows r) :=
  admits_entry (by decide +kernel)

/-- The kind of an entry is a text. -/
theorem exists_kind (h : isEntry rows r = true) : ∃ s, r "kind" = .text s := by
  have hrule : ∀ rule ∈ entryRules, rule.admits rows r = true := List.all_eq_true.1 h
  have htyped : (ColumnType.varchar 64).admits (r "kind") = true :=
    hrule (.typed "kind" (.varchar 64)) (by decide)
  have hnull : r "kind" ≠ .null := of_decide_eq_true (hrule (.notNull "kind") (by decide))
  rcases hkind : r "kind" with - | k | s | n | b | t | d | j
  case text => exact ⟨s, rfl⟩
  all_goals
    rw [hkind] at htyped hnull
    first | exact absurd rfl hnull | cases htyped

end Entries

/-- The cells of an entry. -/
def entryRow (a : ActivityLog) : Row String := fun c ↦
  if c = "id" then .uuid a.id
  else if c = "created_at" then .time a.createdAt
  else if c = "client_id" then .uuid a.clientId
  else if c = "kind" then .text (TextEnum.text a.kind)
  else if c = "actor_user_id" then a.actorUserId.elim .null .uuid
  else if c = "body" then .text a.body.val
  else .null

/-- The texts of the kinds fit into their column. -/
theorem length_kind (kind : ActivityKind) : (TextEnum.text kind).length ≤ 64 := by
  have hall : (TextEnum.values.all fun k : ActivityKind ↦
    decide ((TextEnum.text k).length ≤ 64)) = true := by decide
  exact of_decide_eq_true (List.all_eq_true.1 hall kind (TextEnum.mem_values kind))

/-- An entry under a new key is in order. -/
theorem isEntry_entryRow {rows : List (Row String)} {a : ActivityLog}
    (hfresh : ∀ x ∈ rows, x "id" ≠ .uuid a.id) : isEntry rows (entryRow a) = true := by
  have hunique : (Rule.unique ["id"]).admits rows (entryRow a) = true := by
    refine List.all_eq_true.2 fun x hx ↦ ?_
    have hne : ¬Value.uuid a.id = x "id" := fun h ↦ hfresh x hx h.symm
    simp [clash, entryRow, hne]
  have hactor : ColumnType.uuid.admits (a.actorUserId.elim .null .uuid) = true := by
    cases a.actorUserId <;> rfl
  have hkind : (ColumnType.varchar 64).admits (.text (TextEnum.text a.kind)) = true :=
    decide_eq_true (length_kind a.kind)
  have hrules : ∀ rule ∈ entryRules, rule.admits rows (entryRow a) = true := by
    simp only [entryRules, List.forall_mem_cons]
    exact ⟨rfl, rfl, hunique, rfl, rfl, rfl, rfl, hkind, rfl, hactor, rfl, rfl, fun _ h ↦ nomatch h⟩
  exact List.all_eq_true.2 hrules

section Agreement

variable {rows : List (Row String)} {r : Row String}

/-- A kind that is in only one of the two lists. -/
theorem holds_kind_iff {s : String} (hr : r "kind" = .text s) :
    ((Condition.isIn "kind" priorKinds).holds r = (Condition.isIn "kind" extendedKinds).holds r) ↔
      s ∉ newKinds := by
  have hdisjoint : ∀ k ∈ newKinds, k ∉ priorKinds := by decide
  have hholds : ∀ kinds, (Condition.isIn "kind" kinds).holds r = kinds.contains s := by
    intro kinds
    rw [Condition.holds, hr]
  rw [hholds, hholds, Bool.eq_iff_iff, List.contains_iff_mem, List.contains_iff_mem, extendedKinds,
    List.mem_append]
  constructor
  · exact fun h hnew ↦ hdisjoint s hnew (h.2 (Or.inr hnew))
  · exact fun hnew ↦ (or_iff_left hnew).symm

/-- **The two schemas agree on a row** unless it is an entry of a new kind that is in order. -/
theorem admits_eq_iff (t : String) (rows : List (Row String)) (r : Row String) :
    declared.admits t rows r = migrated.admits t rows r ↔
      ¬(t = "activity_log" ∧ isEntry rows r = true ∧ ∃ k ∈ newKinds, r "kind" = .text k) := by
  by_cases ht : t = "activity_log"
  · subst ht
    rw [admits_entry_declared, admits_entry_migrated]
    rcases hentry : isEntry rows r with - | -
    · simp
    · obtain ⟨s, hs⟩ := exists_kind hentry
      simp only [Bool.and_true, holds_kind_iff hs, hs, Value.text.injEq, true_and]
      simp
  · exact iff_of_true (admits_of_ne ht rows r) fun h ↦ ht h.1

/-- The migrated schema lets in every entry that `append_activity` builds, and the declared one
those of the kinds it knows. -/
theorem admits_row {env : Env} {id clientId actor : UUID} {kind : ActivityKind} {body : String}
    {a : ActivityLog} (hrow : ActivityLogService.row env id clientId kind body actor = .ok a)
    (hfresh : ∀ x ∈ rows, x "id" ≠ .uuid id) :
    migrated.admits "activity_log" rows (entryRow a) = true ∧
      (declared.admits "activity_log" rows (entryRow a) = true ↔
        TextEnum.text kind ∉ newKinds) := by
  obtain ⟨hid, -, -⟩ := ActivityLogService.row_spec hrow
  have hkind : entryRow a "kind" = .text (TextEnum.text kind) := by
    simp only [ActivityLogService.row, bind_eq_ok_iff, pure_eq_ok_iff] at hrow
    obtain ⟨text, -, rfl⟩ := hrow
    rfl
  have hentry : isEntry rows (entryRow a) = true := isEntry_entryRow (hid ▸ hfresh)
  have hall : (TextEnum.values.all fun k : ActivityKind ↦
    extendedKinds.contains (TextEnum.text k)) = true := by decide
  have hextended : (Condition.isIn "kind" extendedKinds).holds (entryRow a) = true := by
    rw [Condition.holds, hkind]
    exact List.all_eq_true.1 hall kind (TextEnum.mem_values kind)
  have hmigrated : migrated.admits "activity_log" rows (entryRow a) = true := by
    rw [admits_entry_migrated, hextended, hentry]
    rfl
  refine ⟨hmigrated, ?_⟩
  rw [admits_entry_declared, hentry, Bool.and_true, ← holds_kind_iff hkind, hextended]

/-- **The two schemas let in the same rows**, except for entries of the new kinds; of the entries
that `append_activity` builds, the migrated schema lets in all and the declared one those of the
other kinds. -/
theorem schemas_agree_iff (rows : List (Row String)) :
    (∀ (t : String) (r : Row String),
      declared.admits t rows r = migrated.admits t rows r ↔
        ¬(t = "activity_log" ∧ isEntry rows r = true ∧ ∃ k ∈ newKinds, r "kind" = .text k)) ∧
    ∀ (env : Env) (id clientId actor : UUID) (kind : ActivityKind) (body : String)
      (a : ActivityLog),
      ActivityLogService.row env id clientId kind body actor = .ok a →
      (∀ x ∈ rows, x "id" ≠ .uuid id) →
      migrated.admits "activity_log" rows (entryRow a) = true ∧
        (declared.admits "activity_log" rows (entryRow a) = true ↔
          TextEnum.text kind ∉ newKinds) :=
  ⟨fun t r ↦ admits_eq_iff t rows r, fun _ _ _ _ _ _ _ hrow hfresh ↦ admits_row hrow hfresh⟩

/-- Both let in a note. -/
theorem schemas_agree_note : ∃ a, ActivityLogService.row (.sample 10) 1 2 .note "Called" 3 = .ok a ∧
    migrated.admits "activity_log" [] (entryRow a) = true ∧
    declared.admits "activity_log" [] (entryRow a) = true := by
  have hrow : ActivityLogService.row (.sample 10) 1 2 .note "Called" 3 = .ok
      ⟨1, (Env.sample 10).now, 2, .note, some 3, .lit "Called"⟩ := by decide +kernel
  obtain ⟨hmigrated, hdeclared⟩ :=
    (schemas_agree_iff []).2 _ _ _ _ _ _ _ hrow fun _ h ↦ nomatch h
  exact ⟨_, hrow, hmigrated, hdeclared.2 (by decide)⟩

/-- **The entry of a new ticket is let in by one schema only**: a table that `create_all` installed
refuses it. -/
theorem ticket_entry_refused : ∃ a,
    ActivityLogService.row (.sample 10) 1 2 .ticketOpened "Ticket opened" 3 = .ok a ∧
    migrated.admits "activity_log" [] (entryRow a) = true ∧
    declared.admits "activity_log" [] (entryRow a) = false :=
  ⟨⟨1, (Env.sample 10).now, 2, .ticketOpened, some 3, .lit "Ticket opened"⟩, by decide +kernel,
    by decide +kernel, by decide +kernel⟩

end Agreement

end ZanovixCrm
