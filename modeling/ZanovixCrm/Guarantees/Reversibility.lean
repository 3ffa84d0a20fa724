import ZanovixCrm.Database.Migrations

/-!
# Reversibility

Each migration can be taken back and made again, on whatever rows the schema of its revision allows,
with two exceptions. A downgrade that narrows a `CHECK` constraint is refused by a row that needs
the wider one: an entry of a kind that slice 5 added, or a user in the role of the client portal.
**A round trip succeeds, and keeps every value of the tables and columns that exist at both
revisions, exactly if there is no such row** (`round_trips_iff`).

What the scripts do to the catalogue does not depend on the rows, and is computed; so is that no
script touches what exists at both ends. The rows have a say in four statements only: the two
constraints that become narrower, and the two references that the upgrades add to columns in which
every value is null.
-/

namespace ZanovixCrm.Migrations

open Ddl

/-- A row that the downgrade of a revision cannot keep. -/
def Revision.blocked (d : Content String) : Revision → Bool
  | .activityKinds => (d "activity_log").any fun r ↦
    newKinds.any fun s ↦ decide (r "kind" = .text s)
  | .clientPortalAuth => (d "users").any fun r ↦
    ["client_user"].any fun s ↦ decide (r "role" = .text s)
  | _ => false

/-! ### The catalogue -/

/-- **What can be computed of a round trip**: the catalogue permits the downgrade, and the upgrade
after it, and neither touches what exists at both revisions. -/
theorem computed_roundTrip (r : Revision) : permittedAll r.downgrade r.schema = true ∧
    permittedAll r.upgrade (alterAll r.downgrade r.schema) = true ∧
    sparesCommon r.downgrade r.upgrade r.schema = true := by
  have hall : (Revision.all.all fun r ↦ permittedAll r.downgrade r.schema &&
    (permittedAll r.upgrade (alterAll r.downgrade r.schema) &&
      sparesCommon r.downgrade r.upgrade r.schema)) = true := by decide +kernel
  have hmem : r ∈ Revision.all := by cases r <;> decide
  have hr := List.all_eq_true.1 hall r hmem
  rwa [Bool.and_eq_true, Bool.and_eq_true] at hr

/-! ### The rows -/

section Rows

variable {d : Content String}

/-- A narrower constraint holds of the rows that need none of the values that it leaves out. -/
theorem holdsIn_narrower {c : String} {values more : List String} {rows : List (Row String)}
    (hdisjoint : ∀ s ∈ more, s ∉ values)
    (h : (Rule.check (.isIn c (values ++ more))).holdsIn rows = true) :
    (Rule.check (.isIn c values)).holdsIn rows =
      !rows.any fun r ↦ more.any fun s ↦ decide (r c = .text s) := by
  rw [Rule.holdsIn_check, List.all_eq_true] at h
  rw [Rule.holdsIn_check, List.not_any_eq_all_not, Bool.eq_iff_iff, List.all_eq_true,
    List.all_eq_true]
  exact forall₂_congr fun r hr ↦ by rw [Condition.holds_isIn_append hdisjoint (h r hr)]

/-- The rows accept a `CHECK` constraint if it holds of them. -/
theorem accepts_check (d : Content String) (name t : String) (c : Condition String) :
    (Op.addConstraint name t (.check c)).accepts d = (Rule.check c).holdsIn (d t) := by
  simp [Op.accepts, Constraint.holdsIn, Constraint.rules, Constraint.refersIn]

/-- A column that was added or dropped is null in every row, so a reference in it is to nothing. -/
theorem accepts_foreignKey (d : Content String) (name t c t' : String) (refs : List String)
    (o : OnDelete) (rows : List (Row String)) :
    (Op.addConstraint name t (.foreignKey [c] t' refs o)).accepts
      (Function.update d t (rows.map fun r ↦ Function.update r c .null)) = true := by
  simp [Op.accepts, Constraint.holdsIn, Constraint.rules, Constraint.refersIn]

/-- A `CHECK` constraint on another column. -/
theorem holdsIn_check_update {c c' : String} (values : List String) (rows : List (Row String))
    (hne : c ≠ c') :
    (Rule.check (.isIn c values)).holdsIn (rows.map fun r ↦ Function.update r c' .null) =
      (Rule.check (.isIn c values)).holdsIn rows := by
  simp only [Rule.holdsIn_check, List.all_map, Function.comp_def, Condition.holds,
    Function.update_of_ne hne]

/-- The kinds that the schema allows after the last change of the constraint. -/
theorem holdsIn_kinds (hd : Revision.activityKinds.schema.holdsIn d = true) :
    (Rule.check (.isIn "kind" extendedKinds)).holdsIn (d "activity_log") = true :=
  Catalogue.rule_holdsIn hd (by decide +kernel)

/-- The roles that the schema allows with the client portal. -/
theorem holdsIn_roles (hd : Revision.clientPortalAuth.schema.holdsIn d = true) :
    (Rule.check (.isIn "role" extendedRoles)).holdsIn (d "users") = true :=
  Catalogue.rule_holdsIn hd (by decide +kernel)

/-- **The rows accept a downgrade** unless one of them needs what it takes away. -/
theorem acceptsAll_downgrade {r : Revision} (hd : r.schema.holdsIn d = true) :
    acceptsAll r.downgrade d = !r.blocked d := by
  cases r with
  | activityKinds =>
    simp only [Revision.downgrade, acceptsAll, accepts_check]
    show (true && ((Rule.check _).holdsIn (d "activity_log") && true)) = _
    rw [Bool.true_and, Bool.and_true]
    exact holdsIn_narrower (by decide) (holdsIn_kinds hd)
  | clientPortalAuth =>
    simp only [Revision.downgrade, acceptsAll, accepts_check]
    show (true && (true && (true && (true && ((Rule.check _).holdsIn
      (Function.update d "users" ((d "users").map fun r ↦ Function.update r "client_id" .null)
        "users") && true))))) = _
    rw [Function.update_self, holdsIn_check_update _ _ (by decide)]
    simp only [Bool.true_and, Bool.and_true]
    exact holdsIn_narrower (by decide) (holdsIn_roles hd)
  | _ => rfl

/-- **The rows accept the upgrade** that follows: the wider constraint held of them before. -/
theorem acceptsAll_upgrade {r : Revision} (hd : r.schema.holdsIn d = true) :
    acceptsAll r.upgrade (storeAll r.downgrade d) = true := by
  cases r with
  | activityKinds =>
    simp only [Revision.upgrade, acceptsAll, accepts_check]
    show (true && ((Rule.check _).holdsIn (d "activity_log") && true)) = _
    rw [Bool.true_and, Bool.and_true]
    exact holdsIn_kinds hd
  | clientPortalAuth =>
    have hrows : storeAll Revision.clientPortalAuth.downgrade d "users" =
        (d "users").map fun r ↦ Function.update r "client_id" .null := by
      show Function.update d "users" ((d "users").map fun r ↦ Function.update r "client_id" .null)
        "users" = _
      rw [Function.update_self]
    simp only [Revision.upgrade, acceptsAll, accepts_check]
    generalize storeAll Revision.clientPortalAuth.downgrade d = kept at hrows
    have hrole : (Rule.check (.isIn "role" extendedRoles)).holdsIn (kept "users") = true := by
      rw [hrows, holdsIn_check_update _ _ (by decide), holdsIn_roles hd]
    have hclient := accepts_foreignKey kept "fk_users_client_id" "users" "client_id" "clients"
      ["id"] .setNull (kept "users")
    show (true && ((Rule.check _).holdsIn (kept "users") &&
      (true && (Op.accepts _ _ && _)))) = true
    simp only [hrole, Bool.true_and, Bool.and_eq_true]
    exact ⟨hclient, rfl, trivial⟩
  | crmCoreDomain =>
    -- The tables are new, so only the reference of the leads is stated on rows.
    simp only [Revision.upgrade, acceptsAll, Bool.and_eq_true]
    exact ⟨rfl, rfl, rfl, rfl, rfl, rfl, rfl, rfl, rfl, rfl, rfl, rfl, rfl, rfl,
      accepts_foreignKey .., trivial⟩
  | _ => rfl

end Rows

/-- **A downgrade and the upgrade after it succeed**, and keep every value of what exists at both
revisions, exactly if there is no row that the downgrade cannot keep. -/
theorem round_trips_iff (r : Revision) (d : Content String) (hd : r.schema.holdsIn d = true) :
    RoundTrips r.downgrade r.upgrade ⟨r.schema, d⟩ ↔ r.blocked d = false := by
  obtain ⟨hdown, hup, hspares⟩ := computed_roundTrip r
  rw [roundTrips_iff hdown hup hspares, acceptsAll_downgrade hd, Bool.not_eq_true',
    and_iff_left_of_imp]
  exact fun _ ↦ acceptsAll_upgrade hd

/-- A client with an activity entry of a kind. -/
def oneEntry (kind : String) : Content String
  | "clients" => [fun
    | "id" => .uuid 20
    | "created_at" | "updated_at" | "entered_at" => .time 0
    | "name" => .text "Acme"
    | "stage" => .text "active"
    | _ => .null]
  | "activity_log" => [fun
    | "id" => .uuid 40
    | "created_at" => .time 0
    | "client_id" => .uuid 20
    | "kind" => .text kind
    | "body" => .text "Ticket opened: Printer"
    | _ => .null]
  | _ => []

/-- The downgrade keeps a note. -/
theorem round_trips_note :
    RoundTrips Revision.activityKinds.downgrade Revision.activityKinds.upgrade
      ⟨Revision.activityKinds.schema, oneEntry "note"⟩ :=
  (round_trips_iff .activityKinds (oneEntry "note") (by decide +kernel)).2 (by decide +kernel)

/-- **The entry of a ticket stops the downgrade**, although the schema allows it. -/
theorem ticket_entry_stops_downgrade :
    Revision.activityKinds.schema.holdsIn (oneEntry "ticket_opened") = true ∧
      run Revision.activityKinds.downgrade
        ⟨Revision.activityKinds.schema, oneEntry "ticket_opened"⟩ = none ∧
      ¬RoundTrips Revision.activityKinds.downgrade Revision.activityKinds.upgrade
        ⟨Revision.activityKinds.schema, oneEntry "ticket_opened"⟩ := by
  have hnone : run Revision.activityKinds.downgrade
      ⟨Revision.activityKinds.schema, oneEntry "ticket_opened"⟩ = none :=
    Option.isNone_iff_eq_none.1 (by decide +kernel)
  refine ⟨by decide +kernel, hnone, ?_⟩
  rintro ⟨s₁, s₂, hrun, -⟩
  rw [hnone] at hrun
  cases hrun

end ZanovixCrm.Migrations
