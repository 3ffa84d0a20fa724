import Mathlib.Algebra.Group.Int.Defs
import Mathlib.Data.List.Nodup
import ZanovixCrm.Library.PythonText

/-!
# Column types

The types that the columns of the schema range over. A stored value carries the proof that its
column accepts it: a `Varchar 200` is at most 200 characters long, a `PgInt 32` is in range, a
column under a `CHECK … IN (…)` is an inductive type with one constructor for each text. So a row
that violates a value-level constraint cannot be built, and the place where PostgreSQL would refuse
a value is the partial function that builds one (`Varchar.store?`, `PgInt.store?`,
`TextEnum.ofText?`).

The enumerations are those of the migrated schema; the values and their spelling are the ones the
`CHECK` constraints list, in that order.

An instant that a request sets goes into its column through `datetime`, which knows the years 1 to
9999 only; `Timestamptz` has exactly the values that get there. The instants that the server itself
takes from its clock (`Time`) are not bounded here. A text under a schema that checks its length is
a `String`: the check refuses what cannot be encoded in UTF-8. Only the body of a ticket is not
checked at all (`FreeText`).

Left out: how PostgreSQL lays values out, collations, and the precision of JSON numbers, which
nothing in the code depends on.
-/

namespace ZanovixCrm

/-- A primary key. -/
abbrev UUID := ℕ

/-- An instant, in microseconds since the epoch. -/
abbrev Time := ℤ

/-- A calendar day, in days since the epoch. -/
abbrev Date := ℤ

/-! ### Text -/

/-- A value of `character varying(n)`, or of `text` when there is no bound. PostgreSQL stores no
NUL character in either. -/
structure Varchar (bound : Option ℕ) where
  /-- The characters. -/
  val : String
  /-- The length is within the bound. -/
  fits : ∀ n ∈ bound, val.length ≤ n
  /-- No NUL. -/
  noNul : Char.ofNat 0 ∉ val.toList
deriving DecidableEq

/-- A value of `text`. -/
abbrev Text := Varchar none

/-- A text that PostgreSQL can hold: it has no NUL. -/
def nulFree (s : String) : Bool := !s.toList.contains (Char.ofNat 0)

/-- A text that a column of the given length takes: what is too long consists of spaces. -/
def fitsIn (n : ℕ) (s : String) : Bool := nulFree s && (s.toList.drop n).all (· == ' ')

namespace Varchar

variable {bound : Option ℕ}

@[ext] theorem ext {a b : Varchar bound} (h : a.val = b.val) : a = b := by
  cases a; cases b; cases h; rfl

/-- The string as a value of the column, unless it is too long or contains a NUL. -/
def fitting? (bound : Option ℕ) (s : String) : Option (Varchar bound) :=
  if h : (∀ n ∈ bound, s.length ≤ n) ∧ Char.ofNat 0 ∉ s.toList then some ⟨s, h.1, h.2⟩ else none

/-- An over-long string whose excess is all spaces, without the excess. -/
def truncate? : (bound : Option ℕ) → String → Option (Varchar bound)
  | none, _ => none
  | some n, s =>
    if (s.toList.drop n).all (· == ' ') then fitting? (some n) (String.ofList (s.toList.take n))
    else none

/-- What PostgreSQL stores for a string: over-long ones are refused, unless all of the excess is
spaces, which are dropped. -/
def store? (bound : Option ℕ) (s : String) : Option (Varchar bound) :=
  (fitting? bound s).or (truncate? bound s)

theorem fitting?_val (v : Varchar bound) : fitting? bound v.val = some v := by
  rw [fitting?, dif_pos ⟨v.fits, v.noNul⟩]

/-- **A stored value is stored back as itself.** -/
@[simp] theorem store?_val (v : Varchar bound) : store? bound v.val = some v := by
  rw [store?, fitting?_val, Option.some_or]

/-- A literal as a value of the column. -/
def lit (s : String) (h : (store? bound s).isSome = true := by exact Eq.refl true) :
    Varchar bound :=
  (store? bound s).get h

/-- A string within the bound is stored unchanged. -/
theorem val_of_store? {s : String} {v : Varchar bound} (hs : ∀ n ∈ bound, s.length ≤ n)
    (h : store? bound s = some v) : v.val = s := by
  by_cases hnul : Char.ofNat 0 ∉ s.toList
  · rw [store?, fitting?, dif_pos ⟨hs, hnul⟩, Option.some_or] at h
    rw [← Option.some.inj h]
  · rw [store?, fitting?, dif_neg (fun hc ↦ hnul hc.2), Option.none_or] at h
    rcases bound with - | n
    · cases h
    · -- Nothing is cut off, so the NUL is still there.
      have htake : s.toList.take n = s.toList := List.take_of_length_le (hs n rfl)
      simp only [truncate?, htake, String.ofList_toList] at h
      split at h
      · rw [fitting?, dif_neg (fun hc ↦ hnul hc.2)] at h
        cases h
      · cases h

theorem isSome_fitting? {bound : Option ℕ} {s : String} :
    (fitting? bound s).isSome = true ↔ (∀ n ∈ bound, s.length ≤ n) ∧ nulFree s = true := by
  unfold fitting? nulFree
  split <;> simp_all

theorem isSome_store?_text {s : String} :
    (store? none s).isSome = true ↔ nulFree s = true := by
  simp [store?, truncate?, isSome_fitting?]

/-- Spaces at the end of a text do not matter for whether it has a NUL. -/
theorem nulFree_take {n : ℕ} {s : String} (h : (s.toList.drop n).all (· == ' ') = true) :
    nulFree (String.ofList (s.toList.take n)) = nulFree s := by
  have hdrop : Char.ofNat 0 ∉ s.toList.drop n := by
    intro hc
    exact absurd (List.all_eq_true.1 h _ hc) (by decide)
  have hmem : Char.ofNat 0 ∈ s.toList ↔ Char.ofNat 0 ∈ s.toList.take n := by
    conv_lhs => rw [← List.take_append_drop n s.toList]
    rw [List.mem_append, or_iff_left hdrop]
  simp only [nulFree, String.toList_ofList, List.contains_eq_mem, hmem]

/-- **What a column of bounded length takes.** -/
theorem isSome_store? {n : ℕ} {s : String} :
    (store? (some n) s).isSome = true ↔ fitsIn n s = true := by
  rw [store?, Option.isSome_or, Bool.or_eq_true, isSome_fitting?, fitsIn, Bool.and_eq_true,
    truncate?]
  by_cases hspaces : (s.toList.drop n).all (· == ' ') = true
  · have hlen : (String.ofList (s.toList.take n)).length ≤ n := by
      rw [String.length_ofList]
      exact List.length_take_le _ _
    rw [if_pos hspaces, isSome_fitting?, nulFree_take hspaces]
    simp only [Option.mem_some_iff, forall_eq', hlen, true_and, hspaces, and_true]
    exact or_iff_right_of_imp And.right
  · have hlong : ¬s.length ≤ n := by
      intro hle
      rw [List.drop_of_length_le hle] at hspaces
      exact hspaces rfl
    simp [hspaces, hlong]

/-- A text within the bound is taken unless it has a NUL. -/
theorem fitsIn_of_length_le {n : ℕ} {s : String} (h : s.length ≤ n) : fitsIn n s = nulFree s := by
  rw [fitsIn, List.drop_of_length_le h, List.all_nil, Bool.and_true]

/-- Nothing is cut off that would fit. -/
theorem length_of_store? {n : ℕ} {s : String} {v : Varchar (some n)}
    (h : store? (some n) s = some v) : v.val.length = min n s.length := by
  rcases Nat.lt_or_ge n s.length with hlt | hle
  · have hnot : fitting? (some n) s = none :=
      dif_neg fun hfits ↦ absurd (hfits.1 n rfl) (Nat.not_le.2 hlt)
    rw [store?, hnot, Option.none_or, truncate?] at h
    split at h
    · unfold fitting? at h
      split at h
      · rw [← Option.some.inj h, String.length_ofList, List.length_take, String.length_toList]
      · cases h
    · cases h
  · rw [val_of_store? (fun m hm ↦ Option.some.inj hm ▸ hle) h, Nat.min_eq_right hle]

/-- What is stored is the text itself, up to spaces at its end. -/
theorem exists_toList_of_store? {s : String} {v : Varchar bound} (h : store? bound s = some v) :
    ∃ k, s.toList = v.val.toList ++ List.replicate k ' ' := by
  rcases Option.or_eq_some_iff.1 h with h | ⟨-, h⟩
  · unfold fitting? at h
    split at h
    · exact ⟨0, by rw [← Option.some.inj h, List.replicate_zero, List.append_nil]⟩
    · cases h
  · rcases bound with - | n
    · cases h
    · simp only [truncate?] at h
      split at h
      · next hspaces =>
        unfold fitting? at h
        split at h
        · refine ⟨(s.toList.drop n).length, ?_⟩
          have hdrop : s.toList.drop n = List.replicate (s.toList.drop n).length ' ' :=
            List.eq_replicate_of_mem fun c hc ↦ by simpa using List.all_eq_true.1 hspaces c hc
          rw [← Option.some.inj h, String.toList_ofList, ← hdrop, List.take_append_drop]
        · cases h
      · cases h

end Varchar

/-! ### Integers -/

/-- A value of a signed integer column of the given width. -/
structure PgInt (bits : ℕ) where
  /-- The value. -/
  val : ℤ
  /-- The value is in range. -/
  inRange : -2 ^ (bits - 1) ≤ val ∧ val < 2 ^ (bits - 1)
deriving DecidableEq

namespace PgInt

variable {bits : ℕ}

/-- The integer as a value of the column, if it is in range. -/
def store? (bits : ℕ) (x : ℤ) : Option (PgInt bits) :=
  if h : -2 ^ (bits - 1) ≤ x ∧ x < 2 ^ (bits - 1) then some ⟨x, h⟩ else none

theorem val_injective {a b : PgInt bits} (h : a.val = b.val) : a = b := by
  cases a; cases b; cases h; rfl

@[simp] theorem store?_val (v : PgInt bits) : store? bits v.val = some v := by
  rw [store?, dif_pos v.inRange]

theorem val_of_store? {x : ℤ} {v : PgInt bits} (h : store? bits x = some v) : v.val = x := by
  unfold store? at h
  split at h
  · cases h; rfl
  · cases h

end PgInt

/-! ### Instants -/

/-- The first and the last instant that `datetime` knows: years 1 and 9999. -/
def Time.min : Time := -62135596800000000

@[inherit_doc Time.min] def Time.max : Time := 253402300799999999

/-- A day, in microseconds. -/
def Time.day : Time := 86400000000

/-- A point on the clock of `datetime`. -/
structure ClockTime where
  /-- Microseconds since the epoch. -/
  val : Time
  /-- The year is one that `datetime` knows. -/
  inRange : Time.min ≤ val ∧ val ≤ Time.max
deriving DecidableEq

/-- A `datetime`, up to its `==`: one with an offset by the instant, which may lie up to a day
outside of the range of the clock, and one without by what its clock shows. -/
inductive PyDateTime where
  | aware (instant : Time)
  | naive (wall : ClockTime)
deriving DecidableEq

/-- A value of `timestamp with time zone` that a `datetime` is stored as. -/
inductive Timestamptz where
  | negInfinity
  | finite (t : ClockTime)
  | infinity
deriving DecidableEq

namespace ClockTime

theorem ext {a b : ClockTime} (h : a.val = b.val) : a = b := by
  cases a; cases b; cases h; rfl

/-- The point of an instant, if the clock can show it. -/
def ofTime? (t : Time) : Option ClockTime :=
  if h : Time.min ≤ t ∧ t ≤ Time.max then some ⟨t, h⟩ else none

@[simp] theorem ofTime?_val (t : ClockTime) : ofTime? t.val = some t := by
  rw [ofTime?, dif_pos t.inRange]

theorem isSome_ofTime? {t : Time} :
    (ofTime? t).isSome = true ↔ Time.min ≤ t ∧ t ≤ Time.max := by
  unfold ofTime?
  split <;> simp_all

end ClockTime

namespace Timestamptz

/-- What `asyncpg` sends for a `datetime`. `datetime.min` and `datetime.max` stand for the
infinities; everything else is brought to UTC by `astimezone`, which refuses what the clock cannot
show. A value without an offset is in the zone of the process, UTC; to find its offset `astimezone`
looks one day back, so that it refuses the first day. -/
def store? : PyDateTime → Option Timestamptz
  | .aware t => (ClockTime.ofTime? t).map .finite
  | .naive w =>
    if w.val = Time.max then some .infinity
    else if w.val = Time.min then some .negInfinity
    else if Time.min + Time.day ≤ w.val then some (.finite w)
    else none

/-- What `asyncpg` makes of a stored value. -/
def load : Timestamptz → PyDateTime
  | .negInfinity => .naive ⟨Time.min, by decide⟩
  | .finite t => .aware t.val
  | .infinity => .naive ⟨Time.max, by decide⟩

/-- **A stored instant is stored back as itself.** -/
@[simp] theorem store?_load (v : Timestamptz) : store? v.load = some v := by
  cases v with
  | negInfinity => rfl
  | finite t =>
    rw [load, store?, ClockTime.ofTime?_val]
    rfl
  | infinity => rfl

end Timestamptz

/-- A `datetime` that a column takes. -/
def PyDateTime.storable : PyDateTime → Bool
  | .aware t => decide (Time.min ≤ t ∧ t ≤ Time.max)
  | .naive w => decide (w.val = Time.min ∨ Time.min + Time.day ≤ w.val)

theorem Timestamptz.isSome_store? {t : PyDateTime} :
    (store? t).isSome = true ↔ t.storable = true := by
  cases t with
  | aware t =>
    rw [store?, Option.isSome_map, ClockTime.isSome_ofTime?, PyDateTime.storable,
      decide_eq_true_iff]
  | naive w =>
    rw [store?, PyDateTime.storable, decide_eq_true_iff]
    have hlast : Time.min + Time.day ≤ Time.max := by decide
    split
    · next hmax => exact iff_of_true rfl (Or.inr (hmax ▸ hlast))
    · split
      · next hmin => exact iff_of_true rfl (Or.inl hmin)
      · next hmin =>
        split
        · next hday => exact iff_of_true rfl (Or.inr hday)
        · next hday => exact iff_of_false (by decide) (not_or.2 ⟨hmin, hday⟩)

/-! ### Unchecked texts -/

/-- A value of `text`, for an attribute whose schema does not check its text: a `str` with a lone
surrogate gets as far as the column. -/
structure FreeText where
  /-- The text. -/
  text : Text
deriving DecidableEq

/-- A `str` as a value of the column, unless it has a surrogate or a NUL. -/
def FreeText.store? (s : PyStr) : Option FreeText :=
  if ∀ c ∈ s, IsScalar c then (Varchar.store? none s.text).map FreeText.mk else none

/-- A `str` that `text` takes. -/
def PyStr.storable (s : PyStr) : Bool := decide (∀ c ∈ s, IsScalar c) && nulFree s.text

theorem FreeText.isSome_store? {s : PyStr} : (store? s).isSome = true ↔ s.storable = true := by
  rw [store?, PyStr.storable, Bool.and_eq_true, decide_eq_true_iff]
  split
  · next h => rw [Option.isSome_map, Varchar.isSome_store?_text, and_iff_right h]
  · next h => exact iff_of_false (by decide) fun hs ↦ h hs.1

@[simp] theorem FreeText.store?_ofString (v : FreeText) :
    store? (PyStr.ofString v.text.val) = some v := by
  rw [store?, if_pos fun c hc ↦ PyStr.isScalar_of_mem hc, PyStr.text_ofString, Varchar.store?_val]
  rfl

/-- A JSON document, by its canonical text. -/
structure Json where
  /-- The text. -/
  text : String
deriving DecidableEq

/-! ### Enumerations -/

/-- A type with finitely many values, each with a text of its own. -/
class TextEnum (α : Type) where
  /-- All values. -/
  values : List α
  /-- The text of a value. -/
  text : α → String
  /-- No value is missing. -/
  mem_values : ∀ a, a ∈ values
  /-- No two values have the same text. -/
  text_nodup : (values.map text).Nodup

namespace TextEnum

variable {α : Type} [TextEnum α]

/-- The value with the given text. -/
def ofText? (s : String) : Option α := (values : List α).find? fun a ↦ decide (text a = s)

theorem text_injective {a b : α} (h : text a = text b) : a = b :=
  List.inj_on_of_nodup_map text_nodup (mem_values a) (mem_values b) h

theorem ofText?_eq_some_iff {s : String} {a : α} : ofText? s = some a ↔ text a = s := by
  constructor
  · intro h
    simpa using List.find?_some h
  · rintro rfl
    rcases hf : (ofText? (text a) : Option α) with - | b
    · have hne := (List.find?_eq_none.1 hf) a (mem_values a)
      simp at hne
    · have hb : text b = text a := by simpa using List.find?_some hf
      rw [text_injective hb]

@[simp] theorem ofText?_text (a : α) : ofText? (text a) = some a := ofText?_eq_some_iff.2 rfl

end TextEnum

/-- `users.role`. -/
inductive Role where
  | admin | consultor | comercial | clientUser
deriving DecidableEq

instance : TextEnum Role where
  values := [.admin, .consultor, .comercial, .clientUser]
  text
    | .admin => "admin"
    | .consultor => "consultor"
    | .comercial => "comercial"
    | .clientUser => "client_user"
  mem_values a := by cases a <;> decide
  text_nodup := by decide

/-- `leads.vertical`. -/
inductive LeadVertical where
  | clinicasDentales | general
deriving DecidableEq

instance : TextEnum LeadVertical where
  values := [.clinicasDentales, .general]
  text
    | .clinicasDentales => "clinicas_dentales"
    | .general => "general"
  mem_values a := by cases a <;> decide
  text_nodup := by decide

/-- `leads.channel`. -/
inductive LeadChannel where
  | emailMarketing | coldCalling | networking | referral | webForm | other
deriving DecidableEq

instance : TextEnum LeadChannel where
  values := [.emailMarketing, .coldCalling, .networking, .referral, .webForm, .other]
  text
    | .emailMarketing => "email_marketing"
    | .coldCalling => "cold_calling"
    | .networking => "networking"
    | .referral => "referral"
    | .webForm => "web_form"
    | .other => "other"
  mem_values a := by cases a <;> decide
  text_nodup := by decide

/-- `leads.status`. -/
inductive LeadStatus where
  | new | contacted | qualified | disqualified | converted
deriving DecidableEq

instance : TextEnum LeadStatus where
  values := [.new, .contacted, .qualified, .disqualified, .converted]
  text
    | .new => "new"
    | .contacted => "contacted"
    | .qualified => "qualified"
    | .disqualified => "disqualified"
    | .converted => "converted"
  mem_values a := by cases a <;> decide
  text_nodup := by decide

/-- `clients.stage`. -/
inductive ClientStage where
  | lead | discoveryScheduled | discoveryDone | proposalSent | active | lost
deriving DecidableEq

instance : TextEnum ClientStage where
  values := [.lead, .discoveryScheduled, .discoveryDone, .proposalSent, .active, .lost]
  text
    | .lead => "lead"
    | .discoveryScheduled => "discovery_scheduled"
    | .discoveryDone => "discovery_done"
    | .proposalSent => "proposal_sent"
    | .active => "active"
    | .lost => "lost"
  mem_values a := by cases a <;> decide
  text_nodup := by decide

/-- `services.type`. -/
inductive ServiceType where
  | assessment | development | formation
deriving DecidableEq

instance : TextEnum ServiceType where
  values := [.assessment, .development, .formation]
  text
    | .assessment => "assessment"
    | .development => "development"
    | .formation => "formation"
  mem_values a := by cases a <;> decide
  text_nodup := by decide

/-- `services.state`. -/
inductive ServiceState where
  | scoping | running | review | completed | maintenance | paused
deriving DecidableEq

instance : TextEnum ServiceState where
  values := [.scoping, .running, .review, .completed, .maintenance, .paused]
  text
    | .scoping => "scoping"
    | .running => "running"
    | .review => "review"
    | .completed => "completed"
    | .maintenance => "maintenance"
    | .paused => "paused"
  mem_values a := by cases a <;> decide
  text_nodup := by decide

/-- `activity_log.kind`, after the migration that added the last four. -/
inductive ActivityKind where
  | stageChange | contactAdded | contactUpdated | serviceStarted | serviceStateChange
  | milestoneCompleted | leadConverted | note
  | ticketOpened | ticketUpdated | ticketClosed | messageSent
deriving DecidableEq

instance : TextEnum ActivityKind where
  values := [.stageChange, .contactAdded, .contactUpdated, .serviceStarted, .serviceStateChange,
    .milestoneCompleted, .leadConverted, .note, .ticketOpened, .ticketUpdated, .ticketClosed,
    .messageSent]
  text
    | .stageChange => "stage_change"
    | .contactAdded => "contact_added"
    | .contactUpdated => "contact_updated"
    | .serviceStarted => "service_started"
    | .serviceStateChange => "service_state_change"
    | .milestoneCompleted => "milestone_completed"
    | .leadConverted => "lead_converted"
    | .note => "note"
    | .ticketOpened => "ticket_opened"
    | .ticketUpdated => "ticket_updated"
    | .ticketClosed => "ticket_closed"
    | .messageSent => "message_sent"
  mem_values a := by cases a <;> decide
  text_nodup := by decide

/-- `tickets.priority`. -/
inductive TicketPriority where
  | high | medium | low
deriving DecidableEq

instance : TextEnum TicketPriority where
  values := [.high, .medium, .low]
  text
    | .high => "high"
    | .medium => "medium"
    | .low => "low"
  mem_values a := by cases a <;> decide
  text_nodup := by decide

/-- `tickets.status`. -/
inductive TicketStatus where
  | pending | inProgress | closed
deriving DecidableEq

instance : TextEnum TicketStatus where
  values := [.pending, .inProgress, .closed]
  text
    | .pending => "pending"
    | .inProgress => "in_progress"
    | .closed => "closed"
  mem_values a := by cases a <;> decide
  text_nodup := by decide

/-- `billing_profiles.tax_id_type`. -/
inductive TaxIdType where
  | nif | cif | nie | vat
deriving DecidableEq

instance : TextEnum TaxIdType where
  values := [.nif, .cif, .nie, .vat]
  text
    | .nif => "NIF"
    | .cif => "CIF"
    | .nie => "NIE"
    | .vat => "VAT"
  mem_values a := by cases a <;> decide
  text_nodup := by decide

/-- `billing_profiles.tax_regime`. -/
inductive TaxRegime where
  | general | recargoEquivalencia | simplificado | exento | intracomunitario
deriving DecidableEq

instance : TextEnum TaxRegime where
  values := [.general, .recargoEquivalencia, .simplificado, .exento, .intracomunitario]
  text
    | .general => "general"
    | .recargoEquivalencia => "recargo_equivalencia"
    | .simplificado => "simplificado"
    | .exento => "exento"
    | .intracomunitario => "intracomunitario"
  mem_values a := by cases a <;> decide
  text_nodup := by decide

end ZanovixCrm
