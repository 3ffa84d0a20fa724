import ZanovixCrm.Services.BillingProfileService
import ZanovixCrm.Services.ContactService
import ZanovixCrm.Services.MessageService
import ZanovixCrm.Services.MilestoneService
import ZanovixCrm.Services.TicketService

/-!
# Storable bodies

The schemas and the tables state the limits of the same fields, each for itself. `storable` says of
each body what is left to the database once the schema has accepted it: that no text has a NUL, that
the name and the company of a lead fit into columns that are shorter than the limits of the schema,
that a partial update puts no `null` into a `NOT NULL` column, that a free text is one of the values
of an enumeration, that an integer is within the range of its type, and that the country has two
characters after it has been upper-cased.

**A row can be built from a body that the schema has accepted exactly if the body is storable**:
`row_lead_iff` and its siblings say so for the new rows, `flushes_lead_iff` and its siblings for the
partial updates, whatever the row that they are applied to.
-/

namespace ZanovixCrm

/-! ### Storable bodies -/

/-- The field is absent, or has a value that satisfies the condition; it is not `null`. -/
def Field.required {α : Type} (q : α → Bool) : Field α → Bool
  | .unset => true
  | .null => false
  | .val a => q a

/-- The field is not `null`. -/
def Field.notNull {α : Type} : Field α → Bool := Field.required fun _ ↦ true

/-- The text is that of a value of the enumeration. -/
def isText (α : Type) [TextEnum α] (s : String) : Bool := (TextEnum.ofText? s : Option α).isSome

/-- A nonnegative integer is within the range of a signed type. -/
def below (bits : ℕ) (x : ℤ) : Bool := decide (x < 2 ^ (bits - 1))

/-- The text is stored with two characters. -/
def iso2 (s : String) : Bool := fitsIn 2 s && decide (2 ≤ s.length)

/-- The columns are shorter than the limits of the schema. -/
def LeadCreate.storable (b : LeadCreate) : Bool :=
  fitsIn 200 b.name && nulFree b.email && b.phone.all nulFree && b.company.all (fitsIn 200) &&
    b.sourceUrl.all nulFree && b.notes.all nulFree && b.role.all nulFree

def LeadUpdate.storable (b : LeadUpdate) : Bool :=
  b.name.required (fitsIn 200) && b.phone.all nulFree && b.company.all (fitsIn 200) &&
    b.notes.all nulFree && b.role.all nulFree

def BillingProfileCreate.storable (b : BillingProfileCreate) : Bool :=
  nulFree b.legalName && nulFree b.taxId && nulFree b.addressLine1 &&
    b.addressLine2.all nulFree && nulFree b.city && nulFree b.province && nulFree b.postalCode &&
    iso2 b.country && b.billingEmail.all nulFree

def BillingProfileUpdate.storable (b : BillingProfileUpdate) : Bool :=
  b.legalName.required nulFree && b.taxId.required nulFree && b.taxIdType.notNull &&
    b.taxRegime.notNull && b.addressLine1.required nulFree && b.addressLine2.all nulFree &&
    b.city.required nulFree && b.province.required nulFree && b.postalCode.required nulFree &&
    b.country.required iso2 && b.billingEmail.all nulFree

def ClientCreate.storable (b : ClientCreate) : Bool :=
  nulFree b.name && b.sector.all nulFree && b.size.all nulFree && b.region.all nulFree &&
    b.mrrCents.all (below 64) && isText ClientStage b.stage

def ClientUpdate.storable (b : ClientUpdate) : Bool :=
  b.name.required nulFree && b.sector.all nulFree && b.size.all nulFree && b.region.all nulFree &&
    b.mrrCents.all (below 64) && b.lifetimeValueCents.all (below 64)

def ConvertLeadBody.storable (b : ConvertLeadBody) : Bool :=
  b.name.all nulFree && b.sector.all nulFree && b.size.all nulFree && b.region.all nulFree &&
    b.mrrCents.all (below 64) && b.stage.all (isText ClientStage) &&
    b.billingProfile.all BillingProfileCreate.storable

def ContactCreate.storable (b : ContactCreate) : Bool :=
  nulFree b.name && b.role.all nulFree && b.email.all nulFree && b.phone.all nulFree

def ContactUpdate.storable (b : ContactUpdate) : Bool :=
  b.name.required nulFree && b.role.all nulFree && b.email.all nulFree && b.phone.all nulFree &&
    b.isPrimary.notNull

def ServiceCreate.storable (b : ServiceCreate) : Bool :=
  isText ServiceType b.type && nulFree b.title && b.setupPriceCents.all (below 64) &&
    b.monthlyCents.all (below 64)

/-- An instant has to be one that `datetime` knows in UTC. -/
def ServiceUpdate.storable (b : ServiceUpdate) : Bool :=
  b.title.required nulFree && b.startedAt.all PyDateTime.storable &&
    b.endedAt.all PyDateTime.storable && b.setupPriceCents.all (below 64) &&
    b.monthlyCents.all (below 64)

def MilestoneCreate.storable (b : MilestoneCreate) : Bool := below 32 b.n && nulFree b.title

def MilestoneUpdate.storable (b : MilestoneUpdate) : Bool :=
  b.title.required nulFree && b.completedAt.all PyDateTime.storable

/-- The body of a ticket is not checked at all: it may have a lone surrogate. -/
def TicketCreate.storable (b : TicketCreate) : Bool :=
  nulFree b.title && b.body.all PyStr.storable

def TicketPatch.storable (b : TicketPatch) : Bool :=
  b.title.required nulFree && b.priority.notNull && b.body.all PyStr.storable

def TicketUpdate.storable (b : TicketUpdate) : Bool :=
  b.title.required nulFree && b.priority.notNull && b.status.notNull &&
    b.body.all PyStr.storable

def MessageCreate.storable (b : MessageCreate) : Bool := nulFree b.body

/-! ### What the column types take -/

/-- The values of a column type are those that satisfy `q`. -/
def Takes (β : Type) {raw : Type} [Encoding β raw] (q : raw → Bool) : Prop :=
  ∀ v : raw, (∃ b : β, Encoding.store v = .ok b) ↔ q v = true

section Takes

variable {raw β : Type} [Encoding β raw] {q : raw → Bool}

theorem exists_orError {α : Type} {e : DbError} {o : Option α} :
    (∃ a, orError e o = .ok a) ↔ o.isSome = true := by
  simp only [orError_eq_ok_iff, Option.isSome_iff_exists]

theorem takes_str {n : ℕ} : Takes (Str n) (fitsIn n) :=
  fun _ ↦ exists_orError.trans Varchar.isSome_store?

theorem takes_text : Takes Text nulFree := fun _ ↦ exists_orError.trans Varchar.isSome_store?_text

theorem takes_int {bits : ℕ} :
    Takes (PgInt bits) fun x ↦ decide (-2 ^ (bits - 1) ≤ x ∧ x < 2 ^ (bits - 1)) := by
  refine fun x ↦ exists_orError.trans ?_
  unfold PgInt.store?
  split <;> simp_all

theorem takes_enum {α : Type} [TextEnum α] : Takes α fun _ : α ↦ true :=
  fun a ↦ iff_of_true ⟨a, rfl⟩ rfl

theorem takes_uuid : Takes UUID fun _ : UUID ↦ true := fun k ↦ iff_of_true ⟨k, rfl⟩ rfl

theorem takes_date : Takes Date fun _ : Date ↦ true := fun t ↦ iff_of_true ⟨t, rfl⟩ rfl

theorem takes_datetime : Takes Timestamptz PyDateTime.storable :=
  fun _ ↦ exists_orError.trans Timestamptz.isSome_store?

theorem takes_freeText : Takes FreeText PyStr.storable :=
  fun _ ↦ exists_orError.trans FreeText.isSome_store?

theorem takes_bool : Takes Bool fun _ : Bool ↦ true := fun b ↦ iff_of_true ⟨b, rfl⟩ rfl

theorem takes_country : Takes CountryCode iso2 := by
  intro s
  show (∃ b, ((orError .data (Varchar.store? (some 2) s)).bind fun v ↦
    if h : v.val.length = 2 then .ok (⟨v, h⟩ : CountryCode) else .error .check) = .ok b) ↔ _
  rw [iso2, Bool.and_eq_true, ← Varchar.isSome_store?, decide_eq_true_eq]
  rcases hs : Varchar.store? (some 2) s with - | v
  · simp [orError, Except.bind]
  · have hlen := Varchar.length_of_store? hs
    by_cases h : v.val.length = 2
    · have hle : 2 ≤ s.length := by omega
      simp [orError, Except.bind, h, hle]
    · have hlt : ¬2 ≤ s.length := by omega
      simp [orError, Except.bind, h, hlt]

/-- A `NOT NULL` column of a new row. -/
theorem Takes.some (h : Takes β q) (v : raw) : (∃ b : β, encode (some v) = .ok b) ↔ q v = true :=
  h v

/-- A nullable column of a new row. -/
theorem Takes.option (h : Takes β q) (o : Option raw) :
    (∃ b : Option β, encode o = .ok b) ↔ o.all q = true := by
  rcases o with - | v
  · exact iff_of_true ⟨none, rfl⟩ rfl
  · rw [Option.all_some, ← h v]
    show (∃ b, (Encoding.store v : Except DbError β).map Option.some = .ok b) ↔ _
    rcases (Encoding.store v : Except DbError β) with e | b <;> simp [Except.map]

variable {ρ : Type} [Keyed ρ UUID] [Touched ρ] [DecidableEq raw] {now : Time} {loaded : ρ}

/-- A `NOT NULL` column of a partial update. -/
theorem Takes.required (h : Takes β q) {c : Column ρ β} {f : Field raw} :
    Session.Flushes now loaded (c.patch f) ↔ f.required q = true := by
  rw [Session.flushes_patch]
  cases f with
  | unset => exact iff_of_true (fun h ↦ nomatch h) rfl
  | null => exact iff_of_false (fun h ↦ nomatch h rfl) Bool.false_ne_true
  | val v => exact ⟨fun hv ↦ (h v).1 (hv rfl), fun hv _ ↦ (h v).2 hv⟩

/-- A nullable column of a partial update. -/
theorem Takes.optional (h : Takes β q) {c : Column ρ (Option β)} {f : Field raw} :
    Session.Flushes now loaded (c.patch f) ↔ f.all q = true := by
  rw [Session.flushes_patch]
  cases f with
  | unset => exact iff_of_true (fun h ↦ nomatch h) rfl
  | null => exact iff_of_true (fun _ ↦ ⟨none, rfl⟩) rfl
  | val v => exact ⟨fun hv ↦ (h.option _).1 (hv rfl), fun hv _ ↦ (h.option _).2 hv⟩

end Takes

/-! ### What the schemas have checked -/

section Checked

variable {n m : ℕ} {p : Platform}

theorem fitsIn_of_maxLength {t : String} (h : maxLength n t = true) : fitsIn n t = nulFree t :=
  Varchar.fitsIn_of_length_le (of_decide_eq_true h)

theorem fitsIn_of_lengthIn {t : String} (h : lengthIn m n t = true) : fitsIn n t = nulFree t :=
  Varchar.fitsIn_of_length_le (of_decide_eq_true (Bool.and_eq_true_iff.1 h).2)

theorem fitsIn_of_isEmail {t : String} (hn : 254 ≤ n) (h : p.isEmail t = true) :
    fitsIn n t = nulFree t :=
  Varchar.fitsIn_of_length_le ((p.isEmail_length t h).trans hn)

/-- A nonnegative integer of a column that takes negative ones as well. -/
theorem inRange_of_nonneg {bits : ℕ} {x : ℤ} (h : nonneg x = true) :
    decide (-2 ^ (bits - 1) ≤ x ∧ x < 2 ^ (bits - 1)) = below bits x := by
  have hx : 0 ≤ x := of_decide_eq_true h
  have hpow : (0 : ℤ) ≤ 2 ^ (bits - 1) := Int.pow_nonneg (by decide)
  have hlow : -2 ^ (bits - 1) ≤ x := by omega
  rw [below, decide_eq_decide]
  exact and_iff_right hlow

/-- A percentage is in the range of `integer`. -/
theorem inRange_of_percentage {x : ℤ} (h : percentage x = true) :
    decide (-2 ^ (32 - 1) ≤ x ∧ x < 2 ^ (32 - 1)) = true := by
  simp only [percentage, Bool.and_eq_true, decide_eq_true_eq] at h ⊢
  omega

variable {α : Type} {c q q' : α → Bool}

/-- Of the values that satisfy `c`, the same satisfy `q` and `q'`. -/
theorem option_all_congr {o : Option α} (h : o.all c = true) (hq : ∀ v, c v = true → q v = q' v) :
    o.all q = o.all q' := by
  rcases o with - | v
  · rfl
  · exact hq v h

theorem field_all_congr {f : Field α} (h : f.all c = true) (hq : ∀ v, c v = true → q v = q' v) :
    f.all q = f.all q' := by
  cases f with
  | unset | null => rfl
  | val v => exact hq v h

theorem field_required_congr {f : Field α} (h : f.all c = true)
    (hq : ∀ v, c v = true → q v = q' v) : f.required q = f.required q' := by
  cases f with
  | unset | null => rfl
  | val v => exact hq v h

end Checked

/-! ### New rows -/

section Rows

variable {p : Platform} {env : Env}

theorem exists_bind_ok {ε α β : Type} {x : Except ε α} {f : α → Except ε β} :
    (∃ b, (x >>= f) = .ok b) ↔ ∃ a, x = .ok a ∧ ∃ b, f a = .ok b := by
  simp only [bind_eq_ok_iff]
  exact ⟨fun ⟨b, a, ha, hb⟩ ↦ ⟨a, ha, b, hb⟩, fun ⟨a, ha, b, hb⟩ ↦ ⟨b, a, ha, hb⟩⟩

theorem exists_pure_ok {ε α : Type} {a : α} :
    (∃ b, (pure a : Except ε α) = .ok b) ↔ True :=
  iff_of_true ⟨a, rfl⟩ trivial

theorem exists_encodeText {α : Type} [TextEnum α] {t : String} :
    (∃ a, encodeText α t = .ok a) ↔ isText α t = true :=
  exists_orError

/-- A text of limited length that may be missing. -/
theorem option_fitsIn {n : ℕ} {o : Option String} (h : o.all (maxLength n) = true) :
    o.all (fitsIn n) = o.all nulFree :=
  option_all_congr h fun _ ↦ fitsIn_of_maxLength

/-- A nonnegative integer that may be missing. -/
theorem option_inRange {bits : ℕ} {o : Option ℤ} (h : o.all nonneg = true) :
    (o.all fun x ↦ decide (-2 ^ (bits - 1) ≤ x ∧ x < 2 ^ (bits - 1))) = o.all (below bits) :=
  option_all_congr h fun _ ↦ inRange_of_nonneg

/-- An empty text has no NUL, so it does not matter that it is dropped. -/
theorem filter_fitsIn {n : ℕ} {o : Option String} (h : o.all (maxLength n) = true) :
    (o.filter (· ≠ "")).all (fitsIn n) = o.all nulFree := by
  rcases o with - | t
  · rfl
  · by_cases ht : t = ""
    · rw [ht]
      rfl
    · rw [Option.filter_some, if_pos (decide_eq_true ht), option_fitsIn h]

theorem row_lead_iff {raw body : LeadCreate} {rawPayload : RawPayload}
    (hv : raw.validate? p = some body) :
    (∃ l, LeadService.row env body rawPayload = .ok l) ↔ body.storable = true := by
  obtain ⟨hok, rfl⟩ := accept_eq_some_iff.1 hv
  simp only [Bool.and_eq_true, and_assoc] at hok
  obtain ⟨-, hemail, hphone, -, hurl, -, hrole⟩ := hok
  simp only [LeadService.row, exists_bind_ok, exists_pure_ok, and_true, exists_and_right,
    takes_str.some, takes_str.option, takes_text.option]
  rw [fitsIn_of_isEmail (by decide) hemail, option_fitsIn hphone, filter_fitsIn hurl,
    option_fitsIn hrole]
  simp only [LeadCreate.storable, Bool.and_eq_true, and_assoc]

theorem row_client_iff {raw body : ClientCreate} (hv : raw.validate? = some body) :
    (∃ c, ClientService.row env body.name body.sector body.size body.region body.ownerId
      body.mrrCents body.stage = .ok c) ↔ body.storable = true := by
  obtain ⟨hok, rfl⟩ := accept_eq_some_iff.1 hv
  simp only [Bool.and_eq_true, and_assoc] at hok
  obtain ⟨hname, hsector, hsize, hregion, hmrr⟩ := hok
  simp only [ClientService.row, exists_bind_ok, exists_pure_ok, and_true, exists_and_right,
    takes_str.some, takes_str.option, takes_int.option, exists_encodeText]
  rw [fitsIn_of_maxLength hname, option_fitsIn hsector, option_fitsIn hsize,
    option_fitsIn hregion, option_inRange hmrr]
  simp only [ClientCreate.storable, Bool.and_eq_true, and_assoc]

/-- Python's `or` between texts that are taken: an empty one does not matter either. -/
theorem fitsIn_orElse {n : ℕ} {o : Option String} {t : String} (ht : fitsIn n t = true) :
    fitsIn n (ClientService.orElse o t) = o.all (fitsIn n) := by
  have hnil : fitsIn n "" = true := Varchar.fitsIn_of_length_le (by simp)
  rcases o with - | name
  · exact ht
  · rw [ClientService.orElse, Option.filter_some, Option.all_some]
    by_cases hempty : name = ""
    · rw [if_neg (by simpa using hempty), hempty]
      exact ht.trans hnil.symm
    · rw [if_pos (decide_eq_true hempty), Option.getD_some]

theorem fitsIn_val {n : ℕ} (v : Str n) : fitsIn n v.val = true :=
  Varchar.isSome_store?.1 (by rw [Varchar.store?_val]; rfl)

/-- The name of a converted client is the one in the body, or comes from the lead. -/
theorem fitsIn_clientName {body : ConvertLeadBody} {l : Lead}
    (h : body.name.all (maxLength 200) = true) :
    fitsIn 200 (ClientService.clientName body l) = body.name.all nulFree := by
  have hcompany : (l.company.map Varchar.val).all (fitsIn 200) = true := by
    rcases l.company with - | company
    · rfl
    · exact fitsIn_val company
  rw [ClientService.clientName, fitsIn_orElse, option_fitsIn h]
  rw [fitsIn_orElse (fitsIn_val l.name), hcompany]

/-- Only the country of a validated profile is not what was checked. -/
theorem row_billingProfile_iff {raw body : BillingProfileCreate} {id clientId : UUID} {d : Bool}
    (hv : raw.validate? p = some body) :
    (∃ b, ClientService.billingProfileRow env id clientId body d = .ok b) ↔
      body.storable = true := by
  obtain ⟨hok, rfl⟩ := accept_eq_some_iff.1 hv
  simp only [Bool.and_eq_true, and_assoc] at hok
  obtain ⟨hname, htax, hline1, hline2, hcity, hprovince, hpostal, -, hemail, -⟩ := hok
  have hemail' : raw.billingEmail.all (fitsIn 255) = raw.billingEmail.all nulFree :=
    option_all_congr hemail fun _ ↦ fitsIn_of_isEmail (by decide)
  simp only [ClientService.billingProfileRow, exists_bind_ok, exists_pure_ok, and_true,
    exists_and_right, takes_str.some, takes_str.option, takes_country.some]
  rw [fitsIn_of_lengthIn hname, fitsIn_of_lengthIn htax, fitsIn_of_lengthIn hline1,
    option_fitsIn hline2, fitsIn_of_lengthIn hcity, fitsIn_of_lengthIn hprovince,
    fitsIn_of_lengthIn hpostal, hemail']
  simp only [BillingProfileCreate.storable, Bool.and_eq_true, and_assoc]

theorem row_contact_iff {raw body : ContactCreate} {clientId : UUID}
    (hv : raw.validate? p = some body) :
    (∃ c, ContactService.row env clientId body = .ok c) ↔ body.storable = true := by
  obtain ⟨hok, rfl⟩ := accept_eq_some_iff.1 hv
  simp only [Bool.and_eq_true, and_assoc] at hok
  obtain ⟨hname, hrole, hemail, hphone⟩ := hok
  have hemail' : raw.email.all (fitsIn 320) = raw.email.all nulFree :=
    option_all_congr hemail fun _ ↦ fitsIn_of_isEmail (by decide)
  simp only [ContactService.row, exists_bind_ok, exists_pure_ok, and_true, exists_and_right,
    takes_str.some, takes_str.option]
  rw [fitsIn_of_maxLength hname, option_fitsIn hrole, hemail', option_fitsIn hphone]
  simp only [ContactCreate.storable, Bool.and_eq_true, and_assoc]

theorem row_service_iff {raw body : ServiceCreate} {clientId : UUID}
    (hv : raw.validate? = some body) :
    (∃ sv, ServiceService.row env { body with clientId := clientId } = .ok sv) ↔
      body.storable = true := by
  obtain ⟨hok, rfl⟩ := accept_eq_some_iff.1 hv
  simp only [Bool.and_eq_true, and_assoc] at hok
  obtain ⟨htitle, hsetup, hmonthly⟩ := hok
  simp only [ServiceService.row, exists_bind_ok, exists_pure_ok, and_true, exists_and_right,
    takes_str.some, takes_int.option, exists_encodeText]
  rw [fitsIn_of_maxLength htitle, option_inRange hsetup, option_inRange hmonthly]
  simp only [ServiceCreate.storable, Bool.and_eq_true, and_assoc]

theorem row_milestone_iff {raw body : MilestoneCreate} {serviceId : UUID}
    (hv : raw.validate? = some body) :
    (∃ m, MilestoneService.row env serviceId body = .ok m) ↔ body.storable = true := by
  obtain ⟨hok, rfl⟩ := accept_eq_some_iff.1 hv
  simp only [Bool.and_eq_true] at hok
  obtain ⟨hn, htitle⟩ := hok
  have hnonneg : nonneg raw.n = true :=
    decide_eq_true (Int.le_trans (by decide) (of_decide_eq_true hn))
  simp only [MilestoneService.row, exists_bind_ok, exists_pure_ok, and_true, exists_and_right,
    takes_str.some, takes_int.some]
  rw [fitsIn_of_maxLength htitle, inRange_of_nonneg hnonneg]
  simp only [MilestoneCreate.storable, Bool.and_eq_true]

theorem row_ticket_iff {raw body : TicketCreate} {clientId actor : UUID}
    (hv : raw.validate? = some body) :
    (∃ t, TicketService.row env body clientId actor = .ok t) ↔ body.storable = true := by
  obtain ⟨hok, rfl⟩ := accept_eq_some_iff.1 hv
  simp only [TicketService.row, exists_bind_ok, exists_pure_ok, and_true, exists_and_right,
    takes_str.some, takes_freeText.option]
  rw [fitsIn_of_maxLength hok]
  simp only [TicketCreate.storable, Bool.and_eq_true]

theorem row_message_iff {body : MessageCreate} {clientId sender : UUID} :
    (∃ m, MessageService.row env body clientId sender = .ok m) ↔ body.storable = true := by
  simp only [MessageService.row, exists_bind_ok, exists_pure_ok, and_true, takes_text.some]
  rfl

theorem row_activity_iff {id clientId actor : UUID} {kind : ActivityKind} {text : String} :
    (∃ a, ActivityLogService.row env id clientId kind text actor = .ok a) ↔
      nulFree text = true := by
  simp only [ActivityLogService.row, exists_bind_ok, exists_pure_ok, and_true, takes_text.some]

end Rows

/-! ### Partial updates -/

section Updates

variable {p : Platform} {now : Time}

theorem field_fitsIn {n : ℕ} {f : Field String} (h : f.all (maxLength n) = true) :
    f.all (fitsIn n) = f.all nulFree :=
  field_all_congr h fun _ ↦ fitsIn_of_maxLength

theorem required_fitsIn {n : ℕ} {f : Field String} (h : f.all (maxLength n) = true) :
    f.required (fitsIn n) = f.required nulFree :=
  field_required_congr h fun _ ↦ fitsIn_of_maxLength

theorem required_lengthIn {m n : ℕ} {f : Field String} (h : f.all (lengthIn m n) = true) :
    f.required (fitsIn n) = f.required nulFree :=
  field_required_congr h fun _ ↦ fitsIn_of_lengthIn

theorem field_inRange {bits : ℕ} {f : Field ℤ} (h : f.all nonneg = true) :
    (f.all fun x ↦ decide (-2 ^ (bits - 1) ≤ x ∧ x < 2 ^ (bits - 1))) = f.all (below bits) :=
  field_all_congr h fun _ ↦ inRange_of_nonneg

theorem field_all_true {α : Type} {f : Field α} : f.all (fun _ ↦ true) = true := by
  cases f <;> rfl

theorem field_percentage {f : Field ℤ} (h : f.all percentage = true) :
    (f.all fun x ↦ decide (-2 ^ (32 - 1) ≤ x ∧ x < 2 ^ (32 - 1))) = true :=
  (field_all_congr h fun _ hx ↦ inRange_of_percentage hx).trans field_all_true

theorem flushes_lead_iff {raw body : LeadUpdate} {l : Lead} (hv : raw.validate? = some body) :
    Session.Flushes now l (LeadService.changes body) ↔ body.storable = true := by
  obtain ⟨hok, rfl⟩ := accept_eq_some_iff.1 hv
  simp only [Bool.and_eq_true, and_assoc] at hok
  obtain ⟨-, hphone, -, -, hrole⟩ := hok
  simp only [LeadService.changes, Session.flushes_append, takes_str.required, takes_str.optional,
    takes_text.optional, and_assoc]
  rw [field_fitsIn hphone, field_fitsIn hrole]
  simp only [LeadUpdate.storable, Bool.and_eq_true, and_assoc]

theorem flushes_client_iff {raw body : ClientUpdate} {c : Client}
    (hv : raw.validate? = some body) :
    Session.Flushes now c (ClientService.changes body) ↔ body.storable = true := by
  obtain ⟨hok, rfl⟩ := accept_eq_some_iff.1 hv
  simp only [Bool.and_eq_true, and_assoc] at hok
  obtain ⟨hname, hsector, hsize, hregion, hmrr, hvalue⟩ := hok
  simp only [ClientService.changes, Session.flushes_append, takes_str.required,
    takes_str.optional, takes_uuid.optional, takes_int.optional, and_assoc]
  rw [required_fitsIn hname, field_fitsIn hsector, field_fitsIn hsize, field_fitsIn hregion,
    field_inRange hmrr, field_inRange hvalue]
  simp only [ClientUpdate.storable, Bool.and_eq_true, and_assoc, field_all_true, true_and]

theorem flushes_contact_iff {raw body : ContactUpdate} {c : Contact}
    (hv : raw.validate? p = some body) :
    Session.Flushes now c (ContactService.changes body) ↔ body.storable = true := by
  obtain ⟨hok, rfl⟩ := accept_eq_some_iff.1 hv
  simp only [Bool.and_eq_true, and_assoc] at hok
  obtain ⟨hname, hrole, hemail, hphone⟩ := hok
  have hemail' : raw.email.all (fitsIn 320) = raw.email.all nulFree :=
    field_all_congr hemail fun _ ↦ fitsIn_of_isEmail (by decide)
  simp only [ContactService.changes, Session.flushes_append, takes_str.required,
    takes_str.optional, takes_bool.required, and_assoc]
  rw [required_fitsIn hname, field_fitsIn hrole, hemail', field_fitsIn hphone]
  simp only [ContactUpdate.storable, Field.notNull, Bool.and_eq_true, and_assoc]

theorem flushes_service_iff {raw body : ServiceUpdate} {sv : Service}
    (hv : raw.validate? = some body) :
    Session.Flushes now sv (ServiceService.changes body) ↔ body.storable = true := by
  obtain ⟨hok, rfl⟩ := accept_eq_some_iff.1 hv
  simp only [Bool.and_eq_true, and_assoc] at hok
  obtain ⟨htitle, hprogress, hsetup, hmonthly, hscore⟩ := hok
  simp only [ServiceService.changes, Session.flushes_append, takes_str.required,
    takes_uuid.optional, takes_datetime.optional, takes_int.optional, and_assoc]
  rw [required_fitsIn htitle, field_percentage hprogress, field_inRange hsetup,
    field_inRange hmonthly, field_percentage hscore]
  simp only [ServiceUpdate.storable, Bool.and_eq_true, and_assoc, field_all_true, true_and,
    and_true]

theorem flushes_milestone_iff {raw body : MilestoneUpdate} {m : Milestone}
    (hv : raw.validate? = some body) :
    Session.Flushes now m (MilestoneService.changes body) ↔ body.storable = true := by
  obtain ⟨hok, rfl⟩ := accept_eq_some_iff.1 hv
  simp only [MilestoneService.changes, Session.flushes_append, takes_str.required,
    takes_date.optional, takes_datetime.optional, field_all_true, and_true]
  rw [required_fitsIn hok, MilestoneUpdate.storable, Bool.and_eq_true]

theorem flushes_billingProfile_iff {raw body : BillingProfileUpdate} {b : BillingProfile}
    (hv : raw.validate? p = some body) :
    Session.Flushes now b (BillingProfileService.changes body) ↔ body.storable = true := by
  obtain ⟨hok, rfl⟩ := accept_eq_some_iff.1 hv
  simp only [Bool.and_eq_true, and_assoc] at hok
  obtain ⟨hname, htax, hline1, hline2, hcity, hprovince, hpostal, -, hemail, -⟩ := hok
  have hemail' : raw.billingEmail.all (fitsIn 255) = raw.billingEmail.all nulFree :=
    field_all_congr hemail fun _ ↦ fitsIn_of_isEmail (by decide)
  simp only [BillingProfileService.changes, Session.flushes_append, takes_str.required,
    takes_str.optional, takes_enum.required, takes_country.required, and_assoc]
  rw [required_lengthIn hname, required_lengthIn htax, required_lengthIn hline1,
    field_fitsIn hline2, required_lengthIn hcity, required_lengthIn hprovince,
    required_lengthIn hpostal, hemail']
  simp only [BillingProfileUpdate.storable, Field.notNull, Bool.and_eq_true, and_assoc]

theorem flushes_ticketPatch_iff {raw body : TicketPatch} {t : Ticket}
    (hv : raw.validate? = some body) :
    Session.Flushes now t (TicketService.patchChanges body) ↔ body.storable = true := by
  obtain ⟨hok, rfl⟩ := accept_eq_some_iff.1 hv
  simp only [TicketService.patchChanges, Session.flushes_append, takes_str.required,
    takes_enum.required, takes_freeText.optional, and_assoc]
  rw [required_fitsIn hok]
  simp only [TicketPatch.storable, Field.notNull, Bool.and_eq_true, and_assoc]

theorem flushes_ticketUpdate_iff {raw body : TicketUpdate} {t : Ticket}
    (hv : raw.validate? = some body) :
    Session.Flushes now t (TicketService.updateChanges body) ↔ body.storable = true := by
  obtain ⟨hok, rfl⟩ := accept_eq_some_iff.1 hv
  simp only [TicketService.updateChanges, Session.flushes_append, takes_str.required,
    takes_enum.required, takes_freeText.optional, takes_uuid.optional, and_assoc]
  rw [required_fitsIn hok]
  simp only [TicketUpdate.storable, Field.notNull, Bool.and_eq_true, and_assoc, field_all_true,
    and_true]

end Updates

end ZanovixCrm
