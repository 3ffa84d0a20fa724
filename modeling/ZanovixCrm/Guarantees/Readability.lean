import ZanovixCrm.Api.Runs

/-!
# Readability

An answer is rendered after the commit, and the schemas of billing profiles and of services validate
what they render. A row that is stored but does not pass would turn a request that has changed the
database into one that is answered with an error. This does not happen: whatever a validated request
stores passes (`Step.readable`), so **in every run, a request that is not answered with success has
changed nothing** (`Happens.failed`).
-/

namespace ZanovixCrm

/-- All rows pass the schemas that render them; no request stores a diagnostic. -/
structure Readable (p : Platform) (db : Db) : Prop where
  billingProfiles : ∀ b ∈ db.billingProfiles, b.readable p = true
  services : ∀ s ∈ db.services, s.diagnosticJson = none

/-! ### What is stored for a validated text -/

theorem lengthIn_of_encode {m n : ℕ} {s : String} {v : Str n} (hs : lengthIn m n s = true)
    (hv : (encode (some s) : Except DbError (Str n)) = .ok v) : lengthIn m n v.val = true := by
  have hle : s.length ≤ n := by
    simp only [lengthIn, Bool.and_eq_true, decide_eq_true_eq] at hs
    exact hs.2
  have hstore : Varchar.store? (some n) s = some v := orError_eq_ok_iff.1 hv
  rwa [Varchar.val_of_store? (fun k hk ↦ Option.some.inj hk ▸ hle) hstore]

theorem lengthIn_of_field {m n : ℕ} {fld : Field String} {v : Str n}
    (hall : fld.all (lengthIn m n) = true) (hset : fld.isSet = true)
    (hv : (encode fld.toOption : Except DbError (Str n)) = .ok v) : lengthIn m n v.val = true := by
  cases fld with
  | unset => cases hset
  | null => cases hv
  | val s => exact lengthIn_of_encode hall hv

theorem isEmail_of_encode {p : Platform} {s : Option String} {e : Option (Str 255)}
    (hs : s.all p.isEmail = true) (he : (encode s : Except DbError (Option (Str 255))) = .ok e) :
    (e.all fun v ↦ p.isEmail v.val) = true := by
  rcases s with - | s
  · cases he
    rfl
  · have hemail : p.isEmail s = true := hs
    have hle : s.length ≤ 255 := (p.isEmail_length s hemail).trans (by decide)
    obtain ⟨v, hv, rfl⟩ : ∃ v, Varchar.store? (some 255) s = some v ∧ e = some v := by
      have he' : (orError .data (Varchar.store? (some 255) s)).map some = .ok e := he
      rcases hv : Varchar.store? (some 255) s with - | v
      · rw [hv] at he'
        cases he'
      · rw [hv] at he'
        exact ⟨v, rfl, (Except.ok.inj he').symm⟩
    rw [Option.all_some, Varchar.val_of_store? (fun k hk ↦ Option.some.inj hk ▸ hle) hv]
    exact hemail

theorem isEmail_of_field {p : Platform} {fld : Field String} {e : Option (Str 255)}
    (hall : fld.all p.isEmail = true)
    (he : (encode fld.toOption : Except DbError (Option (Str 255))) = .ok e) :
    (e.all fun v ↦ p.isEmail v.val) = true := by
  refine isEmail_of_encode (s := fld.toOption) ?_ he
  cases fld with
  | unset | null => rfl
  | val s => exact hall

/-! ### Billing profiles -/

section BillingProfiles

variable {p : Platform} {env : Env} {b b' : BillingProfile}

theorem readable_iff : b.readable p = true ↔
    lengthIn 1 255 b.legalName.val = true ∧ lengthIn 3 32 b.taxId.val = true ∧
    lengthIn 1 255 b.addressLine1.val = true ∧ lengthIn 1 120 b.city.val = true ∧
    lengthIn 1 120 b.province.val = true ∧ lengthIn 3 20 b.postalCode.val = true ∧
    (b.billingEmail.all fun e ↦ p.isEmail e.val) = true := by
  simp only [BillingProfile.readable, Bool.and_eq_true, and_assoc]

/-- The flag has no part in it. -/
theorem readable_of_flagOnly (h : BillingProfileService.FlagOnly b b')
    (hb : b.readable p = true) : b'.readable p = true := by
  rw [h]
  exact hb

/-- **A new profile is readable.** -/
theorem readable_of_row {id clientId : UUID} {body payload : BillingProfileCreate} {d : Bool}
    (hv : body.validate? p = some payload)
    (h : ClientService.billingProfileRow env id clientId payload d = .ok b) :
    b.readable p = true := by
  obtain ⟨hok, rfl⟩ := accept_eq_some_iff.1 hv
  simp only [Bool.and_eq_true, and_assoc] at hok
  obtain ⟨hlegal, htax, hline, -, hcity, hprovince, hpostal, -, hemail, -⟩ := hok
  simp only [ClientService.billingProfileRow, bind_eq_ok_iff, pure_eq_ok_iff] at h
  obtain ⟨legalName, hlegal', taxId, htax', line₁, hline', line₂, -, city, hcity', province,
    hprovince', postal, hpostal', country, -, email, hemail', rfl⟩ := h
  exact readable_iff.2 ⟨lengthIn_of_encode hlegal hlegal', lengthIn_of_encode htax htax',
    lengthIn_of_encode hline hline', lengthIn_of_encode hcity hcity',
    lengthIn_of_encode hprovince hprovince', lengthIn_of_encode hpostal hpostal',
    isEmail_of_encode hemail hemail'⟩

/-- **An edit keeps profiles readable.** -/
theorem readable_of_update {now : Time} {body payload : BillingProfileUpdate}
    {loaded : BillingProfile}
    (hv : body.validate? p = some payload) (hb : b.readable p = true) :
    ((Session.saved now loaded (BillingProfileService.changes payload)).fn b).readable p =
      true := by
  obtain ⟨hok, rfl⟩ := accept_eq_some_iff.1 hv
  simp only [Bool.and_eq_true, and_assoc] at hok
  obtain ⟨hlegal, htax, hline, -, hcity, hprovince, hpostal, -, hemail, -⟩ := hok
  refine Session.saved_keeps (P := fun b : BillingProfile ↦ b.readable p = true) ?_
    (fun _ _ hr ↦ hr) hb
  simp only [BillingProfileService.changes, Keeps.append, and_assoc]
  refine ⟨.patch ?legalName, .patch ?taxId, .patch ?taxIdType, .patch ?taxRegime, .patch ?line₁,
    .patch ?line₂, .patch ?city, .patch ?province, .patch ?postalCode, .patch ?country,
    .patch ?billingEmail⟩ <;> intro hset v hv r hr
  case taxIdType | taxRegime | line₂ | country => exact hr
  all_goals
    rw [readable_iff] at hr ⊢
    obtain ⟨h₁, h₂, h₃, h₄, h₅, h₆, h₇⟩ := hr
  case legalName => exact ⟨lengthIn_of_field hlegal hset hv, h₂, h₃, h₄, h₅, h₆, h₇⟩
  case taxId => exact ⟨h₁, lengthIn_of_field htax hset hv, h₃, h₄, h₅, h₆, h₇⟩
  case line₁ => exact ⟨h₁, h₂, lengthIn_of_field hline hset hv, h₄, h₅, h₆, h₇⟩
  case city => exact ⟨h₁, h₂, h₃, lengthIn_of_field hcity hset hv, h₅, h₆, h₇⟩
  case province => exact ⟨h₁, h₂, h₃, h₄, lengthIn_of_field hprovince hset hv, h₆, h₇⟩
  case postalCode => exact ⟨h₁, h₂, h₃, h₄, h₅, lengthIn_of_field hpostal hset hv, h₇⟩
  case billingEmail => exact ⟨h₁, h₂, h₃, h₄, h₅, h₆, isEmail_of_field hemail hv⟩

end BillingProfiles

/-! ### One request -/

section Step

variable {p : Platform} {s : Settings} {env : Env} {db db' : Db} {user : Except Fault User}
  {r r' : Request} {resp : Response}

/-- The billing profile of a conversion has been validated with its body. -/
theorem ConvertLeadBody.billingProfile_of_validate? {body body' : ConvertLeadBody}
    {payload : BillingProfileCreate} (hv : body.validate? p = some body')
    (hb : body'.billingProfile = some payload) :
    ∃ raw : BillingProfileCreate, raw.validate? p = some payload := by
  unfold ConvertLeadBody.validate? at hv
  rcases hraw : body.billingProfile with - | raw
  · simp only [hraw] at hv
    obtain ⟨-, rfl⟩ := accept_eq_some_iff.1 hv
    rw [hraw] at hb
    cases hb
  · simp only [hraw, Option.bind_eq_some_iff] at hv
    obtain ⟨valid, hvalid, haccept⟩ := hv
    obtain ⟨-, rfl⟩ := accept_eq_some_iff.1 haccept
    exact ⟨raw, hvalid.trans hb⟩

/-- The bodies from which billing profiles are written come out of their schema checks. -/
def Request.Checked (p : Platform) : Request → Prop
  | .convertLead _ body => ∃ raw : ConvertLeadBody, raw.validate? p = some body
  | .createBillingProfile _ body => ∃ raw : BillingProfileCreate, raw.validate? p = some body
  | .updateBillingProfile _ body => ∃ raw : BillingProfileUpdate, raw.validate? p = some body
  | _ => True

theorem Request.checked_of_validate? (hv : r.validate? p = some r') : r'.Checked p := by
  cases r with
  | convertLead leadId raw =>
    obtain ⟨body, hbody, rfl⟩ := Option.map_eq_some_iff.1 hv
    exact ⟨raw, hbody⟩
  | createBillingProfile clientId raw =>
    obtain ⟨body, hbody, rfl⟩ := Option.map_eq_some_iff.1 hv
    exact ⟨raw, hbody⟩
  | updateBillingProfile profileId raw =>
    obtain ⟨body, hbody, rfl⟩ := Option.map_eq_some_iff.1 hv
    exact ⟨raw, hbody⟩
  | _ =>
    simp only [Request.validate?, Option.map_eq_some_iff, accept_eq_some_iff,
      Option.some.injEq] at hv
    obtain ⟨-, -, rfl⟩ := hv
    trivial

/-- What a request makes of a stored billing profile: it changes its flag, or it edits it. -/
inductive EditsProfile (p : Platform) (env : Env) (db : Db) (r : Request) (b b' : BillingProfile) :
    Prop where
  | flag (h : BillingProfileService.FlagOnly b b')
  | edit {raw body : BillingProfileUpdate} (hv : raw.validate? p = some body)
    (hr : r = .updateBillingProfile b.id body)
    (h : Session.Flushed env.now (BillingProfileService.changes body) db b.id b b')

/-- The billing profile that a request creates, up to its flag. -/
inductive CreatesProfile (p : Platform) (env : Env) (db : Db) (r : Request) (b : BillingProfile) :
    Prop where
  | create {clientId : UUID} {raw body : BillingProfileCreate} {d : Bool} {b₀ : BillingProfile}
    (hv : raw.validate? p = some body) (hr : r = .createBillingProfile clientId body)
    (hrow : ClientService.billingProfileRow env (env.uuid 0) clientId body d = .ok b₀)
    (hflag : BillingProfileService.FlagOnly b₀ b)
  | convert {leadId : UUID} {conversion : ConvertLeadBody} {raw body : BillingProfileCreate}
    {b₀ : BillingProfile} (hv : raw.validate? p = some body)
    (hr : r = .convertLead leadId conversion) (hclient : db.clients.has (env.uuid 0) = false)
    (hrow : ClientService.billingProfileRow env (env.uuid 2) (env.uuid 0) body true = .ok b₀)
    (hflag : BillingProfileService.FlagOnly b₀ b)

theorem CreatesProfile.of_flagOnly {b b' : BillingProfile} (h : CreatesProfile p env db r b)
    (hflag : BillingProfileService.FlagOnly b b') : CreatesProfile p env db r b' := by
  cases h with
  | create hv hr hrow h => exact .create hv hr hrow (.trans _ _ _ h hflag)
  | convert hv hr hclient hrow h => exact .convert hv hr hclient hrow (.trans _ _ _ h hflag)

/-- **What a request does to the billing profiles**: those that it leaves have been edited, or had
their flags changed; a new one comes from a validated payload. -/
theorem Step.evolves_billingProfiles (h : Step p s env db user r resp db') (hr : r.Checked p) :
    Table.Evolves (EditsProfile p env db r) (CreatesProfile p env db r) db.billingProfiles
      db'.billingProfiles := by
  have hsame : ∀ b, EditsProfile p env db r b b := fun b ↦ .flag (.refl b)
  have hflags : ∀ {t : Table BillingProfile},
      Table.Evolves BillingProfileService.FlagOnly (CreatesProfile p env db r)
        db.billingProfiles t →
      Table.Evolves (EditsProfile p env db r) (CreatesProfile p env db r) db.billingProfiles t :=
    fun ht ↦ ht.mono (fun _ _ ↦ .flag) fun _ ↦ id
  have hcreates : ∀ a c : BillingProfile, CreatesProfile p env db r a →
      BillingProfileService.FlagOnly a c → CreatesProfile p env db r c := fun _ _ ↦ .of_flagOnly
  cases h with
  | @convertLead u leadId body l c a t _ _ _ _ hclient hfresh _ hbilling =>
    rcases hb : body.billingProfile with - | payload
    · rw [hb] at hbilling
      obtain rfl : t = db.billingProfiles := hbilling
      exact .refl hsame
    · rw [hb] at hbilling
      obtain ⟨b, hrow, hnew, rfl⟩ := hbilling
      obtain ⟨raw, hraw⟩ := hr
      obtain ⟨rawProfile, hprofile⟩ := ConvertLeadBody.billingProfile_of_validate? hraw hb
      rw [(ClientService.row_spec hclient).1] at hfresh
      exact .insert hsame hnew (.convert hprofile rfl hfresh hrow (.refl b))
  | @createBillingProfile u clientId body b _ _ hrow hnew =>
    obtain ⟨raw, hraw⟩ := hr
    exact hflags (BillingProfileService.evolves_create hcreates hnew
      (.create hraw rfl hrow (.refl b)))
  | @updateBillingProfile u k body b b' _ hb =>
    obtain ⟨raw, hraw⟩ := hr
    obtain rfl : b.id = k := hb.key_old
    exact hb.evolves hsame (.edit hraw rfl hb)
  | deleteBillingProfile _ _ ht => exact hflags (BillingProfileService.evolves_delete ht _)
  | @setDefaultBillingProfile u k b b' _ hb =>
    obtain ⟨hmem, rfl⟩ := Table.find?_eq_some_iff.1 hb
    exact hflags (BillingProfileService.evolves_setDefault hmem hcreates)
  | _ => exact .refl hsame

/-- **What holds of all billing profiles** after a request, if it does before. -/
theorem Step.forall_billingProfiles {P : BillingProfile → Prop}
    (h : Step p s env db user r resp db') (hr : r.Checked p)
    (hflag : ∀ {b b' : BillingProfile}, BillingProfileService.FlagOnly b b' → P b → P b')
    (hcreate : ∀ {id clientId : UUID} {raw body : BillingProfileCreate} {d : Bool}
      {b : BillingProfile}, raw.validate? p = some body →
      ClientService.billingProfileRow env id clientId body d = .ok b → P b)
    (hedit : ∀ {raw body : BillingProfileUpdate} {k : UUID} {b b' : BillingProfile},
      raw.validate? p = some body →
      Session.Flushed env.now (BillingProfileService.changes body) db k b b' → P b → P b')
    (hI : ∀ b ∈ db.billingProfiles, P b) : ∀ b ∈ db'.billingProfiles, P b := by
  intro b' hb'
  rcases h.evolves_billingProfiles hr b' hb' with ⟨b, hb, -, hchange⟩ | ⟨-, hnew⟩
  · cases hchange with
    | flag h => exact hflag h (hI b hb)
    | edit hv _ h => exact hedit hv h (hI b hb)
  · cases hnew with
    | create hv _ hrow h => exact hflag h (hcreate hv hrow)
    | convert hv _ _ hrow h => exact hflag h (hcreate hv hrow)

/-- **Billing profiles stay readable.** -/
theorem Step.readable_billingProfiles (h : Step p s env db user r resp db') (hr : r.Checked p)
    (hI : ∀ b ∈ db.billingProfiles, b.readable p = true) :
    ∀ b ∈ db'.billingProfiles, b.readable p = true := by
  refine h.forall_billingProfiles hr readable_of_flagOnly readable_of_row ?_ hI
  intro raw body k b b' hv hb hread
  rw [hb.new_eq]
  exact readable_of_update hv hread

/-- **No service gets a diagnostic.** -/
theorem Step.services_diagnostic (h : Step p s env db user r resp db')
    (hI : ∀ sv ∈ db.services, sv.diagnosticJson = none) :
    ∀ sv ∈ db'.services, sv.diagnosticJson = none := by
  have hevolves : ∀ {t : Table Service},
      Table.Evolves (fun x y : Service ↦ y.diagnosticJson = x.diagnosticJson)
        (fun x ↦ x.diagnosticJson = none) db.services t → ∀ x ∈ t, x.diagnosticJson = none := by
    intro t ht x hx
    rcases ht x hx with ⟨y, hy, -, heq⟩ | ⟨-, hnew⟩
    · exact heq.trans (hI y hy)
    · exact hnew
  cases h with
  | createService _ _ _ hrow hnew =>
    obtain ⟨-, -, -, hdiagnostic⟩ := ServiceService.row_spec hrow
    exact hevolves (.insert (fun _ ↦ rfl) hnew hdiagnostic)
  | updateService _ hs =>
    have heq := congrArg Service.diagnosticJson (ServiceService.eq_merge hs)
    exact hevolves (hs.evolves (fun _ ↦ rfl) heq)
  | changeServiceState _ _ hs =>
    have heq := hs.preserves (f := Service.diagnosticJson) (.assignText fun _ _ ↦ rfl)
      fun _ _ ↦ rfl
    exact hevolves (hs.evolves (fun _ ↦ rfl) heq)
  | _ => exact hI

theorem isOk_serviceAnswer {status : ℕ} {sm : ServiceWithMilestones} (hstatus : status < 400)
    (h : sm.service.diagnosticJson = none) : (serviceAnswer p status sm).isOk = true := by
  have hreadable : sm.service.readable p = true := by rw [Service.readable, h]; rfl
  rw [serviceAnswer, if_pos hreadable]
  exact decide_eq_true hstatus

theorem isOk_billingProfileAnswer {status : ℕ} {b : BillingProfile} (hstatus : status < 400)
    (h : b.readable p = true) : (billingProfileAnswer p status b).isOk = true := by
  rw [billingProfileAnswer, if_pos h]
  exact decide_eq_true hstatus

/-- **A committed request is answered with success.** -/
theorem Step.isOk (h : Step p s env db user r resp db') (hr : r.Checked p) (hI : Readable p db) :
    resp.isOk = true := by
  have hbilling := h.readable_billingProfiles hr hI.billingProfiles
  have hservices := h.services_diagnostic hI.services
  cases h with
  | createService _ _ _ _ hnew =>
    exact isOk_serviceAnswer (by decide) (hservices _ (Table.mem_insert_self hnew))
  | updateService _ hs =>
    exact isOk_serviceAnswer (by decide) (hservices _ hs.mem_new)
  | changeServiceState _ _ hs =>
    exact isOk_serviceAnswer (by decide) (hservices _ hs.mem_new)
  | createBillingProfile _ _ _ hnew =>
    exact isOk_billingProfileAnswer (by decide) (hbilling _ (Table.mem_insert_self hnew))
  | updateBillingProfile _ hb =>
    exact isOk_billingProfileAnswer (by decide) (hbilling _ hb.mem_new)
  | @setDefaultBillingProfile u k b b' _ hb _ hb' =>
    have hmem : b ∈ db.billingProfiles := Table.mem_of_find? hb
    subst hb'
    exact isOk_billingProfileAnswer (by decide) (readable_of_flagOnly
      (BillingProfileService.flagOnly_saved env.now b true) (hI.billingProfiles b hmem))
  | _ => rfl

theorem Step.readable (h : Step p s env db user r resp db') (hr : r.Checked p)
    (hI : Readable p db) : Readable p db' :=
  ⟨h.readable_billingProfiles hr hI.billingProfiles, h.services_diagnostic hI.services⟩

end Step

/-! ### All runs -/

section Runs

variable {p : Platform} {s : Settings} {db db' : Db} {a : Act} {answer : Option Response}

theorem readable_empty : Readable p Db.empty where
  billingProfiles _ hb := absurd hb Table.not_mem_empty
  services _ hs := absurd hs Table.not_mem_empty

theorem Happens.readable (h : Happens p s db a answer db') (hI : Readable p db) :
    Readable p db' := by
  cases h with
  | idle h => exact hI
  | step hv h => exact h.readable (Request.checked_of_validate? hv) hI
  | account h =>
    obtain ⟨t, rfl⟩ := TableOp.exists_setTable h
    exact ⟨hI.billingProfiles, hI.services⟩
  | refused => exact hI

/-- A request that is not answered with success has changed nothing. -/
theorem Happens.failed (h : Happens p s db a answer db') (hI : Readable p db) {resp : Response}
    (hresp : answer = some resp) (hfail : resp.isOk = false) : db' = db := by
  cases h with
  | idle h => rfl
  | step hv h =>
    obtain rfl := Option.some.inj hresp
    rw [h.isOk (Request.checked_of_validate? hv) hI] at hfail
    cases hfail
  | account h => cases hresp
  | refused => rfl

theorem readable_run (acts : List Act) : Readable p (run p s acts).db :=
  run_induction (I := fun r ↦ Readable p r.db) readable_empty
    (fun _ _ _ _ _ _ hI h ↦ h.readable hI) acts

end Runs

end ZanovixCrm
