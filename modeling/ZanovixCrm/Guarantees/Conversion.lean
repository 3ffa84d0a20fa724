import ZanovixCrm.Guarantees.FiscalIdentity
import ZanovixCrm.Guarantees.LeadConversion
import ZanovixCrm.Guarantees.Storability

/-!
# Conversion of a lead

Six statements in one transaction, of which any may fail. **A conversion either fails and leaves
every row as it was, or it does all of what it is for and nothing else**: `Converts` lists the new
rows field by field and every table that stays as it is. Time stamps and new identifiers are left
out of the list, and so is the text of the activity entry.

The one field of a payload that may not be stored as it was sent is the country of a billing
profile. Its length is checked before it is upper-cased, and where it then has more than two
characters, the column takes it only if the excess is spaces, which it drops
(`conversion_country`). So there are two readings of `Converts`. With the country up to such spaces
the conversion is complete in every state and for every body (`conversion_complete`); with the
country as it was sent, if and only if the upper-cased country has at most two characters or
something else stands in the way of the conversion (`conversion_complete_iff`).
-/

namespace ZanovixCrm

/-! ### What a conversion is for -/

/-- The name of the new client. -/
def conversionName (body : ConvertLeadBody) (l : Lead) : String :=
  if body.name.getD "" ≠ "" then body.name.getD ""
  else if (l.company.map Varchar.val).getD "" ≠ "" then (l.company.map Varchar.val).getD ""
  else l.name.val

/-- The client has what the body says, and its name from the body or the lead. -/
structure ClientOf (body : ConvertLeadBody) (l : Lead) (c : Client) : Prop where
  name : c.name.val = conversionName body l
  sector : c.sector.map Varchar.val = body.sector
  size : c.size.map Varchar.val = body.size
  region : c.region.map Varchar.val = body.region
  ownerId : c.ownerId = body.ownerId
  mrrCents : c.mrrCents.map PgInt.val = body.mrrCents
  stage : TextEnum.text c.stage = body.stage.getD "lead"
  lifetimeValueCents : c.lifetimeValueCents = none

/-- The primary contact of the client, with the data of the lead. -/
structure ContactOf (l : Lead) (c : Client) (k : Contact) : Prop where
  clientId : k.clientId = c.id
  isPrimary : k.isPrimary = true
  name : k.name = l.name
  email : k.email = some l.email
  phone : k.phone = l.phone
  role : k.role = l.role

/-- The default billing profile of the client, with the data of the payload. How its country is
stored is left to `stored`. -/
structure ProfileOf (stored : String → String → Prop) (payload : BillingProfileCreate) (c : Client)
    (b : BillingProfile) : Prop where
  clientId : b.clientId = c.id
  isDefault : b.isDefault = true
  legalName : b.legalName.val = payload.legalName
  taxId : b.taxId.val = payload.taxId
  taxIdType : b.taxIdType = payload.taxIdType
  taxRegime : b.taxRegime = payload.taxRegime
  addressLine1 : b.addressLine1.val = payload.addressLine1
  addressLine2 : b.addressLine2.map Varchar.val = payload.addressLine2
  city : b.city.val = payload.city
  province : b.province.val = payload.province
  postalCode : b.postalCode.val = payload.postalCode
  country : stored payload.country b.country.code.val
  billingEmail : b.billingEmail.map Varchar.val = payload.billingEmail

/-- One more billing profile, if there is a payload. -/
def AddsProfileOf (stored : String → String → Prop) (c : Client) (t t' : Table BillingProfile) :
    Option BillingProfileCreate → Prop
  | some payload => ∃ b, t'.rows = t.rows ++ [b] ∧ ProfileOf stored payload c b
  | none => t' = t

/-- **All that a conversion does**, from the state `db` to the state `db'`. -/
structure Converts (stored : String → String → Prop) (env : Env) (body : ConvertLeadBody) (l : Lead)
    (c : Client) (db db' : Db) : Prop where
  -- The lead
  qualified : l.status = .qualified
  unlinked : l.convertedClientId = none
  leads : db'.leads.rows = db.leads.rows.map fun x ↦
    if x.id = l.id then
      { x with status := .converted, convertedClientId := some c.id, updatedAt := env.now }
    else x
  -- The new rows
  clients : db'.clients.rows = db.clients.rows ++ [c]
  client : ClientOf body l c
  contact : ∃ k, db'.contacts.rows = db.contacts.rows ++ [k] ∧ ContactOf l c k
  billingProfile : AddsProfileOf stored c db.billingProfiles db'.billingProfiles body.billingProfile
  entry : ∃ a, db'.activityLog.rows = db.activityLog.rows ++ [a] ∧ a.clientId = c.id ∧
    a.kind = .leadConverted
  -- What stays
  users : db'.users = db.users
  services : db'.services = db.services
  milestones : db'.milestones = db.milestones
  tickets : db'.tickets = db.tickets
  messages : db'.messages = db.messages

/-- **Complete and atomic**: the conversion fails and has done nothing, or it does all of the above,
and then every further attempt is refused with the client that it has created. -/
def ConvertsAtomically (stored : String → String → Prop) (env : Env) (db : Db) (leadId : UUID)
    (body : ConvertLeadBody) (actor : UUID) : Prop :=
  (∃ f, (ClientService.convertFromLead env leadId body actor).transact db = (.error f, db)) ∨
  ∃ l c db', (ClientService.convertFromLead env leadId body actor).transact db = (.ok c, db') ∧
    db.leads.find? leadId = some l ∧ Converts stored env body l c db db' ∧
    ∀ env' body' actor', (ClientService.convertFromLead env' leadId body' actor').transact db' =
      (.error (.leadAlreadyConverted leadId c.id), db')

/-! ### The new rows -/

section Rows

variable {p : Platform} {env : Env} {l : Lead}

theorem clientName_eq (body : ConvertLeadBody) (l : Lead) :
    ClientService.clientName body l = conversionName body l := by
  have horElse : ∀ (o : Option String) (t : String),
      ClientService.orElse o t = if o.getD "" ≠ "" then o.getD "" else t := by
    intro o t
    rcases o with - | x
    · rfl
    · by_cases hx : x = "" <;> simp [ClientService.orElse, Option.filter, hx]
  rw [ClientService.clientName, horElse, horElse]
  rfl

theorem maxLength_of_all {n : ℕ} {o : Option String} (h : o.all (maxLength n) = true) :
    ∀ t ∈ o, t.length ≤ n := by
  rintro t rfl
  exact of_decide_eq_true h

/-- The name of the client fits its column. -/
theorem length_conversionName {body : ConvertLeadBody} (h : body.name.all (maxLength 200) = true) :
    (conversionName body l).length ≤ 200 := by
  unfold conversionName
  split
  · rcases hname : body.name with - | t
    · exact Nat.zero_le _
    · exact maxLength_of_all h t hname
  · split
    · rcases hcompany : l.company with - | t
      · exact Nat.zero_le _
      · exact t.fits 200 rfl
    · exact l.name.fits 200 rfl

/-- The lengths that the schema has checked. -/
theorem ConvertLeadBody.maxLengths_of_validate? {raw body : ConvertLeadBody}
    (hv : raw.validate? p = some body) :
    body.name.all (maxLength 200) = true ∧ body.sector.all (maxLength 100) = true ∧
      body.size.all (maxLength 50) = true ∧ body.region.all (maxLength 100) = true := by
  unfold ConvertLeadBody.validate? at hv
  rcases hraw : raw.billingProfile with - | payload
  · simp only [hraw, accept_eq_some_iff, Bool.and_eq_true] at hv
    obtain ⟨⟨⟨⟨⟨hname, hsector⟩, hsize⟩, hregion⟩, -⟩, rfl⟩ := hv
    exact ⟨hname, hsector, hsize, hregion⟩
  · simp only [hraw, Option.bind_eq_some_iff, accept_eq_some_iff, Bool.and_eq_true] at hv
    obtain ⟨-, -, ⟨⟨⟨⟨hname, hsector⟩, hsize⟩, hregion⟩, -⟩, rfl⟩ := hv
    exact ⟨hname, hsector, hsize, hregion⟩

/-- **The new client.** -/
theorem clientOf_row {raw body : ConvertLeadBody} (hv : raw.validate? p = some body) {c : Client}
    (h : ClientService.row env (ClientService.clientName body l) body.sector body.size body.region
      body.ownerId body.mrrCents (body.stage.getD "lead") = .ok c) : ClientOf body l c := by
  obtain ⟨hname, hsector, hsize, hregion⟩ := ConvertLeadBody.maxLengths_of_validate? hv
  have hlen : ∀ t ∈ some (conversionName body l), t.length ≤ 200 := fun t ht ↦
    Option.some.inj ht ▸ length_conversionName hname
  rw [clientName_eq] at h
  simp only [ClientService.row, bind_eq_ok_iff, pure_eq_ok_iff] at h
  obtain ⟨_, hname', _, hsector', _, hsize', _, hregion', _, hmrr, _, hstage, rfl⟩ := h
  exact {
    name := (Option.some.inj (eq_some_val_of_encode hlen hname')).symm
    sector := map_val_of_encode (maxLength_of_all hsector) hsector'
    size := map_val_of_encode (maxLength_of_all hsize) hsize'
    region := map_val_of_encode (maxLength_of_all hregion) hregion'
    ownerId := rfl
    mrrCents := map_int_of_encode hmrr
    stage := encodeText_eq_ok_iff.1 hstage
    lifetimeValueCents := rfl }

/-- The text of a country, without spaces at its end. -/
def StoredCountry (sent stored : String) : Prop :=
  ∃ k, sent.toList = stored.toList ++ List.replicate k ' '

theorem storedCountry_of_encode {sent : String} {v : CountryCode}
    (h : (encode (some sent) : Except DbError CountryCode) = .ok v) :
    StoredCountry sent v.code.val := by
  have hbind : ((orError .data (Varchar.store? (some 2) sent)).bind fun w ↦
      if hw : w.val.length = 2 then .ok ⟨w, hw⟩ else .error .check) = .ok v := h
  rcases hstore : Varchar.store? (some 2) sent with - | w
  · rw [hstore] at hbind
    cases hbind
  · rw [hstore] at hbind
    simp only [orError, Except.bind] at hbind
    split at hbind
    · cases hbind
      exact Varchar.exists_toList_of_store? hstore
    · cases hbind

/-- **The new billing profile.** -/
theorem profileOf_row {raw payload : BillingProfileCreate} (hv : raw.validate? p = some payload)
    {c : Client} (hc : c.id = env.uuid 0) {b : BillingProfile}
    (h : ClientService.billingProfileRow env (env.uuid 2) (env.uuid 0) payload true = .ok b) :
    ProfileOf StoredCountry payload c b := by
  obtain ⟨hok, rfl⟩ := accept_eq_some_iff.1 hv
  simp only [Bool.and_eq_true, and_assoc] at hok
  obtain ⟨hlegal, htax, hline₁, hline₂, hcity, hprovince, hpostal, -, hemail, -⟩ := hok
  simp only [ClientService.billingProfileRow, bind_eq_ok_iff, pure_eq_ok_iff] at h
  obtain ⟨_, hlegal', _, htax', _, hline₁', _, hline₂', _, hcity', _, hprovince', _, hpostal', _,
    hcountry, _, hemail', rfl⟩ := h
  have hexact : ∀ {m n : ℕ} {t : String} {v : Str n}, lengthIn m n t = true →
      (encode (some t) : Except DbError (Str n)) = .ok v → v.val = t := by
    intro m n t v hlen hv
    simp only [lengthIn, Bool.and_eq_true, decide_eq_true_eq] at hlen
    have hsome := eq_some_val_of_encode (fun s hs ↦ Option.some.inj hs ▸ hlen.2) hv
    exact (Option.some.inj hsome).symm
  exact {
    clientId := hc.symm
    isDefault := rfl
    legalName := hexact hlegal hlegal'
    taxId := hexact htax htax'
    taxIdType := rfl
    taxRegime := rfl
    addressLine1 := hexact hline₁ hline₁'
    addressLine2 := map_val_of_encode (maxLength_of_all hline₂) hline₂'
    city := hexact hcity hcity'
    province := hexact hprovince hprovince'
    postalCode := hexact hpostal hpostal'
    country := storedCountry_of_encode hcountry
    billingEmail := map_val_of_encode
      (fun t ht ↦ (p.isEmail_length t (by rw [ht] at hemail; exact hemail)).trans (by decide))
      hemail' }

end Rows

/-! ### The conversion -/

section Convert

variable {p : Platform} {env : Env} {db db' : Db} {l : Lead} {c : Client}

/-- **A further attempt is refused** with the client of the lead. -/
theorem transact_convertFromLead_of_linked {leadId : UUID} (hl : db.leads.find? leadId = some l)
    (hc : l.convertedClientId = some c.id) (env : Env) (body : ConvertLeadBody) (actor : UUID) :
    (ClientService.convertFromLead env leadId body actor).transact db =
      (.error (.leadAlreadyConverted leadId c.id), db) := by
  refine Prog.transact_of_error ?_
  rw [ClientService.convertFromLead, Prog.run_bind_ok (Prog.run_query _ db), hl]
  simp only [Prog.demand, Prog.ret_bind, hc]
  rfl

/-- **Conversion is complete and atomic**, up to spaces at the end of the country. -/
theorem conversion_complete (p : Platform) (env : Env) (db : Db) (leadId actor : UUID)
    {raw body : ConvertLeadBody} (hv : raw.validate? p = some body) :
    ConvertsAtomically StoredCountry env db leadId body actor := by
  rcases (ClientService.convertFromLead env leadId body actor).transact_cases db with
    ⟨c, db', hrun, htransact⟩ | ⟨f, -, htransact⟩
  swap
  · exact Or.inl ⟨f, htransact⟩
  obtain ⟨l, a, t, hl, hunlinked, hqualified, hrow, hclient, hcontact, hbilling, ha, -, hdb⟩ :=
    ClientService.ensures_convertFromLead c db' hrun
  have hid : c.id = env.uuid 0 := (ClientService.row_spec hrow).1
  obtain ⟨hmem, hkey⟩ := Table.find?_eq_some_iff.1 hl
  have hsaved := ClientService.saved_conversion env env.now hqualified hunlinked
  have hfound : db'.leads.find? leadId = some { l with
      status := .converted, convertedClientId := some c.id, updatedAt := env.now } := by
    rw [hdb, Table.find?_alter_self hl, hsaved, hid]
  refine Or.inr ⟨l, c, db', htransact, hl, ?_, fun env' body' actor' ↦
    transact_convertFromLead_of_linked hfound rfl env' body' actor'⟩
  subst hdb
  refine {
    qualified := hqualified
    unlinked := hunlinked
    leads := ?_
    clients := Table.rows_insert hclient
    client := clientOf_row hv hrow
    contact := ⟨_, Table.rows_insert hcontact, ⟨hid.symm, rfl, rfl, rfl, rfl, rfl⟩⟩
    billingProfile := ?_
    entry := ⟨a, Table.rows_insert ha.fresh, ha.clientId_eq, ha.kind_eq⟩
    users := rfl, services := rfl, milestones := rfl, tickets := rfl, messages := rfl }
  · rw [Table.rows_alter]
    refine List.map_congr_left fun x hx ↦ ?_
    by_cases hxl : x.id = l.id
    · obtain rfl : x = l := Table.eq_of_key_eq hx hmem hxl
      rw [if_pos hkey, if_pos rfl, hsaved, hid]
    · rw [if_neg fun h ↦ hxl (h.trans hkey.symm), if_neg hxl]
  · rcases hb : body.billingProfile with - | payload
    · rw [hb] at hbilling
      exact hbilling
    · rw [hb] at hbilling
      obtain ⟨b, hbrow, hnew, rfl⟩ := hbilling
      obtain ⟨rawProfile, hprofile⟩ := ConvertLeadBody.billingProfile_of_validate? hv hb
      exact ⟨b, Table.rows_insert hnew, profileOf_row hprofile hid hbrow⟩

end Convert

/-! ### The country of the billing profile -/

/-- **Nothing stands in the way of the conversion**: the lead is qualified and has no client, the
users that the new rows refer to exist, every value fits its column, and the new identifiers are
not in use. -/
structure Unhindered (env : Env) (db : Db) (leadId : UUID) (body : ConvertLeadBody)
    (actor : UUID) : Prop where
  lead : ∃ l, db.leads.find? leadId = some l ∧ l.status = .qualified ∧ l.convertedClientId = none
  owner : refersTo db.users body.ownerId = true
  actor : db.users.has actor = true
  values : body.storable = true
  client : db.clients.has (env.uuid 0) = false
  contact : db.contacts.has (env.uuid 1) = false
  billingProfile : ∀ payload, body.billingProfile = some payload →
    db.billingProfiles.has (env.uuid 2) = false
  entry : db.activityLog.has (env.uuid 3) = false

/-- The country that is sent, already in upper case, has the length of its column. -/
def CountryFits (body : ConvertLeadBody) : Prop :=
  ∀ payload, body.billingProfile = some payload → payload.country.length ≤ 2

section Country

variable {p : Platform} {env : Env} {db db' : Db} {l : Lead} {c : Client} {leadId actor : UUID}
  {raw body : ConvertLeadBody}

/-- A conversion that has nothing in its way goes through. -/
theorem Unhindered.exists_run (h : Unhindered env db leadId body actor) (hvalid : db.Valid)
    (hv : raw.validate? p = some body) :
    ∃ c db', (ClientService.convertFromLead env leadId body actor).run db = .ok (c, db') := by
  obtain ⟨l, hl, hqualified, hunlinked⟩ := h.lead
  obtain ⟨hmem, rfl⟩ := Table.find?_eq_some_iff.1 hl
  obtain ⟨⟨c, hrow⟩, hprofile⟩ := (rows_converted_iff env l hv).2 h.values
  exact ⟨c, exists_run_convertFromLead hvalid hmem hqualified hunlinked h.owner h.actor h.client
    h.contact h.entry hrow fun payload hp ↦ ⟨h.billingProfile payload hp, hprofile payload hp⟩⟩

/-- An entry is appended under a new identifier and for an actor who exists. -/
theorem ActivityLogService.ensures_appended {id clientId : UUID} {kind : ActivityKind}
    {text : String} : (appendActivity env id clientId kind text actor).Ensures db fun _ _ ↦
      db.activityLog.has id = false ∧ db.users.has actor = true := by
  rw [appendActivity, Session.ensures_add]
  intro a hrow hnew hcheck
  obtain ⟨hid, -, hactor⟩ := row_spec hrow
  have hrefers : refersTo db.users a.actorUserId = true :=
    (Bool.and_eq_true_iff.1 (checkRow_eq_ok_iff.1 hcheck).2).2
  rw [hactor] at hrefers
  exact ⟨hid ▸ hnew, hrefers⟩

/-- The billing step of a conversion adds a profile under a new identifier, if any. -/
theorem ClientService.ensures_billed {b : Option BillingProfileCreate} :
    (addBillingProfile env b).Ensures db fun _ db' ↦
      (db'.users = db.users ∧ db'.activityLog = db.activityLog) ∧
      ∀ payload, b = some payload → db.billingProfiles.has (env.uuid 2) = false ∧
        ∃ row, billingProfileRow env (env.uuid 2) (env.uuid 0) payload true = .ok row := by
  rcases b with - | payload
  · exact Session.ensures_pure.2 ⟨⟨rfl, rfl⟩, fun _ h ↦ nomatch h⟩
  · rw [addBillingProfile, Session.ensures_add]
    intro row hrow hnew _
    have hid : row.id = env.uuid 2 := (billingProfileRow_spec hrow).1
    refine ⟨⟨rfl, rfl⟩, fun payload' h ↦ ?_⟩
    obtain rfl := Option.some.inj h
    exact ⟨hid ▸ hnew, row, hrow⟩

/-- A conversion that goes through had nothing in its way. -/
theorem ensures_unhindered (hv : raw.validate? p = some body) :
    (ClientService.convertFromLead env leadId body actor).Ensures db fun _ _ ↦
      Unhindered env db leadId body actor := by
  rw [ClientService.convertFromLead, Prog.ensures_bind, Prog.ensures_query, Prog.ensures_bind,
    Prog.ensures_demand]
  intro l hl
  rcases hunlinked : l.convertedClientId with - | clientId
  swap
  · exact Prog.ensures_raise
  simp only [Prog.ensures_bind, Prog.ensures_require, Session.ensures_add, decide_eq_true_eq]
  intro hqualified c hrow hclient hcheck _ hr hcontact _
  obtain rfl := Except.ok.inj hr
  have hid : c.id = env.uuid 0 := (ClientService.row_spec hrow).1
  have howner : refersTo db.users c.ownerId = true := (checkRow_eq_ok_iff.1 hcheck).2
  refine ClientService.ensures_billed.mono ?_
  rintro - db₁ ⟨⟨husers, hlog⟩, hprofile⟩
  refine ActivityLogService.ensures_appended.mono ?_
  rintro - db₂ ⟨hentry, hactor⟩
  -- The two statements that are left do not matter.
  refine fun _ db₃ _ _ _ _ ↦ {
    lead := ⟨l, hl, hqualified, hunlinked⟩
    owner := ClientService.ownerId_of_row hrow ▸ howner
    actor := husers ▸ hactor
    values := (rows_converted_iff env l hv).1 ⟨⟨c, hrow⟩, fun b hb ↦ (hprofile b hb).2⟩
    client := hid ▸ hclient
    contact := hcontact
    billingProfile := fun b hb ↦ (hprofile b hb).1
    entry := hlog ▸ hentry }

/-- A country that has the length of its column is stored as it is. -/
theorem StoredCountry.eq {sent stored : String} (h : StoredCountry sent stored)
    (hsent : sent.length ≤ 2) (hstored : stored.length = 2) : stored = sent := by
  obtain ⟨k, hk⟩ := h
  have hlen := congrArg List.length hk
  rw [List.length_append, List.length_replicate, String.length_toList, String.length_toList,
    hstored] at hlen
  obtain rfl : k = 0 := by omega
  rw [List.replicate_zero, List.append_nil] at hk
  exact String.toList_inj.1 hk.symm

/-- A conversion with a country that fits stores the whole payload. -/
theorem Converts.exact (h : Converts StoredCountry env body l c db db') (hfits : CountryFits body) :
    Converts (fun sent stored ↦ stored = sent) env body l c db db' := by
  refine { h with billingProfile := ?_ }
  rcases hb : body.billingProfile with - | payload
  · have hbilling := h.billingProfile
    rw [hb] at hbilling
    exact hbilling
  · have hbilling := h.billingProfile
    rw [hb] at hbilling
    obtain ⟨b, hrows, hprofile⟩ := hbilling
    exact ⟨b, hrows, { hprofile with
      country := hprofile.country.eq (hfits payload hb) b.country.iso2 }⟩

/-- A conversion that stores the whole payload had a country that fits. -/
theorem Converts.countryFits (h : Converts (fun sent stored ↦ stored = sent) env body l c db db') :
    CountryFits body := by
  intro payload hb
  have hbilling := h.billingProfile
  rw [hb] at hbilling
  obtain ⟨b, -, hprofile⟩ := hbilling
  exact hprofile.country ▸ b.country.iso2.le

/-- **Conversion is complete and atomic if and only if** the country fits its column in upper case
or something else stands in the way of the conversion. -/
theorem conversion_complete_iff (p : Platform) (env : Env) (hvalid : db.Valid)
    (leadId actor : UUID) (hv : raw.validate? p = some body) :
    ConvertsAtomically (fun sent stored ↦ stored = sent) env db leadId body actor ↔
      CountryFits body ∨ ¬Unhindered env db leadId body actor := by
  constructor
  · rintro (⟨f, hf⟩ | ⟨l, c, db', -, -, hconverts, -⟩)
    · refine Or.inr fun h ↦ ?_
      obtain ⟨c, db', hrun⟩ := h.exists_run hvalid hv
      rw [Prog.transact_of_ok hrun] at hf
      cases hf
    · exact Or.inl hconverts.countryFits
  · rintro (hfits | hhindered)
    · rcases conversion_complete p env db leadId actor hv with hfails | hdone
      · exact Or.inl hfails
      · obtain ⟨l, c, db', hrun, hl, hconverts, hagain⟩ := hdone
        exact Or.inr ⟨l, c, db', hrun, hl, hconverts.exact hfits, hagain⟩
    · rcases (ClientService.convertFromLead env leadId body actor).transact_cases db with
        ⟨c, db', hrun, -⟩ | ⟨f, -, hf⟩
      · exact absurd (ensures_unhindered hv c db' hrun) hhindered
      · exact Or.inl ⟨f, hf⟩

end Country

/-- An operator and a qualified lead. -/
def convertibleLead : List Act :=
  let root : User := .sample 1 (.lit "root@example.com") .admin none
  let lead : LeadCreate :=
    ⟨"Ada", "ada@example.com", none, some "Acme", .general, .webForm, none, none, none⟩
  let send (r : Request) : Act := .request (.sample 10) (.ok "root@example.com") (.bound r)
  [.account (.insert root), send (.createLead ⟨[], none⟩ lead),
    send (.updateLeadStatus 10 .contacted), send (.updateLeadStatus 10 .qualified)]

/-- A conversion with a billing profile in the given country. -/
def billedIn (country : String) : ConvertLeadBody :=
  ⟨none, some "IT", none, none, some 1, some 900, none,
    some ⟨"Ada", "12345678Z", .nif, .general, "Main Street 1", none, "Madrid", "Madrid", "28001",
      country, none, false⟩⟩

/-- The conversion of the lead succeeds, and does all that it is for. -/
theorem conversion_complete_billed :
    (billedIn "es").validate? .sample = some (billedIn "ES") ∧
    ((ClientService.convertFromLead (.sample 50) 10 (billedIn "ES") 1).transact
      (run .sample .sample convertibleLead).db).1.toOption.map Client.id = some 50 ∧
    ConvertsAtomically (fun sent stored ↦ stored = sent) (.sample 50)
      (run .sample .sample convertibleLead).db 10 (billedIn "ES") 1 := by
  have hv : (billedIn "es").validate? .sample = some (billedIn "ES") := by decide +kernel
  have hfits : CountryFits (billedIn "ES") := by
    rintro payload ⟨⟩
    decide
  refine ⟨hv, by decide +kernel, ?_⟩
  exact (conversion_complete_iff .sample (.sample 50) (valid_run _) 10 1 hv).2 (Or.inl hfits)

/-- A platform for an example, with one more letter in its case tables. -/
def Platform.sharpS : Platform :=
  { Platform.sample with
    upper := fun s ↦ if s = "ß " then "SS " else Platform.sample.upper s }

/-- **The country can be stored as less than the payload has.** The request has two characters. -/
theorem conversion_country :
    (billedIn "ß ").validate? .sharpS = some (billedIn "SS ") ∧
    ¬ConvertsAtomically (fun sent stored ↦ stored = sent) (.sample 50)
      (run .sample .sample convertibleLead).db 10 (billedIn "SS ") 1 := by
  refine ⟨by decide +kernel, ?_⟩
  have hstored : ((ClientService.convertFromLead (.sample 50) 10 (billedIn "SS ") 1).transact
      (run .sample .sample convertibleLead).db).2.billingProfiles.rows.map
        (fun b ↦ b.country.code.val) = ["SS"] := by
    decide +kernel
  have hnone : (run .sample .sample convertibleLead).db.billingProfiles.rows = [] := by
    decide +kernel
  rintro (⟨f, hf⟩ | ⟨l, c, db', hrun, -, hconverts, -⟩)
  · rw [hf, hnone] at hstored
    cases hstored
  · obtain ⟨b, hrows, hb⟩ := hconverts.billingProfile
    have hcountry : b.country.code.val = "SS " := hb.country
    rw [hrun, hrows, hnone, List.nil_append, List.map_singleton, hcountry] at hstored
    exact absurd hstored (by decide)

end ZanovixCrm
