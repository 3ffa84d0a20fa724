import ZanovixCrm.Api.Steps
import ZanovixCrm.Guarantees.StorableBodies

/-!
# Storability

Where the schemas and the tables differ, a body passes the schema and the database refuses the row.
**The rows that a request has its service write satisfy the constraints on their values exactly if
its body is storable, and then no statement of it is refused for a value** (`storable_iff`): neither
those that write the row nor the entry that records the change, whose text is made of texts that
have been stored.

The index of a milestone is a part of the path and not of a body. It has to be an `integer`, since
the database is asked for it first.
-/

namespace ZanovixCrm

/-! ### Statements that are not refused for a value -/

/-- The database refuses a value that it is sent: `NULL` where there must be one, a text outside of
an enumeration, a value that the column cannot represent. -/
def Fault.isValueError : Fault → Bool
  | .db .notNull | .db .check | .db .data => true
  | _ => false

/-- The exception is none of these. -/
def NoValueError (f : Fault) : Prop := f.isValueError = false

section Texts

theorem nulFree_append {a b : String} : nulFree (a ++ b) = (nulFree a && nulFree b) := by
  simp [nulFree, String.toList_append, Bool.not_or]

theorem nulFree_val {bound : Option ℕ} (v : Varchar bound) : nulFree v.val = true := by
  simpa [nulFree] using v.noNul

theorem nulFree_toString (n : ℕ) : nulFree (toString n) = true := by
  have hdigits : Char.ofNat 0 ∉ Nat.toDigits 10 n := by
    intro hc
    exact absurd (Nat.isDigit_of_mem_toDigits (by decide) (by decide) hc) (by decide)
  simpa [nulFree, Nat.toString_eq_repr, Nat.repr] using hdigits

theorem nulFree_intercalate {sep : String} {texts : List String} (hsep : nulFree sep = true)
    (h : ∀ t ∈ texts, nulFree t = true) : nulFree (sep.intercalate texts) = true := by
  induction texts with
  | nil => rw [String.intercalate_nil]; rfl
  | cons t texts ih =>
    have ht : nulFree t = true := h t List.mem_cons_self
    have htail := ih fun u hu ↦ h u (List.mem_cons_of_mem t hu)
    rcases texts with - | ⟨u, texts⟩
    · rw [String.intercalate_singleton, ht]
    · rw [String.intercalate_cons_cons, nulFree_append, nulFree_append, ht, hsep, htail]
      rfl

/-- The names of the fields that were set. -/
theorem nulFree_keyOf {α : Type} {name : String} {f : Field α} (hname : nulFree name = true) :
    ∀ t ∈ TicketService.keyOf name f, nulFree t = true := by
  intro t ht
  unfold TicketService.keyOf at ht
  split at ht
  · rw [List.mem_singleton.1 ht, hname]
  · cases ht

theorem nulFree_keysRepr {keys : List String} (h : ∀ k ∈ keys, nulFree k = true) :
    nulFree (TicketService.keysRepr keys) = true := by
  have hquoted : ∀ t ∈ keys.map (fun k ↦ "'" ++ k ++ "'"), nulFree t = true := by
    intro t ht
    obtain ⟨k, hk, rfl⟩ := List.mem_map.1 ht
    rw [nulFree_append, nulFree_append, h k hk]
    rfl
  rw [TicketService.keysRepr, nulFree_append, nulFree_append,
    nulFree_intercalate (by decide) hquoted]
  rfl

/-- The text of a value has no NUL. -/
theorem nulFree_of_isText {t : String} (α : Type) [TextEnum α]
    (hall : ((TextEnum.values : List α).all fun a ↦ nulFree (TextEnum.text a)) = true)
    (h : isText α t = true) : nulFree t = true := by
  obtain ⟨a, ha⟩ := Option.isSome_iff_exists.1 h
  rw [← TextEnum.ofText?_eq_some_iff.1 ha]
  exact List.all_eq_true.1 hall a (TextEnum.mem_values a)

/-- The text of an attribute after an update. -/
theorem nulFree_onto {bound : Option ℕ} {f : Field String} (v : Varchar bound)
    (h : f.required nulFree = true) : nulFree ((f.onto (some v.val)).getD "") = true := by
  cases f with
  | unset => exact nulFree_val v
  | null => rfl
  | val t => exact h

end Texts

section Statements

variable {ρ : Type} [Keyed ρ UUID] {db : Db}

theorem noValueError_of_checkRow [Relation ρ] {r : ρ} {e : DbError}
    (h : checkRow db r = .error e) : NoValueError (.db e) := by
  unfold checkRow at h
  split at h
  · cases h
    rfl
  · split at h
    · cases h
    · cases h
      rfl

theorem noValueError_of_checkChange [Relation ρ] {old new : ρ} {e : DbError}
    (h : checkChange db old new = .error e) : NoValueError (.db e) := by
  unfold checkChange at h
  split at h
  · cases h
  · exact noValueError_of_checkRow h

/-- The values of a statement have been encoded when it is sent. -/
theorem noValueError_of_perform [Relation ρ] {op : TableOp ρ} {e : DbError}
    (h : op.perform db = .error e) : NoValueError (.db e) := by
  have hmap : ∀ {x : Except DbError Unit} {db' : Db},
      x.map (fun _ ↦ db') = .error e → x = .error e := by
    intro x db' hx
    rcases x with e' | u
    · exact congrArg Except.error (Except.error.inj hx)
    · cases hx
  cases op with
  | insert r =>
    rw [TableOp.perform] at h
    split at h
    · cases h
      rfl
    · exact noValueError_of_checkRow (hmap h)
  | update k a =>
    rw [TableOp.perform] at h
    split at h
    · cases h
      rfl
    · exact noValueError_of_checkChange (hmap h)
  | updateIf k q a =>
    rw [TableOp.perform] at h
    split at h
    · cases h
    · split at h
      · exact noValueError_of_checkChange (hmap h)
      · cases h

theorem safe_exec [Stored ρ] {op : TableOp ρ} :
    (Prog.exec (Stored.wrap op) : Tx Unit).Refuses db NoValueError := by
  rw [Prog.refuses_exec]
  intro f hf
  have hmap : ((Stored.wrap op).perform db).mapError Fault.db = .error f := hf
  rw [Stored.perform_wrap] at hmap
  rcases hop : op.perform db with e | db'
  · rw [hop] at hmap
    exact Except.error.inj hmap ▸ noValueError_of_perform hop
  · rw [hop] at hmap
    cases hmap

theorem safe_column {α : Type} {x : Except DbError α} (h : ∃ a, x = .ok a) :
    (Session.column x).Refuses db NoValueError := by
  obtain ⟨a, rfl⟩ := h
  exact Prog.refuses_liftExcept.2 fun e he ↦ nomatch he

theorem safe_add [Stored ρ] {row : Except DbError ρ} (h : ∃ r, row = .ok r) :
    (Session.add row).Refuses db NoValueError :=
  .bind (safe_column h) fun _ _ ↦ safe_exec

theorem safe_flush [Stored ρ] [Touched ρ] {env : Env} {loaded : ρ} {cs : List (Change ρ)}
    (h : Session.Flushes env.now loaded cs) :
    (Session.flush env loaded cs).Refuses db NoValueError := by
  unfold Session.flush
  split
  · exact Prog.refuses_ret
  · next hdirty =>
    exact .bind (safe_column (h.resolve_left hdirty)) fun _ _ ↦ safe_exec

theorem safe_append {env : Env} {id clientId actor : UUID} {kind : ActivityKind} {text : String}
    (h : nulFree text = true) :
    (ActivityLogService.appendActivity env id clientId kind text actor).Refuses db
      NoValueError :=
  safe_add (row_activity_iff.2 h)

theorem safe_reload [Relation ρ] {k : UUID} :
    (Session.refresh k : Tx ρ).Refuses db NoValueError :=
  Session.refuses_refresh rfl

end Statements

/-! ### Services -/

section Services

variable {p : Platform} {env : Env} {db : Db} {u : User} {α : Type}

/-- What follows a lookup runs with the row that was found. -/
theorem safe_found {ρ : Type} {q : Db → Option ρ} {f : Fault} {m : ρ → Tx α}
    (hf : NoValueError f) (h : ∀ x, q db = some x → (m x).Refuses db NoValueError) :
    (.query q >>= fun found ↦ .demand found f >>= m : Tx α).Refuses db NoValueError := by
  refine Prog.refuses_bind.2 ⟨Prog.refuses_query, Prog.ensures_query.2 ?_⟩
  exact Prog.refuses_bind.2 ⟨Prog.refuses_demand.2 fun _ ↦ hf, Prog.ensures_demand.2 h⟩

/-- The same, where the lookup is a function of its own. -/
theorem safe_lookup {ρ : Type} {q : Db → Option ρ} {f : Fault} {m : ρ → Tx α}
    (hf : NoValueError f) (h : ∀ x, q db = some x → (m x).Refuses db NoValueError) :
    ((.query q >>= fun found ↦ .demand found f : Tx ρ) >>= m).Refuses db NoValueError := by
  refine Prog.refuses_bind.2 ⟨?_, ?_⟩
  · exact .bind Prog.refuses_query fun _ _ ↦ Prog.refuses_demand.2 fun _ ↦ hf
  · exact Prog.ensures_bind.2 (Prog.ensures_query.2 (Prog.ensures_demand.2 h))

/-- A row that is found is in the table. -/
theorem has_of_find? {ρ : Type} [Keyed ρ UUID] {t : Table ρ} {k : UUID} {x : ρ}
    (h : t.find? k = some x) : t.has k = true :=
  Table.has_iff.2 ⟨x, Table.mem_of_find? h, Table.key_of_find? h⟩

/-- So is one that is found in a scope. -/
theorem has_of_filter {ρ : Type} [Keyed ρ UUID] {t : Table ρ} {k : UUID} {sees : ρ → Bool} {x : ρ}
    (h : (t.find? k).filter sees = some x) : t.has k = true :=
  has_of_find? (Option.filter_eq_some_iff.1 h).1

theorem safe_createLead {raw body : LeadCreate} {rawPayload : RawPayload}
    (hv : raw.validate? p = some body) (h : body.storable = true) :
    (LeadService.create env body rawPayload).Refuses db NoValueError :=
  .bind (safe_add ((row_lead_iff hv).2 h)) fun _ _ ↦ safe_reload

theorem noValueError_leadNotFoundHttp {f : Fault} (h : NoValueError f) :
    NoValueError (leadNotFoundHttp f) := by
  cases f with
  | leadNotFound leadId => rfl
  | _ => exact h

theorem safe_updateLead {raw body : LeadUpdate} {leadId : UUID} (hv : raw.validate? = some body)
    (h : db.leads.has leadId = true → body.storable = true) :
    (LeadService.update env u leadId body).Refuses db NoValueError := by
  refine safe_lookup rfl fun l hl ↦ ?_
  have hflush : Session.Flushes env.now l (LeadService.changes body) :=
    (flushes_lead_iff hv).2 (h (has_of_filter hl))
  exact .bind (safe_flush hflush) fun _ _ ↦ safe_reload

theorem safe_createClient {raw body : ClientCreate} {actor : UUID}
    (hv : raw.validate? = some body) (h : body.storable = true) :
    (ClientService.createClient env body actor).Refuses db NoValueError := by
  have hstage : isText ClientStage body.stage = true := (Bool.and_eq_true_iff.1 h).2
  have htext : nulFree ("Client created at stage: " ++ body.stage) = true := by
    rw [nulFree_append, nulFree_of_isText ClientStage (by decide) hstage]
    rfl
  exact .bind (safe_add ((row_client_iff hv).2 h)) fun _ _ ↦
    .bind (safe_append htext) fun _ _ ↦ safe_reload

theorem safe_updateClient {raw body : ClientUpdate} {clientId : UUID}
    (hv : raw.validate? = some body) (h : db.clients.has clientId = true → body.storable = true) :
    (ClientService.updateClient env u clientId body).Refuses db NoValueError := by
  refine safe_lookup rfl fun c hc ↦ ?_
  have hflush : Session.Flushes env.now c (ClientService.changes body) :=
    (flushes_client_iff hv).2 (h (has_of_filter hc))
  exact .bind (safe_flush hflush) fun _ _ ↦ safe_reload

theorem safe_createContact {raw body : ContactCreate} {clientId actor : UUID}
    (hv : raw.validate? p = some body) (h : body.storable = true) :
    (ContactService.createContact env clientId body actor).Refuses db NoValueError := by
  have hname : nulFree body.name = true := by
    simp only [ContactCreate.storable, Bool.and_eq_true, and_assoc] at h
    exact h.1
  have htext : nulFree ("Contact '" ++ body.name ++ "' added") = true := by
    rw [nulFree_append, nulFree_append, hname]
    rfl
  refine safe_lookup rfl fun _ _ ↦ ?_
  exact .bind (safe_add ((row_contact_iff hv).2 h)) fun _ _ ↦
    .bind (safe_append htext) fun _ _ ↦ safe_reload

theorem safe_updateContact {raw body : ContactUpdate} {clientId contactId actor : UUID}
    (hv : raw.validate? p = some body)
    (h : (db.contacts.find? contactId).any (fun c ↦ decide (c.clientId = clientId)) = true →
      body.storable = true) :
    (ContactService.updateContact env clientId contactId body actor).Refuses db NoValueError := by
  refine safe_lookup rfl fun c hc ↦ ?_
  obtain ⟨hfound, hclient⟩ := Option.filter_eq_some_iff.1 hc
  have hstorable : body.storable = true := h (by rw [hfound]; exact hclient)
  have hflush : Session.Flushes env.now c (ContactService.changes body) :=
    (flushes_contact_iff hv).2 hstorable
  have hname : body.name.required nulFree = true := by
    simp only [ContactUpdate.storable, Bool.and_eq_true, and_assoc] at hstorable
    exact hstorable.1
  have htext : nulFree ("Contact '" ++ (body.name.onto (some c.name.val)).getD "" ++
      "' updated") = true := by
    rw [nulFree_append, nulFree_append, nulFree_onto c.name hname]
    rfl
  exact .bind (safe_flush hflush) fun _ _ ↦
    .bind (safe_append htext) fun _ _ ↦ safe_reload

theorem safe_refreshService {serviceId : UUID} :
    (ServiceService.refresh serviceId).Refuses db NoValueError :=
  .bind safe_reload fun _ _ ↦ Prog.refuses_query

theorem safe_createService {raw body : ServiceCreate} {clientId actor : UUID}
    (hv : raw.validate? = some body) (h : body.storable = true) :
    (ServiceService.createService env { body with clientId := clientId } actor).Refuses db
      NoValueError := by
  have hparts := h
  simp only [ServiceCreate.storable, Bool.and_eq_true, and_assoc] at hparts
  obtain ⟨htype, htitle, -, -⟩ := hparts
  have htext : nulFree ("Service '" ++ body.title ++ "' started (type=" ++ body.type ++ ")") =
      true := by
    rw [nulFree_append, nulFree_append, nulFree_append, nulFree_append, htitle,
      nulFree_of_isText ServiceType (by decide) htype]
    rfl
  refine safe_found rfl fun c _ ↦ .bind (Prog.refuses_require.2 fun _ ↦ rfl) fun _ _ ↦ ?_
  exact .bind (safe_add ((row_service_iff hv).2 h)) fun _ _ ↦
    .bind (safe_append htext) fun _ _ ↦ safe_refreshService

theorem safe_updateService {raw body : ServiceUpdate} {serviceId : UUID}
    (hv : raw.validate? = some body)
    (h : db.services.has serviceId = true → body.storable = true) :
    (ServiceService.updateService env u serviceId body).Refuses db NoValueError := by
  refine safe_lookup rfl fun sv hsv ↦ ?_
  have hflush : Session.Flushes env.now sv (ServiceService.changes body) :=
    (flushes_service_iff hv).2 (h (has_of_filter hsv))
  exact .bind (safe_flush hflush) fun _ _ ↦ safe_refreshService

theorem safe_createMilestone {raw body : MilestoneCreate} {serviceId : UUID}
    (hv : raw.validate? = some body) (h : body.storable = true) :
    (MilestoneService.createUnderService env serviceId body).Refuses db NoValueError :=
  safe_lookup rfl fun _ _ ↦
    .bind (safe_add ((row_milestone_iff hv).2 h)) fun _ _ ↦ safe_reload

theorem safe_createTicket {raw body : TicketCreate} {clientId actor : UUID}
    (hv : raw.validate? = some body) (h : body.storable = true) :
    (TicketService.createTicket env body clientId actor).Refuses db NoValueError := by
  have htitle : nulFree body.title = true := (Bool.and_eq_true_iff.1 h).1
  have hpriority : nulFree (TextEnum.text body.priority) = true := by
    cases body.priority <;> decide
  have htext : nulFree ("Ticket '" ++ body.title ++ "' opened (priority=" ++
      TextEnum.text body.priority ++ ")") = true := by
    rw [nulFree_append, nulFree_append, nulFree_append, nulFree_append, htitle, hpriority]
    rfl
  exact .bind (safe_add ((row_ticket_iff hv).2 h)) fun _ _ ↦
    .bind (safe_append htext) fun _ _ ↦ safe_reload

/-- The text of an update of a ticket. -/
theorem nulFree_updateText {title : Field String} {t : Ticket} {what : String}
    {keys : List String} (htitle : title.required nulFree = true) (hwhat : nulFree what = true)
    (hkeys : ∀ k ∈ keys, nulFree k = true) :
    nulFree (TicketService.updateText title t what keys) = true := by
  rw [TicketService.updateText, nulFree_append, nulFree_append, nulFree_append, nulFree_append,
    nulFree_append, nulFree_append, nulFree_onto t.title htitle, hwhat, nulFree_keysRepr hkeys]
  rfl

theorem safe_updateTicket {raw body : TicketPatch} {ticketId actor : UUID}
    {clientId : Option UUID} (hv : raw.validate? = some body)
    (h : db.tickets.has ticketId = true → body.storable = true) :
    (TicketService.updateTicket env ticketId body clientId actor).Refuses db NoValueError := by
  refine safe_lookup rfl fun t ht ↦ ?_
  have hstorable := h (has_of_filter ht)
  have hflush : Session.Flushes env.now t (TicketService.patchChanges body) :=
    (flushes_ticketPatch_iff hv).2 hstorable
  simp only [TicketPatch.storable, Bool.and_eq_true, and_assoc] at hstorable
  have htext : nulFree (TicketService.updateText body.title t "updated"
      (TicketService.keyOf "title" body.title ++ TicketService.keyOf "priority" body.priority ++
        TicketService.keyOf "body" body.body)) = true := by
    refine nulFree_updateText hstorable.1 (by decide) ?_
    simp only [List.forall_mem_append]
    exact ⟨⟨nulFree_keyOf (by decide), nulFree_keyOf (by decide)⟩, nulFree_keyOf (by decide)⟩
  exact .bind (safe_flush hflush) fun _ _ ↦
    .bind (safe_append htext) fun _ _ ↦ safe_reload

theorem safe_updateTicketInternal {raw body : TicketUpdate} {ticketId actor : UUID}
    (hv : raw.validate? = some body)
    (h : db.tickets.has ticketId = true → body.storable = true) :
    (TicketService.updateTicketInternal env ticketId body actor).Refuses db NoValueError := by
  refine safe_lookup rfl fun t ht ↦ ?_
  have hstorable := h (has_of_filter ht)
  have hflush : Session.Flushes env.now t (TicketService.updateChanges body) :=
    (flushes_ticketUpdate_iff hv).2 hstorable
  simp only [TicketUpdate.storable, Bool.and_eq_true, and_assoc] at hstorable
  refine .bind (safe_flush hflush) fun _ _ ↦ .bind (safe_append ?_) fun _ _ ↦ safe_reload
  refine nulFree_updateText hstorable.1 (by split <;> decide) ?_
  simp only [List.forall_mem_append]
  exact ⟨⟨⟨⟨nulFree_keyOf (by decide), nulFree_keyOf (by decide)⟩, nulFree_keyOf (by decide)⟩,
    nulFree_keyOf (by decide)⟩, nulFree_keyOf (by decide)⟩

theorem safe_createMessage {body : MessageCreate} {clientId sender : UUID}
    (h : body.storable = true) :
    (MessageService.createMessage env body clientId sender).Refuses db NoValueError := by
  have htext : nulFree ("Message sent (len=" ++ toString body.body.length ++ ")") = true := by
    rw [nulFree_append, nulFree_append, nulFree_toString]
    rfl
  exact .bind (safe_add (row_message_iff.2 h)) fun _ _ ↦
    .bind (safe_append htext) fun _ _ ↦ safe_reload

/-- The flush at the end of a conversion. -/
theorem flushes_conversionChanges {now : Time} {l : Lead} :
    Session.Flushes now l (ClientService.conversionChanges env) := by
  have hpatches : ClientService.conversionChanges env =
      Lead.Col.status.patch (.val .converted) ++
        Lead.Col.convertedClientId.patch (.val (env.uuid 0)) := rfl
  rw [hpatches, Session.flushes_append]
  exact ⟨takes_enum.required.2 rfl, takes_uuid.optional.2 rfl⟩

/-- The new client of a conversion. -/
theorem row_converted_iff {body : ConvertLeadBody} (env : Env) (l : Lead)
    (hname : body.name.all (maxLength 200) = true)
    (hsector : body.sector.all (maxLength 100) = true)
    (hsize : body.size.all (maxLength 50) = true)
    (hregion : body.region.all (maxLength 100) = true) (hmrr : body.mrrCents.all nonneg = true) :
    (∃ c, ClientService.row env (ClientService.clientName body l) body.sector body.size
        body.region body.ownerId body.mrrCents (body.stage.getD "lead") = .ok c) ↔
      body.name.all nulFree = true ∧ body.sector.all nulFree = true ∧
        body.size.all nulFree = true ∧ body.region.all nulFree = true ∧
        body.mrrCents.all (below 64) = true ∧ body.stage.all (isText ClientStage) = true := by
  have hstage : isText ClientStage (body.stage.getD "lead") =
      body.stage.all (isText ClientStage) := by
    rcases body.stage with - | stage <;> rfl
  simp only [ClientService.row, exists_bind_ok, exists_pure_ok, and_true, exists_and_right,
    takes_str.some, takes_str.option, takes_int.option, exists_encodeText]
  rw [fitsIn_clientName hname, option_fitsIn hsector, option_fitsIn hsize, option_fitsIn hregion,
    option_inRange hmrr, hstage]

/-- What the schema has checked of the body of a conversion. -/
theorem checked_convertLeadBody {raw body : ConvertLeadBody} (hv : raw.validate? p = some body) :
    (body.name.all (maxLength 200) = true ∧ body.sector.all (maxLength 100) = true ∧
      body.size.all (maxLength 50) = true ∧ body.region.all (maxLength 100) = true ∧
      body.mrrCents.all nonneg = true) ∧
    ∀ b, body.billingProfile = some b →
      ∃ raw : BillingProfileCreate, raw.validate? p = some b := by
  simp only [ConvertLeadBody.validate?] at hv
  rcases hprofile : raw.billingProfile with - | profile
  · rw [hprofile] at hv
    obtain ⟨hok, rfl⟩ := accept_eq_some_iff.1 hv
    simp only [Bool.and_eq_true, and_assoc] at hok
    exact ⟨hok, fun b hb ↦ nomatch hprofile.symm.trans hb⟩
  · rw [hprofile] at hv
    obtain ⟨profile', hvalid, hbody⟩ := Option.bind_eq_some_iff.1 hv
    obtain ⟨hok, rfl⟩ := accept_eq_some_iff.1 hbody
    simp only [Bool.and_eq_true, and_assoc] at hok
    exact ⟨hok, fun b hb ↦ ⟨profile, Option.some.inj hb ▸ hvalid⟩⟩

/-- The new client and the billing profile of a conversion. -/
theorem rows_converted_iff {raw body : ConvertLeadBody} (env : Env) (l : Lead)
    (hv : raw.validate? p = some body) :
    ((∃ c, ClientService.row env (ClientService.clientName body l) body.sector body.size
        body.region body.ownerId body.mrrCents (body.stage.getD "lead") = .ok c) ∧
      ∀ b, body.billingProfile = some b →
        ∃ r, ClientService.billingProfileRow env (env.uuid 2) (env.uuid 0) b true = .ok r) ↔
    body.storable = true := by
  obtain ⟨⟨hname, hsector, hsize, hregion, hmrr⟩, hprofile⟩ := checked_convertLeadBody hv
  have hrow : (∀ b, body.billingProfile = some b →
      ∃ r, ClientService.billingProfileRow env (env.uuid 2) (env.uuid 0) b true = .ok r) ↔
      body.billingProfile.all BillingProfileCreate.storable = true := by
    rcases hb : body.billingProfile with - | b
    · exact iff_of_true (fun b hb ↦ nomatch hb) rfl
    · obtain ⟨raw', hraw⟩ := hprofile b hb
      rw [Option.all_some, ← row_billingProfile_iff hraw]
      exact ⟨fun h ↦ h b rfl, fun h b' hb' ↦ Option.some.inj hb' ▸ h⟩
  rw [row_converted_iff env l hname hsector hsize hregion hmrr, hrow]
  simp only [ConvertLeadBody.storable, Bool.and_eq_true, and_assoc]

theorem safe_convertLead {raw body : ConvertLeadBody} {leadId actor : UUID}
    (hv : raw.validate? p = some body)
    (h : db.leads.has leadId = true → body.storable = true) :
    (ClientService.convertFromLead env leadId body actor).Refuses db NoValueError := by
  refine safe_found rfl fun l hl ↦ ?_
  rcases l.convertedClientId with - | clientId
  · obtain ⟨hclient, hprofile⟩ :=
      (rows_converted_iff env l hv).2 (h (has_of_find? hl))
    have htext : nulFree ("Lead " ++ l.name.val ++ " converted to client") = true := by
      rw [nulFree_append, nulFree_append, nulFree_val]
      rfl
    refine .bind (Prog.refuses_require.2 fun _ ↦ rfl) fun _ _ ↦ ?_
    refine .bind (safe_add hclient) fun _ _ ↦ .bind (safe_add ⟨_, rfl⟩) fun _ _ ↦ ?_
    refine .bind ?_ fun _ _ ↦ .bind (safe_append htext) fun _ _ ↦ ?_
    · rcases hb : body.billingProfile with - | b
      · exact Prog.refuses_ret
      · exact safe_add (hprofile b hb)
    · exact .bind (safe_flush flushes_conversionChanges) fun _ _ ↦ safe_reload
  · exact Prog.refuses_raise.2 rfl

theorem safe_scalarOneOrNone (rows : List α) :
    (Session.scalarOneOrNone rows).Refuses db NoValueError := by
  match rows with
  | [] => exact Prog.refuses_ret
  | [_] => exact Prog.refuses_ret
  | _ :: _ :: _ => exact Prog.refuses_raise.2 rfl

/-- The identifier is a parameter of a query first. -/
theorem safe_assertUniqueTaxId {clientId : UUID} {taxId : String} {excludeId : Option UUID}
    (h : nulFree taxId = true) :
    (BillingProfileService.assertUniqueTaxId clientId taxId excludeId).Refuses db
      NoValueError := by
  refine .bind (Prog.refuses_require.2 fun hnul ↦ ?_) fun _ _ ↦ ?_
  · rw [Option.all_some] at hnul
    exact absurd (h.symm.trans hnul) (by decide)
  exact .bind Prog.refuses_query fun rows _ ↦ .bind (safe_scalarOneOrNone rows) fun _ _ ↦
    Prog.refuses_require.2 fun _ ↦ rfl

/-- The translation of an integrity error makes no error of a value. -/
theorem safe_onIntegrityError {fault : Fault} {m : Tx α} (hf : NoValueError fault)
    (h : m.Refuses db NoValueError) :
    (m.mapError (BillingProfileService.onIntegrityError fault)).Refuses db NoValueError := by
  refine Prog.refuses_mapError.2 fun f hrun ↦ ?_
  show NoValueError (BillingProfileService.onIntegrityError fault f)
  unfold BillingProfileService.onIntegrityError
  split
  · exact hf
  · exact h f hrun

theorem safe_updateWhere {ρ : Type} [Keyed ρ UUID] [Stored ρ] {q : ρ → Bool} {a : Assign ρ}
    (ha : ∀ r, Relation.sameKeys r (a.fn r) = true) :
    (Session.updateWhere q a).Refuses db NoValueError := by
  intro f hf
  rw [Session.run_updateWhere ha] at hf
  cases hf

theorem safe_createBillingProfile {raw body : BillingProfileCreate} {clientId : UUID}
    (hv : raw.validate? p = some body) (h : body.storable = true) :
    (BillingProfileService.createForClient env clientId body).Refuses db NoValueError := by
  have htax : nulFree body.taxId = true := by
    have hparts := h
    simp only [BillingProfileCreate.storable, Bool.and_eq_true, and_assoc] at hparts
    exact hparts.2.1
  refine .bind ?_ fun _ _ ↦ .bind (safe_assertUniqueTaxId htax) fun _ _ ↦ ?_
  · exact safe_found rfl fun _ _ ↦ Prog.refuses_ret
  refine .bind Prog.refuses_query fun count _ ↦ .bind ?_ fun isDefault _ ↦ ?_
  · unfold BillingProfileService.claimDefault
    split
    · exact Prog.refuses_ret
    · split
      · exact .bind (safe_updateWhere BillingProfileService.sameKeys_demote) fun _ _ ↦
          Prog.refuses_ret
      · exact Prog.refuses_ret
  exact .bind (safe_onIntegrityError rfl (safe_add ((row_billingProfile_iff hv).2 h)))
    fun _ _ ↦ safe_reload

theorem safe_updateBillingProfile {raw body : BillingProfileUpdate} {profileId : UUID}
    (hv : raw.validate? p = some body)
    (h : db.billingProfiles.has profileId = true → body.storable = true) :
    (BillingProfileService.update env profileId body).Refuses db NoValueError := by
  refine safe_lookup rfl fun b hb ↦ ?_
  have hstorable := h (has_of_find? hb)
  have hflush : Session.Flushes env.now b (BillingProfileService.changes body) :=
    (flushes_billingProfile_iff hv).2 hstorable
  simp only [BillingProfileUpdate.storable, Bool.and_eq_true, and_assoc] at hstorable
  refine .bind ?_ fun _ _ ↦
    .bind (safe_onIntegrityError rfl (safe_flush hflush)) fun _ _ ↦ safe_reload
  rcases htax : body.taxId with - | - | taxId
  · exact Prog.refuses_ret
  · exact Prog.refuses_ret
  · rw [BillingProfileService.assertTaxIdFree]
    split
    · exact Prog.refuses_ret
    · refine safe_assertUniqueTaxId ?_
      have hrequired := hstorable.2.1
      rw [htax] at hrequired
      exact hrequired

theorem safe_updateMilestone {raw body : MilestoneUpdate} {serviceId actor : UUID} {n : ℤ}
    (hv : raw.validate? = some body)
    (hn : ∃ index : PgInt 32, encode (some n) = .ok index)
    (h : (∃ m ∈ db.milestones, m.serviceId = serviceId ∧ m.n.val = n) → body.storable = true) :
    (MilestoneService.update env serviceId n body actor).Refuses db NoValueError := by
  refine Prog.refuses_bind.2 ⟨?_, MilestoneService.ensures_getByIndex fun m hm hservice hindex ↦ ?_⟩
  · refine .bind (safe_column hn) fun _ _ ↦ .bind Prog.refuses_query fun rows _ ↦ ?_
    exact .bind (safe_scalarOneOrNone rows) fun _ _ ↦ Prog.refuses_demand.2 fun _ ↦ rfl
  · have hstorable := h ⟨m, hm, hservice, hindex⟩
    have hflush : Session.Flushes env.now m (MilestoneService.changes body) :=
      (flushes_milestone_iff hv).2 hstorable
    refine .bind (safe_flush hflush) fun _ _ ↦ ?_
    split
    · refine .bind (.bind Prog.refuses_query fun found _ ↦ ?_) fun _ _ ↦ safe_reload
      rcases found with - | sv
      · exact Prog.refuses_ret
      · have htitle := (Bool.and_eq_true_iff.1 hstorable).1
        refine safe_append ?_
        rw [nulFree_append, nulFree_append, nulFree_append, nulFree_append,
          nulFree_onto m.title htitle, nulFree_val]
        rfl
    · exact safe_reload

end Services

/-! ### Requests -/

namespace Request

/-- The endpoints whose body is stored. -/
def storesBody : Request → Bool
  | .createLead .. | .updateLead .. | .convertLead .. | .createClient _ | .updateClient ..
  | .createContact .. | .updateContact .. | .createService .. | .updateService ..
  | .createMilestone .. | .updateMilestone .. | .createBillingProfile ..
  | .updateBillingProfile .. | .sendMyMessage _ | .createClientMessage .. | .createMyTicket _
  | .updateMyTicket .. | .updateTicketInternal .. => true
  | _ => false

/-- The body is storable. -/
def storable : Request → Bool
  | .createLead _ body => body.storable
  | .updateLead _ body => body.storable
  | .convertLead _ body => body.storable
  | .createClient body => body.storable
  | .updateClient _ body => body.storable
  | .createContact _ body => body.storable
  | .updateContact _ _ body => body.storable
  | .createService _ body => body.storable
  | .updateService _ body => body.storable
  | .createMilestone _ body => body.storable
  | .updateMilestone _ _ body => body.storable
  | .createBillingProfile _ body => body.storable
  | .updateBillingProfile _ body => body.storable
  | .sendMyMessage body => body.storable
  | .createClientMessage _ body => body.storable
  | .createMyTicket body => body.storable
  | .updateMyTicket _ body => body.storable
  | .updateTicketInternal _ body => body.storable
  | _ => true

/-- There is a row that the body is applied to. -/
def targets (db : Db) : Request → Bool
  | .updateLead leadId _ | .convertLead leadId _ => db.leads.has leadId
  | .updateClient clientId _ => db.clients.has clientId
  | .updateContact clientId contactId _ =>
    (db.contacts.find? contactId).any fun c ↦ decide (c.clientId = clientId)
  | .updateService serviceId _ => db.services.has serviceId
  | .updateMilestone serviceId n _ =>
    db.milestones.rows.any fun m ↦ decide (m.serviceId = serviceId ∧ m.n.val = n)
  | .updateBillingProfile profileId _ => db.billingProfiles.has profileId
  | .updateMyTicket ticketId _ | .updateTicketInternal ticketId _ => db.tickets.has ticketId
  | _ => true

/-- The index in the path is an `integer`. -/
def indexFits : Request → Bool
  | .updateMilestone _ n _ => decide (-2 ^ (32 - 1) ≤ n ∧ n < 2 ^ (32 - 1))
  | _ => true

/-- The rows that the service writes for the request satisfy the constraints on their values: the
new row can be built, or every changed attribute of a loaded one can be. -/
def Fits (p : Platform) (s : Settings) (env : Env) (db : Db) : Request → Prop
  | .createLead inbound body =>
    ∃ l, LeadService.row env body (PayloadSanitizer.buildRawPayload p s env.now inbound body) =
      .ok l
  | .updateLead leadId body => ∀ l, db.leads.find? leadId = some l →
    Session.Flushes env.now l (LeadService.changes body)
  | .convertLead leadId body => ∀ l, db.leads.find? leadId = some l →
    (∃ c, ClientService.row env (ClientService.clientName body l) body.sector body.size body.region
      body.ownerId body.mrrCents (body.stage.getD "lead") = .ok c) ∧
    ∀ b, body.billingProfile = some b →
      ∃ r, ClientService.billingProfileRow env (env.uuid 2) (env.uuid 0) b true = .ok r
  | .createClient body =>
    ∃ c, ClientService.row env body.name body.sector body.size body.region body.ownerId
      body.mrrCents body.stage = .ok c
  | .updateClient clientId body => ∀ c, db.clients.find? clientId = some c →
    Session.Flushes env.now c (ClientService.changes body)
  | .createContact clientId body => ∃ c, ContactService.row env clientId body = .ok c
  | .updateContact clientId contactId body => ∀ c, db.contacts.find? contactId = some c →
    c.clientId = clientId → Session.Flushes env.now c (ContactService.changes body)
  | .createService clientId body =>
    ∃ sv, ServiceService.row env { body with clientId := clientId } = .ok sv
  | .updateService serviceId body => ∀ sv, db.services.find? serviceId = some sv →
    Session.Flushes env.now sv (ServiceService.changes body)
  | .createMilestone serviceId body => ∃ m, MilestoneService.row env serviceId body = .ok m
  | .updateMilestone serviceId n body => ∀ m ∈ db.milestones, m.serviceId = serviceId →
    m.n.val = n → Session.Flushes env.now m (MilestoneService.changes body)
  | .createBillingProfile clientId body => ∀ isDefault,
    ∃ b, ClientService.billingProfileRow env (env.uuid 0) clientId body isDefault = .ok b
  | .updateBillingProfile profileId body => ∀ b, db.billingProfiles.find? profileId = some b →
    Session.Flushes env.now b (BillingProfileService.changes body)
  | .sendMyMessage body => ∀ clientId sender,
    ∃ m, MessageService.row env body clientId sender = .ok m
  | .createClientMessage clientId body => ∀ sender,
    ∃ m, MessageService.row env body clientId sender = .ok m
  | .createMyTicket body => ∀ clientId actor,
    ∃ t, TicketService.row env body clientId actor = .ok t
  | .updateMyTicket ticketId body => ∀ t, db.tickets.find? ticketId = some t →
    Session.Flushes env.now t (TicketService.patchChanges body)
  | .updateTicketInternal ticketId body => ∀ t, db.tickets.find? ticketId = some t →
    Session.Flushes env.now t (TicketService.updateChanges body)
  | _ => True

end Request

section Requests

variable {p : Platform} {s : Settings} {env : Env} {db : Db} {r r' : Request}

/-- A condition on the row that is found, which is the same for all rows. -/
theorem forall_found_iff {ρ : Type} [Keyed ρ UUID] {t : Table ρ} {k : UUID} {P : ρ → Prop}
    {b : Bool} (h : ∀ x, P x ↔ b = true) :
    (∀ x, t.find? k = some x → P x) ↔ (t.has k = true → b = true) := by
  constructor
  · intro hall hhas
    obtain ⟨x, hx, rfl⟩ := Table.has_iff.1 hhas
    exact (h x).1 (hall x (Table.find?_of_mem hx))
  · exact fun himp x hx ↦ (h x).2 (himp (has_of_find? hx))

/-- A new row, for which no other is needed. -/
theorem new_row_iff {P : Prop} {b : Bool} (h : P ↔ b = true) : P ↔ (true = true → b = true) :=
  h.trans (by simp)

/-- **The rows of a request satisfy the constraints on their values exactly if its body is
storable**, or there is no row that it is applied to. -/
theorem fits_iff (hv : r.validate? p = some r') (hbody : r'.storesBody = true) :
    r'.Fits p s env db ↔ (r'.targets db = true → r'.storable = true) := by
  cases r with
  | createLead inbound raw =>
    obtain ⟨body, hraw, rfl⟩ := Option.map_eq_some_iff.1 hv
    exact new_row_iff (row_lead_iff hraw)
  | updateLead leadId raw =>
    obtain ⟨body, hraw, rfl⟩ := Option.map_eq_some_iff.1 hv
    exact forall_found_iff fun _ ↦ flushes_lead_iff hraw
  | convertLead leadId raw =>
    obtain ⟨body, hraw, rfl⟩ := Option.map_eq_some_iff.1 hv
    exact forall_found_iff fun l ↦ rows_converted_iff env l hraw
  | createClient raw =>
    obtain ⟨body, hraw, rfl⟩ := Option.map_eq_some_iff.1 hv
    exact new_row_iff (row_client_iff hraw)
  | updateClient clientId raw =>
    obtain ⟨body, hraw, rfl⟩ := Option.map_eq_some_iff.1 hv
    exact forall_found_iff fun _ ↦ flushes_client_iff hraw
  | createContact clientId raw =>
    obtain ⟨body, hraw, rfl⟩ := Option.map_eq_some_iff.1 hv
    exact new_row_iff (row_contact_iff hraw)
  | updateContact clientId contactId raw =>
    obtain ⟨body, hraw, rfl⟩ := Option.map_eq_some_iff.1 hv
    simp only [Request.Fits, Request.targets, Request.storable, flushes_contact_iff hraw,
      Option.any_eq_true, decide_eq_true_eq]
    constructor
    · rintro h ⟨c, hc, hclient⟩
      exact h c hc hclient
    · exact fun h c hc hclient ↦ h ⟨c, hc, hclient⟩
  | createService clientId raw =>
    obtain ⟨body, hraw, rfl⟩ := Option.map_eq_some_iff.1 hv
    exact new_row_iff (row_service_iff hraw)
  | updateService serviceId raw =>
    obtain ⟨body, hraw, rfl⟩ := Option.map_eq_some_iff.1 hv
    exact forall_found_iff fun _ ↦ flushes_service_iff hraw
  | createMilestone serviceId raw =>
    obtain ⟨body, hraw, rfl⟩ := Option.map_eq_some_iff.1 hv
    exact new_row_iff (row_milestone_iff hraw)
  | updateMilestone serviceId n raw =>
    obtain ⟨body, hraw, rfl⟩ := Option.map_eq_some_iff.1 hv
    simp only [Request.Fits, Request.targets, Request.storable, flushes_milestone_iff hraw,
      List.any_eq_true, decide_eq_true_eq]
    constructor
    · rintro h ⟨m, hm, hservice, hn⟩
      exact h m hm hservice hn
    · exact fun h m hm hservice hn ↦ h ⟨m, hm, hservice, hn⟩
  | createBillingProfile clientId raw =>
    obtain ⟨body, hraw, rfl⟩ := Option.map_eq_some_iff.1 hv
    exact new_row_iff ⟨fun h ↦ (row_billingProfile_iff hraw).1 (h true),
      fun h _ ↦ (row_billingProfile_iff hraw).2 h⟩
  | updateBillingProfile profileId raw =>
    obtain ⟨body, hraw, rfl⟩ := Option.map_eq_some_iff.1 hv
    exact forall_found_iff fun _ ↦ flushes_billingProfile_iff hraw
  | sendMyMessage raw =>
    obtain ⟨body, hraw, rfl⟩ := Option.map_eq_some_iff.1 hv
    exact new_row_iff ⟨fun h ↦ row_message_iff.1 (h 0 0), fun h _ _ ↦ row_message_iff.2 h⟩
  | createClientMessage clientId raw =>
    obtain ⟨body, hraw, rfl⟩ := Option.map_eq_some_iff.1 hv
    exact new_row_iff ⟨fun h ↦ row_message_iff.1 (h 0), fun h _ ↦ row_message_iff.2 h⟩
  | createMyTicket raw =>
    obtain ⟨body, hraw, rfl⟩ := Option.map_eq_some_iff.1 hv
    exact new_row_iff ⟨fun h ↦ (row_ticket_iff hraw).1 (h 0 0),
      fun h _ _ ↦ (row_ticket_iff hraw).2 h⟩
  | updateMyTicket ticketId raw =>
    obtain ⟨body, hraw, rfl⟩ := Option.map_eq_some_iff.1 hv
    exact forall_found_iff fun _ ↦ flushes_ticketPatch_iff hraw
  | updateTicketInternal ticketId raw =>
    obtain ⟨body, hraw, rfl⟩ := Option.map_eq_some_iff.1 hv
    exact forall_found_iff fun _ ↦ flushes_ticketUpdate_iff hraw
  | listMyServices | listMyActivity | listMyMessages | listMyTickets =>
    obtain ⟨-, rfl⟩ := accept_eq_some_iff.1 hv
    cases hbody
  | _ =>
    cases hv
    cases hbody

/-- A storable body is not refused for a value. -/
theorem safe_request {user : Except Fault User} {m : Tx Response}
    (hv : r.validate? p = some r') (hbody : r'.storesBody = true)
    (hm : (route p s env r').guard user = .ok m) (hindex : r'.indexFits = true)
    (h : r'.targets db = true → r'.storable = true) : m.Refuses db NoValueError := by
  cases r with
  | createLead inbound raw =>
    obtain ⟨body, hraw, rfl⟩ := Option.map_eq_some_iff.1 hv
    obtain ⟨-, rfl⟩ := Handler.guard_anonymous.1 hm
    exact .bind (safe_createLead hraw (h rfl)) fun _ _ ↦ Prog.refuses_ret
  | updateLead leadId raw =>
    obtain ⟨body, hraw, rfl⟩ := Option.map_eq_some_iff.1 hv
    obtain ⟨u, -, rfl⟩ := Handler.guard_currentUser.1 hm
    exact .bind (Prog.refuses_mapError.2 fun f hf ↦
      noValueError_leadNotFoundHttp (safe_updateLead hraw h f hf)) fun _ _ ↦ Prog.refuses_ret
  | convertLead leadId raw =>
    obtain ⟨body, hraw, rfl⟩ := Option.map_eq_some_iff.1 hv
    obtain ⟨u, -, -, rfl⟩ := Handler.guard_requireRole.1 hm
    exact .bind (safe_convertLead hraw h) fun _ _ ↦ Prog.refuses_ret
  | createClient raw =>
    obtain ⟨body, hraw, rfl⟩ := Option.map_eq_some_iff.1 hv
    obtain ⟨u, -, -, rfl⟩ := Handler.guard_requireRole.1 hm
    exact .bind (safe_createClient hraw (h rfl)) fun _ _ ↦ Prog.refuses_ret
  | updateClient clientId raw =>
    obtain ⟨body, hraw, rfl⟩ := Option.map_eq_some_iff.1 hv
    obtain ⟨u, -, -, rfl⟩ := Handler.guard_requireRole.1 hm
    exact .bind (safe_updateClient hraw h) fun _ _ ↦ Prog.refuses_ret
  | createContact clientId raw =>
    obtain ⟨body, hraw, rfl⟩ := Option.map_eq_some_iff.1 hv
    obtain ⟨u, -, -, rfl⟩ := Handler.guard_requireRole.1 hm
    exact .bind (safe_createContact hraw (h rfl)) fun _ _ ↦ Prog.refuses_ret
  | updateContact clientId contactId raw =>
    obtain ⟨body, hraw, rfl⟩ := Option.map_eq_some_iff.1 hv
    obtain ⟨u, -, -, rfl⟩ := Handler.guard_requireRole.1 hm
    exact .bind (safe_updateContact hraw h) fun _ _ ↦ Prog.refuses_ret
  | createService clientId raw =>
    obtain ⟨body, hraw, rfl⟩ := Option.map_eq_some_iff.1 hv
    obtain ⟨u, -, -, rfl⟩ := Handler.guard_requireRole.1 hm
    exact .bind (safe_createService hraw (h rfl)) fun _ _ ↦ Prog.refuses_ret
  | updateService serviceId raw =>
    obtain ⟨body, hraw, rfl⟩ := Option.map_eq_some_iff.1 hv
    obtain ⟨u, -, rfl⟩ := Handler.guard_currentUser.1 hm
    exact .bind (safe_updateService hraw h) fun _ _ ↦ Prog.refuses_ret
  | createMilestone serviceId raw =>
    obtain ⟨body, hraw, rfl⟩ := Option.map_eq_some_iff.1 hv
    obtain ⟨u, -, rfl⟩ := Handler.guard_currentUser.1 hm
    exact .bind (safe_createMilestone hraw (h rfl)) fun _ _ ↦ Prog.refuses_ret
  | updateMilestone serviceId n raw =>
    obtain ⟨body, hraw, rfl⟩ := Option.map_eq_some_iff.1 hv
    obtain ⟨u, -, rfl⟩ := Handler.guard_currentUser.1 hm
    simp only [Request.targets, List.any_eq_true, decide_eq_true_eq] at h
    exact .bind (safe_updateMilestone hraw ((takes_int.some n).2 hindex) h) fun _ _ ↦
      Prog.refuses_ret
  | createBillingProfile clientId raw =>
    obtain ⟨body, hraw, rfl⟩ := Option.map_eq_some_iff.1 hv
    obtain ⟨u, -, -, rfl⟩ := Handler.guard_requireRole.1 hm
    exact .bind (safe_createBillingProfile hraw (h rfl)) fun _ _ ↦ Prog.refuses_ret
  | updateBillingProfile profileId raw =>
    obtain ⟨body, hraw, rfl⟩ := Option.map_eq_some_iff.1 hv
    obtain ⟨u, -, -, rfl⟩ := Handler.guard_requireRole.1 hm
    exact .bind (safe_updateBillingProfile hraw h) fun _ _ ↦ Prog.refuses_ret
  | sendMyMessage raw =>
    obtain ⟨body, hraw, rfl⟩ := Option.map_eq_some_iff.1 hv
    obtain ⟨u, c, -, -, -, rfl⟩ := Handler.guard_scopeToClient.1 hm
    exact .bind (safe_createMessage (h rfl)) fun _ _ ↦ Prog.refuses_ret
  | createClientMessage clientId raw =>
    obtain ⟨body, hraw, rfl⟩ := Option.map_eq_some_iff.1 hv
    obtain ⟨u, -, -, rfl⟩ := Handler.guard_requireRole.1 hm
    exact .bind (safe_createMessage (h rfl)) fun _ _ ↦ Prog.refuses_ret
  | createMyTicket raw =>
    obtain ⟨body, hraw, rfl⟩ := Option.map_eq_some_iff.1 hv
    obtain ⟨u, c, -, -, -, rfl⟩ := Handler.guard_scopeToClient.1 hm
    exact .bind (safe_createTicket hraw (h rfl)) fun _ _ ↦ Prog.refuses_ret
  | updateMyTicket ticketId raw =>
    obtain ⟨body, hraw, rfl⟩ := Option.map_eq_some_iff.1 hv
    obtain ⟨u, c, -, -, -, rfl⟩ := Handler.guard_scopeToClient.1 hm
    exact .bind (safe_updateTicket hraw h) fun _ _ ↦ Prog.refuses_ret
  | updateTicketInternal ticketId raw =>
    obtain ⟨body, hraw, rfl⟩ := Option.map_eq_some_iff.1 hv
    obtain ⟨u, -, -, rfl⟩ := Handler.guard_requireRole.1 hm
    refine Prog.refuses_bind.2 ⟨Prog.refuses_require.2 fun _ ↦ rfl, Prog.ensures_require.2 ?_⟩
    exact fun _ ↦ .bind (safe_updateTicketInternal hraw h) fun _ _ ↦ Prog.refuses_ret
  | listMyServices | listMyActivity | listMyMessages | listMyTickets =>
    obtain ⟨-, rfl⟩ := accept_eq_some_iff.1 hv
    cases hbody
  | _ =>
    cases hv
    cases hbody

/-- An index beyond `integer` is refused before anything is read. -/
theorem indexFits_of_safe {user : Except Fault User} {m : Tx Response}
    (hm : (route p s env r).guard user = .ok m) (h : m.Refuses db NoValueError) :
    r.indexFits = true := by
  cases r with
  | updateMilestone serviceId n body =>
    obtain ⟨u, -, rfl⟩ := Handler.guard_currentUser.1 hm
    by_contra hindex
    have hnone : PgInt.store? 32 n = none := by
      rcases hstore : PgInt.store? 32 n with - | index
      · rfl
      · exact absurd ((takes_int.some n).1 ⟨index, orError_eq_ok_iff.2 hstore⟩) hindex
    have hget : (MilestoneService.getByIndex serviceId n).run db = .error (.db .data) := by
      have hencode : (encode (some n) : Except DbError (PgInt 32)) = .error .data := by
        show orError .data (PgInt.store? 32 n) = .error .data
        rw [hnone]
        rfl
      rw [MilestoneService.getByIndex, hencode]
      rfl
    have hrun : (MilestoneService.update env serviceId n body u.id).run db =
        .error (.db .data) := by
      rw [MilestoneService.update, Prog.run_bind_error hget]
    have hfalse : (Fault.db .data).isValueError = false := h _ (Prog.run_bind_error hrun _)
    cases hfalse
  | _ => rfl

/-- **Whatever is storable can be stored, and nothing else.** A request with a body that its schema
accepts writes rows that satisfy the constraints on their values, and no statement of it is refused
for a value, exactly if the body is storable or there is no row that it is applied to. -/
theorem storable_iff (p : Platform) (s : Settings) (env : Env) (db : Db)
    (user : Except Fault User) {m : Tx Response} (hv : r.validate? p = some r')
    (hbody : r'.storesBody = true)
    (hm : (route p s env r').guard user = .ok m) :
    (r'.Fits p s env db ∧ m.Refuses db NoValueError) ↔
      r'.indexFits = true ∧ (r'.targets db = true → r'.storable = true) := by
  rw [fits_iff hv hbody]
  exact ⟨fun ⟨hfits, hsafe⟩ ↦ ⟨indexFits_of_safe hm hsafe, hfits⟩,
    fun ⟨hindex, hfits⟩ ↦ ⟨hfits, safe_request hv hbody hm hindex hfits⟩⟩

end Requests

/-- A lead with the given name. -/
def leadNamed (name : String) : LeadCreate :=
  ⟨name, "ada@example.com", none, none, .general, .webForm, none, none, none⟩

/-- A short name is stored. -/
theorem storable_ada :
    (Request.createLead ⟨[], none⟩ (leadNamed "Ada")).Fits .sample .sample (.sample 10) .empty ∧
      (∃ m, (route .sample .sample (.sample 10) (.createLead ⟨[], none⟩ (leadNamed "Ada"))).guard
          (.error .unhandled) = .ok m ∧ m.Refuses .empty NoValueError) := by
  have hv : (Request.createLead ⟨[], none⟩ (leadNamed "Ada")).validate? .sample =
      some (.createLead ⟨[], none⟩ (leadNamed "Ada")) := by decide +kernel
  have hstorable : (leadNamed "Ada").storable = true := by decide +kernel
  obtain ⟨hfits, hsafe⟩ := (storable_iff .sample .sample (.sample 10) .empty
    (.error .unhandled) hv rfl rfl).2 ⟨rfl, fun _ ↦ hstorable⟩
  exact ⟨hfits, _, rfl, hsafe⟩

theorem maxLength_replicate {n k : ℕ} (h : k ≤ n) :
    maxLength n (String.ofList (List.replicate k 'a')) = true := by
  rw [maxLength, String.length_ofList, List.length_replicate]
  exact decide_eq_true h

theorem fitsIn_replicate {n k : ℕ} (h : n < k) :
    fitsIn n (String.ofList (List.replicate k 'a')) = false := by
  have hk : k - n ≠ 0 := by omega
  rw [fitsIn, String.toList_ofList, List.drop_replicate, List.all_replicate, if_neg hk]
  exact Bool.and_false _

/-- **A name that the schema accepts and the table does not**: the intake form answers 500. -/
theorem longName_refused :
    (leadNamed (String.ofList (List.replicate 201 'a'))).validate? .sample =
        some (leadNamed (String.ofList (List.replicate 201 'a'))) ∧
      ¬(Request.createLead ⟨[], none⟩ (leadNamed (String.ofList (List.replicate 201 'a')))).Fits
        .sample .sample (.sample 10) .empty ∧
      (handle .sample .sample (.sample 10) .empty (.error .unhandled)
        (.bound (.createLead ⟨[], none⟩
          (leadNamed (String.ofList (List.replicate 201 'a')))))).1 = ⟨500, .internal⟩ := by
  have hv : (leadNamed (String.ofList (List.replicate 201 'a'))).validate? .sample =
      some (leadNamed (String.ofList (List.replicate 201 'a'))) := by
    refine accept_eq_some_iff.2 ⟨?_, rfl⟩
    show (maxLength 255 (String.ofList (List.replicate 201 'a')) && _ && _ && _ && _ && _ && _) =
      true
    rw [maxLength_replicate (by decide)]
    decide +kernel
  refine ⟨hv, fun hfits ↦ ?_, by decide +kernel⟩
  have hstorable := (row_lead_iff hv).1 hfits
  rw [LeadCreate.storable, leadNamed, fitsIn_replicate (by decide)] at hstorable
  cases hstorable

end ZanovixCrm
