import ZanovixCrm.Api.Runs

/-!
# Conversion of leads

What the statuses of leads and their links to clients say about each other, over all runs.

Two endpoints take a lead to `converted`: the conversion, which links it to the client it creates,
and the status endpoint, for which `qualified → converted` is an edge like any other. So a linked
lead is converted, and a converted lead is linked **unless the status endpoint took it there**; such
a lead has no client and, `converted` being terminal, never gets one. Apart from that, a lead that
has been qualified and was never disqualified has a client or can still be given one.

`LeadChange` is what a single request can do to a single lead; `Step.leads` says that there is
nothing else. The invariant is `LeadsLinked`.
-/

namespace ZanovixCrm

/-! ### One request -/

/-- What can happen to one lead, where `Asks` holds of the request that is served. -/
inductive LeadChange (Asks : Request → Prop) (db db' : Db) (l l' : Lead) : Prop where
  /-- Neither the status nor the link changes. -/
  | kept (hstatus : l'.status = l.status) (hlink : l'.convertedClientId = l.convertedClientId)
  /-- The status endpoint follows an edge, and leaves the link alone. -/
  | moved (st : LeadStatus) (hr : Asks (.updateLeadStatus l.id st))
    (hedge : LeadStatusMachine.Edge l.status st) (hstatus : l'.status = st)
    (hlink : l'.convertedClientId = l.convertedClientId)
  /-- The conversion links the lead to a client that did not exist. -/
  | converted (body : ConvertLeadBody) (c : UUID) (hr : Asks (.convertLead l.id body))
    (hqualified : l.status = .qualified) (hunlinked : l.convertedClientId = none)
    (hstatus : l'.status = .converted) (hlink : l'.convertedClientId = some c)
    (hnew : db.clients.has c = false) (hexists : db'.clients.has c = true)

theorem LeadChange.mono {Asks Asks' : Request → Prop} {db db' : Db} {l l' : Lead}
    (h : LeadChange Asks db db' l l') (hasks : ∀ r, Asks r → Asks' r) :
    LeadChange Asks' db db' l l' := by
  cases h with
  | kept hstatus hlink => exact .kept hstatus hlink
  | moved st hr hedge hstatus hlink => exact .moved st (hasks _ hr) hedge hstatus hlink
  | converted body c hr hq hun hstatus hlink hnew hexists =>
    exact .converted body c (hasks _ hr) hq hun hstatus hlink hnew hexists

/-- A lead as it is created. -/
def FreshLead (l : Lead) : Prop := l.status = .new ∧ l.convertedClientId = none

section Step

variable {p : Platform} {s : Settings} {env : Env} {db db' : Db} {user : Except Fault User}
  {r : Request} {resp : Response}

/-- **The leads after a step**: new ones are fresh, old ones have undergone a `LeadChange`. -/
theorem Step.leads (h : Step p s env db user r resp db') :
    Table.Evolves (LeadChange (· = r) db db') FreshLead db.leads db'.leads := by
  cases h with
  | createLead hrow hnew =>
    obtain ⟨-, hstatus, hlink⟩ := LeadService.row_spec hrow
    exact .insert (fun l ↦ .kept rfl rfl) hnew ⟨hstatus, hlink⟩
  | updateLead hsees hl =>
    have heq := LeadService.eq_merge hl
    refine .alter (fun l ↦ .kept rfl rfl) hl.found ?_
    rw [← hl.new_eq]
    exact .kept ((congrArg Lead.status heq).trans rfl)
      ((congrArg Lead.convertedClientId heq).trans rfl)
  | updateLeadStatus hsees hedge hl =>
    rename_i u leadId st l l'
    have hkey : l.id = leadId := Table.key_of_find? hl.found
    have hne : l.status ≠ st := by
      rintro rfl
      revert hedge
      cases l.status <;> decide
    refine .alter (fun l ↦ .kept rfl rfl) hl.found ?_
    rw [LeadService.saved_status, if_neg hne]
    exact .moved st (by rw [hkey]) hedge rfl rfl
  | assignLead hrole hl =>
    rename_i u leadId ownerId l l'
    refine .alter (fun l ↦ .kept rfl rfl) hl.found ?_
    rw [LeadService.saved_ownerId]
    split
    · exact .kept rfl rfl
    · exact .kept rfl rfl
  | convertLead hrole hl hunlinked hqualified hrow hnew hcontact hbilling ha hflush =>
    rename_i u leadId body l c a t
    have hkey : l.id = leadId := Table.key_of_find? hl
    have hid : c.id = env.uuid 0 := (ClientService.row_spec hrow).1
    refine .alter (fun l ↦ .kept rfl rfl) hl ?_
    rw [ClientService.saved_conversion _ _ hqualified hunlinked]
    refine .converted body (env.uuid 0) (by rw [hkey]) hqualified hunlinked rfl rfl (hid ▸ hnew) ?_
    exact Table.has_iff.2 ⟨c, Table.mem_insert_self hnew, hid⟩
  | _ => exact .refl fun l ↦ .kept rfl rfl

/-- No request deletes a lead. -/
theorem Step.leads_persist (h : Step p s env db user r resp db') {k : UUID}
    (hk : db.leads.has k = true) : db'.leads.has k = true := by
  cases h with
  | createLead hrow hnew =>
    obtain ⟨l, hl, rfl⟩ := Table.has_iff.1 hk
    exact Table.has_iff.2 ⟨l, Table.mem_insert_of_mem hl, rfl⟩
  | updateLead | updateLeadStatus | assignLead | convertLead => exact Table.has_alter.trans hk
  | _ => exact hk

/-- The steps that touch leads are answered with success. -/
theorem Step.isOk_of_leads (h : Step p s env db user r resp db') (hne : db'.leads ≠ db.leads) :
    resp.isOk = true := by
  cases h with
  | createLead | updateLead | updateLeadStatus | assignLead | convertLead => rfl
  | _ => exact absurd rfl hne

end Step

section Act

variable {p : Platform} {s : Settings} {db db' : Db} {a : Act} {answer : Option Response}

/-- **The leads after an act.** -/
theorem Happens.leads (h : Happens p s db a answer db') :
    Table.Evolves (LeadChange (fun r ↦ a.Asks p r ∧ answer.any Response.isOk = true) db db')
      FreshLead db.leads db'.leads := by
  have hsame : db'.leads = db.leads → Table.Evolves
      (LeadChange (fun r ↦ a.Asks p r ∧ answer.any Response.isOk = true) db db')
      FreshLead db.leads db'.leads := fun heq ↦ by
    rw [heq]
    exact .refl fun l ↦ .kept rfl rfl
  cases h with
  | idle h => exact hsame rfl
  | step hv h =>
    by_cases hne : db'.leads = db.leads
    · exact hsame hne
    · refine fun l' hl' ↦ (h.leads l' hl').imp_left fun ⟨l, hl, hk, hchange⟩ ↦ ⟨l, hl, hk, ?_⟩
      refine hchange.mono ?_
      rintro _ rfl
      exact ⟨Act.asks_bound hv _ _, h.isOk_of_leads hne⟩
  | account h =>
    obtain ⟨t, rfl⟩ := TableOp.exists_setTable h
    exact hsame rfl
  | refused => exact hsame rfl

theorem Happens.leads_persist (h : Happens p s db a answer db') {k : UUID}
    (hk : db.leads.has k = true) : db'.leads.has k = true := by
  cases h with
  | idle h => exact hk
  | step hv h => exact h.leads_persist hk
  | account h =>
    obtain ⟨t, rfl⟩ := TableOp.exists_setTable h
    exact hk
  | refused => exact hk

end Act

/-! ### Histories -/

namespace Run

/-- At some point of the run the lead had the status. -/
def Reached (r : Run) (leadId : UUID) (st : LeadStatus) : Prop :=
  ∃ e ∈ r.events, ∃ l ∈ e.after.leads, l.id = leadId ∧ l.status = st

/-- At some point of the run the status endpoint took the lead to `converted`. -/
def MovedToConverted (p : Platform) (r : Run) (leadId : UUID) : Prop :=
  ∃ e ∈ r.events, e.succeeded = true ∧ e.act.Asks p (.updateLeadStatus leadId .converted)

variable {r : Run} {e : Event} {k : UUID}

theorem Reached.of_next {st : LeadStatus} (h : Reached ⟨e.after, r.events ++ [e]⟩ k st) :
    r.Reached k st ∨ ∃ l ∈ e.after.leads, l.id = k ∧ l.status = st := by
  obtain ⟨e', he', l, hl, hk⟩ := h
  rcases List.mem_append.1 he' with he' | he'
  · exact Or.inl ⟨e', he', l, hl, hk⟩
  · obtain rfl := List.mem_singleton.1 he'
    exact Or.inr ⟨l, hl, hk⟩

theorem Reached.next {st : LeadStatus} (h : r.Reached k st) :
    Reached ⟨e.after, r.events ++ [e]⟩ k st := by
  obtain ⟨e', he', hk⟩ := h
  exact ⟨e', List.mem_append_left _ he', hk⟩

theorem reached_last {l : Lead} (hl : l ∈ e.after.leads) :
    Reached ⟨e.after, r.events ++ [e]⟩ l.id l.status :=
  ⟨e, List.mem_append_right _ (List.mem_singleton_self e), l, hl, rfl, rfl⟩

theorem MovedToConverted.next {p : Platform} (h : r.MovedToConverted p k) :
    MovedToConverted p ⟨e.after, r.events ++ [e]⟩ k := by
  obtain ⟨e', he', hk⟩ := h
  exact ⟨e', List.mem_append_left _ he', hk⟩

end Run

/-! ### The invariant -/

/-- What holds of the leads after a run, in the form in which one more act preserves it. -/
structure LeadInvariant (p : Platform) (r : Run) : Prop where
  /-- No lead is forgotten. -/
  remembered : ∀ e ∈ r.events, ∀ l ∈ e.after.leads, r.db.leads.has l.id = true
  linked : ∀ l ∈ r.db.leads, l.convertedClientId ≠ none → l.status = .converted
  unlinked : ∀ l ∈ r.db.leads, l.status = .converted → l.convertedClientId = none →
    r.MovedToConverted p l.id
  injective : ∀ l ∈ r.db.leads, ∀ l' ∈ r.db.leads, ∀ c,
    l.convertedClientId = some c → l'.convertedClientId = some c → l = l'
  /-- From `qualified` on, only `disqualified` leads away from `converted`. -/
  progressed : ∀ l ∈ r.db.leads, r.Reached l.id .qualified → ¬r.Reached l.id .disqualified →
    l.status = .qualified ∨ l.status = .converted

section Invariant

variable {p : Platform} {s : Settings}

theorem leadInvariant_empty : LeadInvariant p Run.empty where
  remembered _ he := absurd he List.not_mem_nil
  linked _ hl := absurd hl Table.not_mem_empty
  unlinked _ hl := absurd hl Table.not_mem_empty
  injective _ hl := absurd hl Table.not_mem_empty
  progressed _ hl := absurd hl Table.not_mem_empty

/-- A lead that is linked after an act was linked before, or the act linked it to a client that is
new. -/
theorem linked_before {db db' : Db} {Asks : Request → Prop} {l' : Lead} {c : UUID}
    (hev : Table.Evolves (LeadChange Asks db db') FreshLead db.leads db'.leads)
    (hl' : l' ∈ db'.leads) (hc : l'.convertedClientId = some c) :
    ∃ l ∈ db.leads, l.id = l'.id ∧ (l.convertedClientId = some c ∨
      db.clients.has c = false ∧ l'.status = .converted ∧
      ∃ body, Asks (.convertLead l'.id body)) := by
  rcases hev l' hl' with ⟨l, hl, hk, hchange⟩ | ⟨-, -, hnone⟩
  · refine ⟨l, hl, hk, ?_⟩
    have hid : l.id = l'.id := hk
    cases hchange with
    | kept hstatus hlink => exact Or.inl (hlink.symm.trans hc)
    | moved st hr hedge hstatus hlink => exact Or.inl (hlink.symm.trans hc)
    | converted body c' hr hq hun hstatus hlink hnew hexists =>
      have hcc : c' = c := Option.some.inj (hlink.symm.trans hc)
      exact Or.inr ⟨hcc ▸ hnew, hstatus, body, hid ▸ hr⟩
  · rw [hnone] at hc
    cases hc

/-- Linked leads are converted, after an act as before it. -/
theorem linked_next {db db' : Db} {Asks : Request → Prop}
    (hev : Table.Evolves (LeadChange Asks db db') FreshLead db.leads db'.leads)
    (h : ∀ l ∈ db.leads, l.convertedClientId ≠ none → l.status = .converted) :
    ∀ l ∈ db'.leads, l.convertedClientId ≠ none → l.status = .converted := by
  intro l' hl' hlinked
  rcases hev l' hl' with ⟨l, hl, hk, hchange⟩ | ⟨-, -, hnone⟩
  · cases hchange with
    | kept hstatus hlink => exact hstatus.trans (h l hl (hlink ▸ hlinked))
    | moved st hr hedge hstatus hlink =>
      -- `converted` is terminal.
      rw [h l hl (hlink ▸ hlinked)] at hedge
      cases hedge
    | converted body c hr hq hun hstatus hlink hnew hexists => exact hstatus
  · exact absurd hnone hlinked

/-- **One more act keeps the invariant.** -/
theorem LeadInvariant.next {r : Run} (h : LeadInvariant p r) (hvalid : r.db.Valid) {a : Act}
    {answer : Option Response} {db' : Db} (hact : Happens p s r.db a answer db') :
    LeadInvariant p ⟨db', r.events ++ [⟨r.db, a, answer, db'⟩]⟩ := by
  have hev := hact.leads
  refine ⟨?remembered, ?linked, ?unlinked, ?injective, ?progressed⟩
  case remembered =>
    intro e he l hl
    rcases List.mem_append.1 he with he | he
    · exact hact.leads_persist (h.remembered e he l hl)
    · obtain rfl := List.mem_singleton.1 he
      exact Table.has_iff.2 ⟨l, hl, rfl⟩
  case linked => exact linked_next hev h.linked
  case unlinked =>
    intro l' hl' hconverted hnone
    rcases hev l' hl' with ⟨l, hl, hk, hchange⟩ | ⟨-, hnew, -⟩
    · have hid : l.id = l'.id := hk
      cases hchange with
      | kept hstatus hlink =>
        have hmoved := h.unlinked l hl (hstatus.symm.trans hconverted) (hlink.symm.trans hnone)
        exact hid ▸ hmoved.next (e := ⟨r.db, a, answer, db'⟩)
      | moved st hr hedge hstatus hlink =>
        obtain rfl : st = .converted := hstatus.symm.trans hconverted
        exact ⟨_, List.mem_append_right _ (List.mem_singleton_self _), hr.2, hid ▸ hr.1⟩
      | converted body c hr hq hun hstatus hlink hnew hexists =>
        rw [hnone] at hlink
        cases hlink
    · rw [hconverted] at hnew
      cases hnew
  case injective =>
    intro l₁ hl₁ l₂ hl₂ c hc₁ hc₂
    obtain ⟨x₁, hx₁, hk₁, hcase₁⟩ := linked_before hev hl₁ hc₁
    obtain ⟨x₂, hx₂, hk₂, hcase₂⟩ := linked_before hev hl₂ hc₂
    -- A client that a lead was linked to before cannot be new.
    have hold : ∀ x ∈ r.db.leads, x.convertedClientId = some c → r.db.clients.has c = true := by
      intro x hx hxc
      have hrefers := hvalid.leads.refers x hx
      simp only [Relation.refers, Bool.and_eq_true, hxc] at hrefers
      exact hrefers.2
    refine Table.eq_of_key_eq hl₁ hl₂ ?_
    show l₁.id = l₂.id
    rcases hcase₁ with hx₁c | ⟨hnew, -, b₁, hr₁⟩ <;> rcases hcase₂ with hx₂c | ⟨hnew', -, b₂, hr₂⟩
    · rw [← hk₁, ← hk₂, h.injective x₁ hx₁ x₂ hx₂ c hx₁c hx₂c]
    · rw [hold x₁ hx₁ hx₁c] at hnew'
      cases hnew'
    · rw [hold x₂ hx₂ hx₂c] at hnew
      cases hnew
    · exact (Request.convertLead.inj (hr₁.1.unique hr₂.1)).1
  case progressed =>
    intro l' hl' hreached hnever
    -- Either the status was reached before this act, or it is the one that the lead has now.
    rcases Run.Reached.of_next (e := ⟨r.db, a, answer, db'⟩) hreached
      with hbefore | ⟨x, hx, hid, hst⟩
    swap
    · obtain rfl : x = l' := Table.eq_of_key_eq hx hl' hid
      exact Or.inl hst
    have hnever' : ¬r.Reached l'.id .disqualified := fun hd ↦
      hnever (hd.next (e := ⟨r.db, a, answer, db'⟩))
    have hnow : l'.status ≠ .disqualified := fun hd ↦
      hnever (hd ▸ Run.reached_last (r := r) (e := ⟨r.db, a, answer, db'⟩) hl')
    rcases hev l' hl' with ⟨l, hl, hk, hchange⟩ | ⟨hnew, -⟩
    · have hid : l.id = l'.id := hk
      have hl_status := h.progressed l hl (hid ▸ hbefore) (hid ▸ hnever')
      cases hchange with
      | kept hstatus hlink => rwa [hstatus]
      | moved st hr hedge hstatus hlink =>
        rw [hstatus] at hnow ⊢
        revert hedge hnow
        rcases hl_status with hq | hq <;> rw [hq] <;> cases st <;> decide
      | converted body c hr hq hun hstatus hlink hnew hexists => exact Or.inr hstatus
    · -- A lead that did not exist had no status.
      obtain ⟨e, he, x, hx, hid, -⟩ := hbefore
      have hhas := h.remembered e he x hx
      rw [hid] at hhas
      have hnew' : r.db.leads.has l'.id = false := hnew
      rw [hhas] at hnew'
      cases hnew'

theorem leadInvariant_run (acts : List Act) : LeadInvariant p (run p s acts) :=
  run_induction leadInvariant_empty (fun _ _ _ _ hvalid _ hI h ↦ hI.next hvalid h) acts

end Invariant

/-! ### A qualified lead can be converted -/

/-- A conversion that overrides nothing. -/
def ConvertLeadBody.plain : ConvertLeadBody := ⟨none, none, none, none, none, none, none, none⟩

/-- **The lead can still be converted**: whoever may convert leads and does so, with identifiers
that are not in use, succeeds and links the lead to a client. -/
def Convertible (p : Platform) (s : Settings) (db : Db) (leadId : UUID) : Prop :=
  ∀ (env : Env) (u : User), u ∈ db.users → u.isActive = true →
    u.role ∈ [Role.admin, Role.comercial] → db.clients.has (env.uuid 0) = false →
    db.contacts.has (env.uuid 1) = false → db.activityLog.has (env.uuid 3) = false →
    let answer := handle p s env db (.ok u.email.val) (.bound (.convertLead leadId .plain))
    answer.1.isOk = true ∧
      ∃ l ∈ answer.2.leads, l.id = leadId ∧ l.convertedClientId = some (env.uuid 0)

/-- The name of the client of a plain conversion is a stored name. -/
theorem exists_clientName (l : Lead) :
    ∃ name : Str 200, ClientService.clientName .plain l = name.val := by
  rcases hc : l.company with - | company
  · exact ⟨l.name, by
      simp [ClientService.clientName, ClientService.orElse, ConvertLeadBody.plain, hc]⟩
  · by_cases hempty : company.val = ""
    · exact ⟨l.name, by
        simp [ClientService.clientName, ClientService.orElse, ConvertLeadBody.plain, hc, hempty,
          Option.filter]⟩
    · exact ⟨company, by
        simp [ClientService.clientName, ClientService.orElse, ConvertLeadBody.plain, hc, hempty,
          Option.filter]⟩

/-- The client of a plain conversion can be stored. -/
theorem exists_plainClient (env : Env) (l : Lead) :
    ∃ c, ClientService.row env (ClientService.clientName .plain l) none none none none none
      "lead" = .ok c := by
  obtain ⟨name, hname⟩ := exists_clientName l
  have hencode : (encode (some name.val) : Except DbError (Str 200)) = .ok name :=
    encode_decode name
  rw [hname, ClientService.row, hencode]
  exact ⟨_, rfl⟩

/-- The entry that records a conversion can be stored. -/
theorem exists_conversionEntry (env : Env) (l : Lead) (actor : UUID) :
    ∃ a, ActivityLogService.row env (env.uuid 3) (env.uuid 0) .leadConverted
      ("Lead " ++ l.name.val ++ " converted to client") actor = .ok a := by
  have hname := l.name.noNul
  have h₁ : Char.ofNat 0 ∉ "Lead ".toList := by decide
  have h₂ : Char.ofNat 0 ∉ " converted to client".toList := by decide
  have hnul : Char.ofNat 0 ∉ ("Lead " ++ l.name.val ++ " converted to client").toList := by
    simp only [String.toList_append, List.mem_append, not_or]
    exact ⟨⟨h₁, hname⟩, h₂⟩
  have hencode : (encode (some ("Lead " ++ l.name.val ++ " converted to client")) :
      Except DbError Text) = .ok ⟨_, fun n hn ↦ (nomatch hn), hnul⟩ :=
    encode_decode (⟨_, fun n hn ↦ (nomatch hn), hnul⟩ : Text)
  rw [ActivityLogService.row, hencode]
  exact ⟨_, rfl⟩

section Convertible

variable {p : Platform} {s : Settings} {db : Db}

/-- In a valid database no billing profile refers to a client that is yet to be created. -/
theorem checkRow_newProfile (hvalid : db.Valid) {db' : Db} {b : BillingProfile}
    (hsame : db'.billingProfiles = db.billingProfiles) (hnew : db.clients.has b.clientId = false)
    (hclient : db'.clients.has b.clientId = true) : checkRow db' b = .ok () := by
  refine checkRow_eq_ok_iff.2 ⟨fun x hx _ hagrees ↦ ?_, hclient⟩
  have hrefers : db.clients.has x.clientId = true := hvalid.billingProfiles.refers x (hsame ▸ hx)
  have heq : x.clientId = b.clientId := congrArg Prod.fst hagrees
  rw [heq, hnew] at hrefers
  cases hrefers

/-- The billing profile of a conversion goes in, if there is one. -/
theorem exists_run_addBillingProfile (hvalid : db.Valid) {db₁ : Db} {env : Env}
    {billing : Option BillingProfileCreate}
    (hsame : db₁.billingProfiles = db.billingProfiles)
    (hnew : db.clients.has (env.uuid 0) = false) (hclient : db₁.clients.has (env.uuid 0) = true)
    (hbilling : ∀ payload, billing = some payload →
      db.billingProfiles.has (env.uuid 2) = false ∧
      ∃ b, ClientService.billingProfileRow env (env.uuid 2) (env.uuid 0) payload true = .ok b) :
    ∃ t, (ClientService.addBillingProfile env billing).run db₁ =
      .ok ((), { db₁ with billingProfiles := t }) := by
  rcases hb : billing with - | payload
  · exact ⟨db₁.billingProfiles, rfl⟩
  · obtain ⟨hfresh, b, hrow⟩ := hbilling payload hb
    obtain ⟨hid, hclientId, -⟩ := ClientService.billingProfileRow_spec hrow
    have hunused : db₁.billingProfiles.has b.id = false := by
      rw [hsame, hid]
      exact hfresh
    refine ⟨db₁.billingProfiles.insert b, ?_⟩
    rw [ClientService.addBillingProfile, hrow]
    exact Session.run_add hunused
      (checkRow_newProfile hvalid hsame (hclientId ▸ hnew) (hclientId ▸ hclient))

/-- **The conversion of a qualified lead without a client goes through** if its rows can be stored,
under identifiers that are not in use, and the users that it refers to exist. -/
theorem exists_run_convertFromLead (hvalid : db.Valid) {l : Lead} (hl : l ∈ db.leads)
    (hqualified : l.status = .qualified) (hunlinked : l.convertedClientId = none) {env : Env}
    {body : ConvertLeadBody} {actor : UUID} (howner : refersTo db.users body.ownerId = true)
    (hactor : db.users.has actor = true) (hclient : db.clients.has (env.uuid 0) = false)
    (hcontact : db.contacts.has (env.uuid 1) = false)
    (hlog : db.activityLog.has (env.uuid 3) = false) {c : Client}
    (hrow : ClientService.row env (ClientService.clientName body l) body.sector body.size
      body.region body.ownerId body.mrrCents (body.stage.getD "lead") = .ok c)
    (hbilling : ∀ payload, body.billingProfile = some payload →
      db.billingProfiles.has (env.uuid 2) = false ∧
      ∃ b, ClientService.billingProfileRow env (env.uuid 2) (env.uuid 0) payload true = .ok b) :
    ∃ db', (ClientService.convertFromLead env l.id body actor).run db = .ok (c, db') := by
  obtain ⟨a, ha⟩ := exists_conversionEntry env l actor
  obtain ⟨hid, hclientId, hactorId⟩ := ActivityLogService.row_spec ha
  have hc : c.id = env.uuid 0 := (ClientService.row_spec hrow).1
  have hcowner : refersTo db.users c.ownerId = true :=
    ClientService.ownerId_of_row hrow ▸ howner
  have hnew : db.clients.has c.id = false := hc ▸ hclient
  have hclient' : (db.clients.insert c).has (env.uuid 0) = true := hc ▸ Table.has_insert_self _ c
  have hfound : db.leads.find? l.id = some l := Table.find?_of_mem hl
  -- One statement after the other: the client, its contact, the profile, the entry, the lead.
  let db₁ : Db := { db with clients := db.clients.insert c }
  let db₂ : Db := { db₁ with contacts := db.contacts.insert (ClientService.contactRow env l) }
  have h₁ : (Session.add (.ok c)).run db = .ok ((), db₁) :=
    Session.run_add hnew (checkRow_eq_ok_iff.2 ⟨fun _ _ _ h ↦ h, hcowner⟩)
  have h₂ : (Session.add (.ok (ClientService.contactRow env l))).run db₁ = .ok ((), db₂) :=
    Session.run_add hcontact (checkRow_eq_ok_iff.2 ⟨fun _ _ _ h ↦ h, hclient'⟩)
  obtain ⟨t, h₃⟩ := exists_run_addBillingProfile hvalid (rfl : db₂.billingProfiles = _) hclient
    hclient' hbilling
  let db₃ : Db := { db₂ with billingProfiles := t }
  let db₄ : Db := { db₃ with activityLog := db.activityLog.insert a }
  have hanew : db.activityLog.has a.id = false := hid ▸ hlog
  have h₄ : (Session.add (.ok a)).run db₃ = .ok ((), db₄) := by
    refine Session.run_add hanew (checkRow_eq_ok_iff.2 ⟨fun _ _ _ h ↦ h, ?_⟩)
    refine Bool.and_eq_true_iff.2 ⟨hclientId ▸ hclient', ?_⟩
    rw [hactorId]
    exact hactor
  have h₅ : Session.Accepted env.now l (ClientService.conversionChanges env) db₄ := by
    refine Or.inr ⟨_, l, (ClientService.updateOf_conversion env env.now hqualified hunlinked).1,
      hfound, ?_⟩
    have howner : refersTo db.users l.ownerId = true :=
      (Bool.and_eq_true_iff.1 (hvalid.leads.refers l hl)).1
    rw [checkChange]
    split
    · rfl
    · exact checkRow_eq_ok_iff.2 ⟨fun _ _ _ h ↦ h, Bool.and_eq_true_iff.2 ⟨howner, hclient'⟩⟩
  have h₆ : (db.clients.insert c).find? (env.uuid 0) = some c :=
    hc ▸ Table.find?_insert_self hnew
  rw [ClientService.convertFromLead, Prog.run_bind_ok (Prog.run_query _ db), hfound]
  simp only [Prog.demand, Prog.ret_bind, hunlinked, hqualified, decide_true, Prog.require, if_true,
    hrow, ActivityLogService.appendActivity, ha]
  rw [Prog.run_bind_ok h₁, Prog.run_bind_ok h₂, Prog.run_bind_ok h₃, Prog.run_bind_ok h₄,
    Prog.run_bind_ok (Session.run_flush_ok h₅)]
  exact ⟨_, Session.run_refresh h₆⟩

/-- **A qualified lead without a client can be converted.** -/
theorem convertible_of_qualified (hvalid : db.Valid) {l : Lead} (hl : l ∈ db.leads)
    (hqualified : l.status = .qualified) (hunlinked : l.convertedClientId = none) :
    Convertible p s db l.id := by
  intro env u hu hactive hrole hclient hcontact hlog
  obtain ⟨c, hrow⟩ := exists_plainClient env l
  have hactor : db.users.has u.id = true := Table.has_iff.2 ⟨u, hu, rfl⟩
  have hgoes : ∃ db', (ClientService.convertFromLead env l.id .plain u.id).run db = .ok (c, db') :=
    exists_run_convertFromLead hvalid hl hqualified hunlinked rfl hactor hclient hcontact hlog hrow
      fun _ h ↦ nomatch h
  obtain ⟨db', hrun⟩ := hgoes
  obtain ⟨l', a, t, hl', -, -, -, -, -, -, -, -, hdb'⟩ :=
    ClientService.ensures_convertFromLead c db' hrun
  obtain rfl : l' = l := Option.some.inj (hl'.symm.trans (Table.find?_of_mem hl))
  have hguard : (route p s env (.convertLead l'.id .plain)).guard
      (currentUser db (.ok u.email.val)) = .ok (do
        return ⟨201, .client (← ClientService.convertFromLead env l'.id .plain u.id)⟩) :=
    Handler.guard_requireRole.2 ⟨u, currentUser_of_mem hvalid hu hactive, hrole, rfl⟩
  have hvalidate : (Request.convertLead l'.id .plain).validate? p =
      some (.convertLead l'.id .plain) := rfl
  have hmounted : mounted s (.convertLead l'.id .plain) = true := by
    simp [mounted, Request.needsPortal, Request.isPortal]
  have hanswer : handle p s env db (.ok u.email.val) (.bound (.convertLead l'.id .plain)) =
      (⟨201, .client c⟩, db') := by
    rw [handle_of_admitted hmounted hvalidate hguard, respond, Prog.transact,
      Prog.run_bind_ok hrun]
    rfl
  rw [hanswer]
  subst hdb'
  refine ⟨rfl, _, Table.mem_alter.2 ⟨l', hl, if_pos rfl⟩, ?_, ?_⟩
  · exact (Session.saved env.now l' (ClientService.conversionChanges env)).key_fn l'
  · rw [ClientService.saved_conversion _ _ hqualified hunlinked]

end Convertible

/-! ### All runs -/

/-- **Status and linkage of leads**, after a run. -/
structure LeadsLinked (p : Platform) (s : Settings) (r : Run) : Prop where
  /-- A linked lead is converted. -/
  converted_of_linked : ∀ l ∈ r.db.leads, l.convertedClientId ≠ none → l.status = .converted
  /-- A converted lead is linked, unless the status endpoint took it there. -/
  linked_of_converted : ∀ l ∈ r.db.leads, l.status = .converted →
    l.convertedClientId ≠ none ∨ r.MovedToConverted p l.id
  /-- No two leads are linked to one client. -/
  injective : ∀ l ∈ r.db.leads, ∀ l' ∈ r.db.leads, ∀ c,
    l.convertedClientId = some c → l'.convertedClientId = some c → l = l'
  /-- A lead that was qualified and never disqualified has a client, or can still be converted, or
  was taken to `converted` by the status endpoint. -/
  convertible : ∀ l ∈ r.db.leads, r.Reached l.id .qualified → ¬r.Reached l.id .disqualified →
    l.convertedClientId ≠ none ∨ Convertible p s r.db l.id ∨ r.MovedToConverted p l.id

/-- **Lead status and client linkage agree**, up to the leads that the status endpoint converted. -/
theorem leadsLinked_run (p : Platform) (s : Settings) (acts : List Act) :
    LeadsLinked p s (run p s acts) := by
  have h : LeadInvariant p (run p s acts) := leadInvariant_run acts
  refine ⟨h.linked, fun l hl hst ↦ ?_, h.injective, fun l hl hreached hnever ↦ ?_⟩
  · by_cases hnone : l.convertedClientId = none
    · exact Or.inr (h.unlinked l hl hst hnone)
    · exact Or.inl hnone
  · by_cases hnone : l.convertedClientId = none
    swap
    · exact Or.inl hnone
    rcases h.progressed l hl hreached hnever with hst | hst
    · exact Or.inr (Or.inl (convertible_of_qualified (valid_run acts) hl hst hnone))
    · exact Or.inr (Or.inr (h.unlinked l hl hst hnone))

/-- A lead is taken through all statuses by the status endpoint alone. -/
def statusOnly : List Act :=
  let root : User := .sample 1 (.lit "root@example.com") .admin none
  let lead : LeadCreate :=
    ⟨"Ada", "ada@example.com", none, none, .general, .webForm, none, none, none⟩
  let send (r : Request) : Act := .request (.sample 10) (.ok "root@example.com") (.bound r)
  [.account (.insert root), send (.createLead ⟨[], none⟩ lead),
    send (.updateLeadStatus 10 .contacted), send (.updateLeadStatus 10 .qualified),
    send (.updateLeadStatus 10 .converted)]

/-- **A lead can be converted without a client**: `converted` does not imply linked. -/
theorem converted_iff_linked_fails :
    ¬∀ l ∈ (run .sample .sample statusOnly).db.leads,
      l.status = .converted ↔ l.convertedClientId ≠ none := by
  decide

end ZanovixCrm
