import Mathlib.Data.List.Chain
import ZanovixCrm.Api.Sessions
import ZanovixCrm.Guarantees.DefaultProfile
import ZanovixCrm.Guarantees.Journal
import ZanovixCrm.Guarantees.LeadConversion

/-!
# Requests that race

What becomes of the guarantees about single requests when requests are in flight together. Each of
them is decided by a read and kept by a write some statements later, and nothing ties the write to
the read. So each of them fails in some interleaving: two conversions of one lead both commit, two
first profiles of one client both become the default, a status is overwritten by a request that did
not see it.

**What is missing is exactly the freshness of commits.** Over interleavings in which no request
commits on stale reads, a lead is converted once (`convertedOnce_freshCommits`), a client has one
default profile (`oneDefault_freshCommits`), and the statuses, stages and states follow their
machines (`machinesFollowed_freshCommits`).
-/

namespace ZanovixCrm

/-! ### Schedules for two sessions -/

/-- Both sessions execute one statement each in turn. -/
def lockstep : List (Label (Fin 2)) := (List.replicate 20 [.go 0, .go 1]).flatten

/-- One session after the other. -/
def oneByOne : List (Label (Fin 2)) := List.replicate 20 (.go 0) ++ List.replicate 20 (.go 1)

/-- The second session runs between the reads and the writes of the first. -/
def overtaking : List (Label (Fin 2)) :=
  List.replicate 2 (.go 0) ++ List.replicate 20 (.go 1) ++ List.replicate 20 (.go 0)

/-! ### The default billing profile -/

section Profiles

variable {ι : Type} [DecidableEq ι] [Fintype ι] {p : Platform} {s : Settings}

/-- **One default per client** in every committed state, as long as no request commits on stale
reads. -/
theorem oneDefault_freshCommits (acts : List Act) (sent : ι → Sent) (labels : List (Label ι))
    (h : FreshCommits p s (run p s acts).db sent labels) :
    OneDefault (interleave p s (run p s acts).db sent labels).db.billingProfiles :=
  freshCommits_invariant (I := fun db ↦ OneDefault db.billingProfiles) (valid_run acts)
    (oneDefault_run acts) (fun hvalid hone hstep ↦ hstep.oneDefault hvalid hone) h

end Profiles

/-- The first two profiles of a client, created by two requests. -/
def firstProfiles (i : Fin 2) : Sent where
  env := .sample (20 + 10 * i.val)
  sub := .ok "root@example.com"
  request := .createBillingProfile 10 ⟨"Acme", if i = 0 then "ESA1" else "ESA2", .vat, .general,
    "Main Street 1", none, "Madrid", "Madrid", "28001", "ES", none, false⟩

theorem oneDefault_firstProfiles :
    FreshCommits .sample .sample (run .sample .sample unbilled).db firstProfiles oneByOne ∧
      OneDefault (interleave .sample .sample (run .sample .sample unbilled).db firstProfiles
        oneByOne).db.billingProfiles :=
  have h := freshCommits_of_serial (by decide +kernel)
  ⟨h, oneDefault_freshCommits unbilled firstProfiles oneByOne h⟩

/-- The profiles after the two requests have run in lockstep. -/
def racedProfiles : Table BillingProfile :=
  (interleave .sample .sample (run .sample .sample unbilled).db firstProfiles
    lockstep).db.billingProfiles

/-- **Two first profiles can both become the default.** Neither request sees the profile of the
other. -/
theorem two_defaults : HasProfile racedProfiles 10 ∧ ¬∃ k, DefaultIs racedProfiles 10 k := by
  have hrows : racedProfiles.rows.map (fun b ↦ (b.id, b.clientId, b.isDefault)) =
      [(20, 10, true), (30, 10, true)] := by
    decide +kernel
  have hdefault : ∀ k ∈ [20, 30], IsDefault racedProfiles 10 k := by
    intro k hk
    have hmem : (k, 10, true) ∈ racedProfiles.rows.map
        fun b ↦ (b.id, b.clientId, b.isDefault) := by
      rw [hrows]
      rcases List.mem_pair.1 hk with rfl | rfl <;> decide
    obtain ⟨b, hb, heq⟩ := List.mem_map.1 hmem
    obtain ⟨hid, hrest⟩ := Prod.mk.inj heq
    obtain ⟨hclient, hd⟩ := Prod.mk.inj hrest
    exact ⟨b, hb, hid, hclient, hd⟩
  refine ⟨(hdefault 20 (by decide)).hasProfile, ?_⟩
  rintro ⟨k, hk⟩
  have h₁ := (hk 20).1 (hdefault 20 (by decide))
  have h₂ := (hk 30).1 (hdefault 30 (by decide))
  exact absurd (h₁.trans h₂.symm) (by decide)

/-! ### The conversion of a lead -/

/-- The request is a conversion of the lead. -/
def Request.converts (leadId : UUID) : Request → Bool
  | .convertLead k _ => decide (k = leadId)
  | _ => false

/-- The request is for the status of the lead. -/
def Request.setsStatus (leadId : UUID) : Request → Bool
  | .updateLeadStatus k _ => decide (k = leadId)
  | _ => false

theorem Request.converts_iff {leadId : UUID} {r : Request} :
    r.converts leadId = true ↔ ∃ body, r = .convertLead leadId body := by
  cases r <;> simp [Request.converts]

theorem Request.setsStatus_iff {leadId : UUID} {r : Request} :
    r.setsStatus leadId = true ↔ ∃ st, r = .updateLeadStatus leadId st := by
  cases r <;> simp [Request.setsStatus]

/-- **What the sessions have made of the lead** since `db₀`: either no conversion has committed, and
there is no new client; or exactly one has, which has left one new client with one contact. -/
inductive Conversions {ι : Type} (db₀ : Db) (sent : ι → Sent) (leadId : UUID) (db : Db)
    (outcomes : ι → Option Response) : Prop where
  | none (hnone : ∀ i, (sent i).request.converts leadId = true → outcomes i = none)
    (hclients : db.clients = db₀.clients) (hcontacts : db.contacts = db₀.contacts)
  | one (i : ι) (c : Client) (k : Contact) (hi : (sent i).request.converts leadId = true)
    (hcommitted : outcomes i ≠ none)
    (hothers : ∀ j, j ≠ i → (sent j).request.converts leadId = true → outcomes j = none)
    (hclients : db.clients = db₀.clients.insert c) (hcontacts : db.contacts = db₀.contacts.insert k)
    (hnew : db₀.clients.has c.id = false) (hcontact : k.clientId = c.id)
    (hlead : ∃ l ∈ db.leads, l.id = leadId ∧ l.convertedClientId = some c.id)

/-- **The lead is converted at most once**, and never disqualified after that. -/
structure ConvertedOnce {ι : Type} (db₀ : Db) (sent : ι → Sent) (leadId : UUID) (db : Db)
    (outcomes : ι → Option Response) : Prop where
  conversions : Conversions db₀ sent leadId db outcomes
  notDisqualified : ∀ l ∈ db.leads, l.id = leadId → l.status = .disqualified →
    l.convertedClientId = none

section Conversions

variable {ι : Type} [DecidableEq ι] [Fintype ι] {p : Platform} {s : Settings}

section Step

variable {db₀ db db' : Db} {sent : ι → Sent} {leadId : UUID} {o : ι → Option Response} {i : ι}
  {env : Env} {user : Except Fault User} {resp : Response}

omit [Fintype ι] in
/-- A conversion can only be the first: it needs the lead without a link. -/
theorem Conversions.convertLead (h : Conversions db₀ sent leadId db o) {body : ConvertLeadBody}
    (hi : (sent i).request.converts leadId = true)
    (hstep : Step p s env db user (.convertLead leadId body) resp db') :
    Conversions db₀ sent leadId db' (Function.update o i (some resp)) := by
  cases hstep with
  | @convertLead u _ _ l c a t _ hl hunlinked hqualified hrow hnew _ _ _ _ =>
    have hid : c.id = env.uuid 0 := (ClientService.row_spec hrow).1
    cases h with
    | none hnone hclients hcontacts =>
      refine .one i c (ClientService.contactRow env l) hi (by simp) (fun j hj hconv ↦ ?_)
        (by rw [hclients]) (by rw [hcontacts]) (hclients ▸ hnew) hid.symm ?_
      · rw [Function.update_of_ne hj]
        exact hnone j hconv
      · have hkey : l.id = leadId := Table.key_of_find? hl
        refine ⟨_, (Table.mem_alter_iff hl).2 (Or.inl rfl), ?_, ?_⟩ <;>
          rw [ClientService.saved_conversion _ _ hqualified hunlinked]
        · exact hkey
        · exact congrArg some hid.symm
    | one j c' k _ _ _ _ _ _ _ hlead =>
      obtain ⟨l', hl', hkey, hlink⟩ := hlead
      obtain rfl : l' = l := Table.eq_of_key_eq hl' (Table.mem_of_find? hl)
        (hkey.trans (Table.key_of_find? hl).symm)
      rw [hunlinked] at hlink
      cases hlink

omit [Fintype ι] in
/-- A status change touches neither the clients nor the link. -/
theorem Conversions.updateLeadStatus (h : Conversions db₀ sent leadId db o) {st : LeadStatus}
    (hi : (sent i).request.converts leadId = false)
    (hstep : Step p s env db user (.updateLeadStatus leadId st) resp db') :
    Conversions db₀ sent leadId db' (Function.update o i (some resp)) := by
  have hother : ∀ j, (sent j).request.converts leadId = true →
      Function.update o i (some resp) j = o j := fun j hj ↦ by
    refine Function.update_of_ne ?_ _ _
    rintro rfl
    rw [hi] at hj
    cases hj
  cases hstep with
  | @updateLeadStatus u _ _ l l' _ _ hl =>
    cases h with
    | none hnone hclients hcontacts =>
      exact .none (fun j hj ↦ (hother j hj).trans (hnone j hj)) hclients hcontacts
    | one j c k hj hcommitted hothers hclients hcontacts hnew hcontact hlead =>
      refine .one j c k hj ((hother j hj).symm ▸ hcommitted)
        (fun j' hne hj' ↦ (hother j' hj').trans (hothers j' hne hj'))
        hclients hcontacts hnew hcontact
        ?_
      obtain ⟨x, hx, hkey, hlink⟩ := hlead
      obtain rfl : x = l := Table.eq_of_key_eq hx (Table.mem_of_find? hl.found)
        (hkey.trans (Table.key_of_find? hl.found).symm)
      refine ⟨_, (Table.mem_alter_iff hl.found).2 (Or.inl rfl), ?_, ?_⟩ <;>
        rw [LeadService.saved_status] <;> split
      · exact hkey
      · exact hkey
      · exact hlink
      · exact hlink

end Step

/-- **One conversion** in every interleaving of conversions and status changes of a lead, as long as
no request commits on stale reads. -/
theorem convertedOnce_freshCommits (acts : List Act) (leadId : UUID) (sent : ι → Sent)
    (hsent : ∀ i, (sent i).request.converts leadId = true ∨
      (sent i).request.setsStatus leadId = true)
    (labels : List (Label ι)) (h : FreshCommits p s (run p s acts).db sent labels) :
    ConvertedOnce (run p s acts).db sent leadId (interleave p s (run p s acts).db sent labels).db
      (interleave p s (run p s acts).db sent labels).outcomes := by
  have hboth := freshCommits_induction (I := fun db o ↦
    (∀ l ∈ db.leads, l.convertedClientId ≠ none → l.status = .converted) ∧
      Conversions (run p s acts).db sent leadId db o) (valid_run acts)
    ⟨(leadInvariant_run acts).linked, .none (fun _ _ ↦ rfl) rfl rfl⟩
    (fun db o i resp _ _ hread ↦ ?_) (fun db₁ o i resp db₂ _ hI _ hstep ↦ ?_) h
  · refine ⟨hboth.2, fun l hl _ hd ↦ ?_⟩
    by_contra hlinked
    rw [hboth.1 l hl hlinked] at hd
    cases hd
  · -- None of the requests is a reading one.
    rcases hsent i with hi | hi
    · obtain ⟨body, hr⟩ := Request.converts_iff.1 hi
      rw [hr] at hread
      cases hread
    · obtain ⟨st, hr⟩ := Request.setsStatus_iff.1 hi
      rw [hr] at hread
      cases hread
  · refine ⟨linked_next hstep.leads hI.1, ?_⟩
    rcases hsent i with hi | hi
    · obtain ⟨body, hr⟩ := Request.converts_iff.1 hi
      rw [hr] at hstep
      exact hI.2.convertLead hi hstep
    · obtain ⟨st, hr⟩ := Request.setsStatus_iff.1 hi
      rw [hr] at hstep
      exact hI.2.updateLeadStatus (by rw [hr]; rfl) hstep

end Conversions

/-- A qualified lead. -/
def qualifiedLead : List Act :=
  let root : User := .sample 1 (.lit "root@example.com") .admin none
  let lead : LeadCreate :=
    ⟨"Ada", "ada@example.com", none, none, .general, .webForm, none, none, none⟩
  let send (r : Request) : Act := .request (.sample 10) (.ok "root@example.com") (.bound r)
  [.account (.insert root), send (.createLead ⟨[], none⟩ lead),
    send (.updateLeadStatus 10 .contacted), send (.updateLeadStatus 10 .qualified)]

/-- Two conversions of the lead. -/
def conversions (i : Fin 2) : Sent where
  env := .sample (20 + 10 * i.val)
  sub := .ok "root@example.com"
  request := .convertLead 10 .plain

theorem convertedOnce_conversions :
    FreshCommits .sample .sample (run .sample .sample qualifiedLead).db conversions oneByOne ∧
      (∀ i, (conversions i).request.converts 10 = true ∨
        (conversions i).request.setsStatus 10 = true) ∧
      ConvertedOnce (run .sample .sample qualifiedLead).db conversions 10
        (interleave .sample .sample (run .sample .sample qualifiedLead).db conversions oneByOne).db
        (interleave .sample .sample (run .sample .sample qualifiedLead).db conversions
          oneByOne).outcomes :=
  have hsent : ∀ i, (conversions i).request.converts 10 = true ∨
      (conversions i).request.setsStatus 10 = true := fun _ ↦ Or.inl rfl
  have h := freshCommits_of_serial (by decide +kernel)
  ⟨h, hsent, convertedOnce_freshCommits qualifiedLead 10 conversions hsent oneByOne h⟩

/-- **Two conversions of one lead can both commit**, each with a client of its own. -/
theorem converted_twice :
    ¬ConvertedOnce (run .sample .sample qualifiedLead).db conversions 10
      (interleave .sample .sample (run .sample .sample qualifiedLead).db conversions lockstep).db
      (interleave .sample .sample (run .sample .sample qualifiedLead).db conversions
        lockstep).outcomes := by
  intro h
  have hcommitted : ∀ i, ((interleave .sample .sample (run .sample .sample qualifiedLead).db
      conversions lockstep).outcomes i).isSome = true := by
    decide +kernel
  -- Of two conversions that have committed, neither is the only one.
  have hsome : ∀ i, (interleave .sample .sample (run .sample .sample qualifiedLead).db
      conversions lockstep).outcomes i ≠ none := fun i ↦ Option.isSome_iff_ne_none.1 (hcommitted i)
  cases h.conversions with
  | none hnone => exact hsome 0 (hnone 0 rfl)
  | one i c k _ _ hothers =>
    obtain ⟨j, hj⟩ := exists_ne i
    exact hsome j (hothers j hj rfl)

/-! ### Statuses, stages and states -/

/-- **What one commit can do to statuses, stages and states**: each stays or follows an edge of its
machine, and a service is inserted only under a client that is not lost. -/
structure Transitions (db db' : Db) : Prop where
  leads : Table.Follows Lead.status LeadStatusMachine.Edge db.leads db'.leads
  clients : Table.Follows Client.stage ClientStageMachine.Edge db.clients db'.clients
  services : Table.Follows Service.state ServiceStateMachine.Edge db.services db'.services
  started : ∀ sv ∈ db'.services, db.services.has sv.id = false →
    ∃ c ∈ db.clients, c ∈ db'.clients ∧ c.id = sv.clientId ∧ c.stage ≠ .lost

theorem Transitions.refl (db : Db) : Transitions db db where
  leads := .refl
  clients := .refl
  services := .refl
  started sv hsv hnew := absurd rfl (Table.has_eq_false_iff.1 hnew sv hsv)

/-- What is final stays. -/
structure TerminalsKept (db db' : Db) : Prop where
  leads : Table.Settled Lead.status LeadStatusMachine.Edge db.leads db'.leads
  clients : Table.Settled Client.stage ClientStageMachine.Edge db.clients db'.clients
  services : Table.Settled Service.state ServiceStateMachine.Edge db.services db'.services

theorem Transitions.terminalsKept {db db' : Db} (h : Transitions db db') : TerminalsKept db db' :=
  ⟨h.leads.settled, h.clients.settled, h.services.settled⟩

instance : Trans TerminalsKept TerminalsKept TerminalsKept where
  trans h h' := ⟨h.leads.trans h'.leads, h.clients.trans h'.clients, h.services.trans h'.services⟩

section Transitions

variable {p : Platform} {s : Settings} {env : Env} {db db' : Db} {user : Except Fault User}
  {r : Request} {resp : Response}

theorem LeadChange.follows {Asks : Request → Prop} {l l' : Lead} (h : LeadChange Asks db db' l l') :
    l'.status = l.status ∨ LeadStatusMachine.Edge l.status l'.status := by
  cases h with
  | kept hstatus hlink => exact Or.inl hstatus
  | moved st hr hedge hstatus hlink => exact Or.inr (hstatus ▸ hedge)
  | converted body c hr hqualified hunlinked hstatus hlink hnew hexists =>
    rw [hqualified, hstatus]
    exact Or.inr (by decide)

theorem StageChange.follows {c c' : Client} (h : StageChange db db' c c') :
    c'.stage = c.stage ∨ ClientStageMachine.Edge c.stage c'.stage := by
  cases h with
  | kept hstage hentries => exact Or.inl hstage
  | changed hedge ha hentries => exact Or.inr hedge

/-- **The services after a step.** -/
theorem Step.serviceStates (h : Step p s env db user r resp db') :
    Table.Evolves (fun sv sv' ↦ sv'.state = sv.state ∨ ServiceStateMachine.Edge sv.state sv'.state)
      (fun sv ↦ ∃ c ∈ db.clients, c ∈ db'.clients ∧ c.id = sv.clientId ∧ c.stage ≠ .lost)
      db.services db'.services := by
  cases h with
  | createService hrole hc hstage hrow hnew =>
    obtain ⟨hmem, hkey⟩ := Table.find?_eq_some_iff.1 hc
    obtain ⟨-, hclient, -⟩ := ServiceService.row_spec hrow
    exact .insert (fun _ ↦ Or.inl rfl) hnew ⟨_, hmem, hmem, hkey.trans hclient.symm, hstage⟩
  | updateService hsees hs =>
    have hstate := congrArg Service.state (ServiceService.eq_merge hs)
    exact hs.evolves (fun _ ↦ Or.inl rfl) (Or.inl hstate)
  | @changeServiceState u serviceId state sv sm a hsees hcan hs ha =>
    obtain ⟨st, rfl⟩ : ∃ st : ServiceState, TextEnum.text st = state :=
      hs.accepted.flushes.exists_text
    have hedge : ServiceStateMachine.Edge sv.state st := permits_text_iff.1 hcan
    refine hs.evolves (fun _ ↦ Or.inl rfl) ?_
    rw [hs.new_eq, ServiceService.saved_state]
    split
    · exact Or.inl rfl
    · exact Or.inr hedge
  | _ => exact .refl fun _ ↦ Or.inl rfl

/-- **Every step follows the machines.** -/
theorem Step.transitions (h : Step p s env db user r resp db') (hvalid : db.Valid)
    (hgrows : Grows db db') : Transitions db db' where
  leads := h.leads.follows (fun _ ↦ h.leads_persist) fun _ _ ↦ LeadChange.follows
  clients := (h.stages hvalid).follows hgrows.clients fun _ _ ↦ StageChange.follows
  services := h.serviceStates.follows hgrows.services fun _ _ ↦ id
  started sv hsv hnew := by
    rcases h.serviceStates sv hsv with ⟨x, hx, hkey, -⟩ | ⟨-, hstarted⟩
    · exact absurd hkey (Table.has_eq_false_iff.1 hnew x hx)
    · exact hstarted

end Transitions

/-- **The committed states follow the machines**: consecutive ones by single transitions, and what
is final in one of them is so in all later ones. -/
structure MachinesFollowed (states : List Db) : Prop where
  transitions : states.IsChain Transitions
  terminals : states.Pairwise TerminalsKept

section Machines

variable {ι : Type} [DecidableEq ι] [Fintype ι] {p : Platform} {s : Settings}

/-- **Committed histories follow the machines**, as long as no request commits on stale reads. -/
theorem machinesFollowed_freshCommits (acts : List Act) (sent : ι → Sent)
    (labels : List (Label ι)) (h : FreshCommits p s (run p s acts).db sent labels) :
    MachinesFollowed (committed p s (run p s acts).db sent labels) := by
  have hchain : (committed p s (run p s acts).db sent labels).IsChain Transitions :=
    freshCommits_isChain (valid_run acts) Transitions.refl
      (fun hvalid hgrows hstep ↦ hstep.transitions hvalid hgrows) h
  exact ⟨hchain, (hchain.imp fun _ _ ↦ Transitions.terminalsKept).pairwise⟩

end Machines

/-- A lead that has been contacted. -/
def contactedLead : List Act := qualifiedLead.take 3

/-- The lead is qualified by one request and disqualified by another. -/
def verdicts (i : Fin 2) : Sent where
  env := .sample (20 + 10 * i.val)
  sub := .ok "root@example.com"
  request := .updateLeadStatus 10 (if i = 0 then .qualified else .disqualified)

theorem machinesFollowed_verdicts :
    FreshCommits .sample .sample (run .sample .sample contactedLead).db verdicts oneByOne ∧
      MachinesFollowed
        (committed .sample .sample (run .sample .sample contactedLead).db verdicts oneByOne) :=
  have h := freshCommits_of_serial (by decide +kernel)
  ⟨h, machinesFollowed_freshCommits contactedLead verdicts oneByOne h⟩

/-- **A terminal status can be overwritten** by a request that has read the status before. -/
theorem disqualified_overwritten :
    ¬MachinesFollowed
      (committed .sample .sample (run .sample .sample contactedLead).db verdicts overtaking) := by
  intro h
  have hedges : ((committed .sample .sample (run .sample .sample contactedLead).db verdicts
      overtaking).map fun db ↦ (db.leads.find? 10).map Lead.status).IsChain
        fun a b ↦ a = some .disqualified → b ≠ some .qualified := by
    refine List.isChain_map_of_isChain _ (fun db db' htrans hbefore hafter ↦ ?_) h.transitions
    obtain ⟨l, hl, hst⟩ := Option.map_eq_some_iff.1 hbefore
    obtain ⟨l', hl', hst'⟩ := Option.map_eq_some_iff.1 hafter
    obtain ⟨x, hx, hkey, hmove⟩ := htrans.leads l (Table.mem_of_find? hl)
    obtain rfl : x = l' := Table.eq_of_key_eq hx (Table.mem_of_find? hl')
      (hkey.trans ((Table.key_of_find? hl).trans (Table.key_of_find? hl').symm))
    rw [hst, hst'] at hmove
    revert hmove
    decide
  revert hedges
  decide +kernel

end ZanovixCrm
