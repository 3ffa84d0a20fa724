import ZanovixCrm.Api.Requests

/-!
# Routes

Each endpoint is a guard and a transaction. The guard is one of the dependencies that the routes
declare: nobody in particular, any authenticated user, a user in one of the listed roles, or a
portal user with the client they are linked to. The transaction is the call of the service, the
commit, and the rendering of the result; a rendering that fails does so after the commit, and is
therefore part of the answer and not an exception of the transaction.

`handle` is one request from end to end. As the framework does, it resolves the guard before it
looks at whether the parameters and the body are acceptable.

**Left out.** A failure of the commit itself, which cannot happen because no constraint is deferred;
the cookie that `login` and `logout` set; CORS. The texts of a 422 answer are those of Pydantic.
-/

namespace ZanovixCrm

/-- An endpoint behind its guard. -/
inductive Handler where
  /-- No authentication; a dependency may still refuse. -/
  | anonymous (refusal : Option Fault) (m : Tx Response)
  /-- `Depends(get_current_user)`. -/
  | currentUser (m : User → Tx Response)
  /-- `Depends(require_role(*roles))`. -/
  | requireRole (roles : List Role) (m : User → Tx Response)
  /-- `Depends(scope_to_client)`. -/
  | scopeToClient (m : User → UUID → Tx Response)

namespace Handler

/-- `require_role`: the refusal names the roles. -/
def forbidden (roles : List Role) : Fault :=
  .http .forbidden (.text ("Insufficient permissions. Required: " ++
    ", ".intercalate (roles.map TextEnum.text)))

/-- Resolve the guard: the transaction to run, or the exception of the dependency. -/
def guard (user : Except Fault User) : Handler → Except Fault (Tx Response)
  | .anonymous none m => .ok m
  | .anonymous (some f) _ => .error f
  | .currentUser m => user.map m
  | .requireRole roles m => user.bind fun u ↦
    if u.role ∈ roles then .ok (m u) else .error (forbidden roles)
  | .scopeToClient m => user.bind fun u ↦
    if u.role = .clientUser then
      match u.clientId with
      | some c => .ok (m u c)
      | none => .error (.http .forbidden (.text
        "Account not linked to a client. Contact your account manager."))
    else .error (.http .forbidden
      (.text "This endpoint is only accessible to client_user accounts."))

end Handler

/-- The database part of `get_current_user`: the active user whose address the token carries. -/
def currentUser (db : Db) (sub : Except Fault String) : Except Fault User :=
  sub.bind fun email ↦
    match db.users.rows.filter fun u ↦ decide (u.email.val = email) with
    | [] => .error (.http .unauthorized (.text "User not found"))
    | [u] =>
      if u.isActive then .ok u
      else .error (.http .unauthorized (.text "User account is disabled"))
    | _ => .error .unhandled

/-! ### Answers -/

/-- An answer with a lead. -/
def leadAnswer (status : ℕ) (l : Lead) : Response := ⟨status, .lead (.ofLead l)⟩

/-- An answer with a service, which has to be readable. -/
def serviceAnswer (p : Platform) (status : ℕ) (s : ServiceWithMilestones) : Response :=
  if s.service.readable p then ⟨status, .service s⟩ else Fault.validation.response

/-- An answer with a page of services. -/
def servicesAnswer (p : Platform) (items : List ServiceWithMilestones) (total : ℕ)
    (limit offset : ℤ) : Response :=
  if items.all fun s ↦ s.service.readable p then ⟨200, .services ⟨items, total, limit, offset⟩⟩
  else Fault.validation.response

/-- An answer with a billing profile, which has to be readable. -/
def billingProfileAnswer (p : Platform) (status : ℕ) (b : BillingProfile) : Response :=
  if b.readable p then ⟨status, .billingProfile b⟩ else Fault.validation.response

/-- An answer with the detail of a client. -/
def clientDetailAnswer (p : Platform) (d : ClientService.Detail) : Response :=
  if d.billingProfiles.all (BillingProfile.readable p) then
    ⟨200, .clientDetail {
      client := d.client, contacts := d.contacts, services := d.services.map ServiceStub.ofService
      billingProfiles := d.billingProfiles, recentActivity := d.recentActivity }⟩
  else Fault.validation.response

/-- `except LeadNotFoundError: raise HTTPException(404)`. -/
def leadNotFoundHttp : Fault → Fault
  | .leadNotFound _ => .http .notFound (.text "Lead not found")
  | f => f

/-- The `except` clauses of the status endpoint. -/
def leadStatusHttp : Fault → Fault
  | .leadNotFound _ => .http .notFound (.text "Lead not found")
  | .invalidTransition source target allowed =>
    .http .conflict (.invalidTransition source target (sorted allowed))
  | f => f

/-- The owner must be an existing user before a lead is assigned. -/
def assertOwnerExists (ownerId : UUID) : Tx Unit := do
  let owner ← .query fun db ↦ db.users.find? ownerId
  let _ ← .demand owner (.http .notFound .ownerUserNotFound)

/-- `login`: any account with the right password, if it is active. -/
def login (p : Platform) (email password : String) : Tx Response := do
  Session.bindText (some email)
  let rows ← .query fun db ↦ db.users.rows.filter fun u ↦ decide (u.email.val = email)
  let user ← Session.scalarOneOrNone rows
  let refused : Fault := .http .unauthorized (.text "Invalid email or password")
  let user ← .demand user refused
  let verified ← .demand (p.bcryptVerify password user.passwordHash.val) .unhandled
  .require verified refused
  .require user.isActive (.http .forbidden (.text "User account is disabled"))
  return ⟨200, .token user.email user.role⟩

/-- The portal's own client. -/
def getMyClient (clientId : UUID) : Tx Response := do
  let client ← .query fun db ↦ db.clients.find? clientId
  let client ← .demand client (.http .notFound (.text "Client not found"))
  return ⟨200, .client client⟩

/-- The comercial role may not set a status. -/
def assertMaySetStatus (user : User) (body : TicketUpdate) : Tx Unit :=
  .require (!decide (user.role = .comercial ∧ body.status.toOption.isSome))
    (.http .forbidden (.text "Comercial role cannot change ticket status"))

/-! ### The routing table -/

/-- The endpoint of a request. -/
def route (p : Platform) (s : Settings) (env : Env) : Request → Handler
  -- Leads
  | .createLead inbound body =>
    .anonymous (env.retryAfter.map fun r ↦ .http .tooManyRequests (.rateLimitExceeded r)) do
      let rawPayload := PayloadSanitizer.buildRawPayload p s env.now inbound body
      return leadAnswer 201 (← LeadService.create env body rawPayload)
  | .listLeads query => .currentUser fun user ↦ do
    let f ← .liftExcept query.bind
    let (rows, total) ← LeadService.listForUser user f
    return ⟨200, .leads ⟨rows.map LeadRead.ofLead, total, f.limit, f.offset⟩⟩
  | .getLead leadId => .currentUser fun user ↦ do
    return leadAnswer 200 (← LeadService.getForUser user leadId)
  | .updateLead leadId body => .currentUser fun user ↦ do
    return leadAnswer 200 (← (LeadService.update env user leadId body).mapError leadNotFoundHttp)
  | .updateLeadStatus leadId status => .currentUser fun user ↦ do
    return leadAnswer 200
      (← (LeadService.updateStatus env user leadId status).mapError leadStatusHttp)
  | .assignLead leadId ownerId => .requireRole [.admin] fun _ ↦ do
    assertOwnerExists ownerId
    return leadAnswer 200
      (← (LeadService.assignOwner env leadId ownerId).mapError leadNotFoundHttp)
  | .convertLead leadId body => .requireRole [.admin, .comercial] fun user ↦ do
    return ⟨201, .client (← ClientService.convertFromLead env leadId body user.id)⟩
  -- Clients
  | .createClient body => .requireRole [.admin, .comercial] fun user ↦ do
    return ⟨201, .client (← ClientService.createClient env body user.id)⟩
  | .listClients query => .currentUser fun user ↦ do
    let f ← .liftExcept (query.bind p)
    let (rows, total) ← ClientService.listClients p user f
    return ⟨200, .clients ⟨rows, total, f.limit, f.offset⟩⟩
  | .getClient clientId => .currentUser fun user ↦ do
    return clientDetailAnswer p (← ClientService.getClientDetail user clientId)
  | .updateClient clientId body => .requireRole [.admin, .comercial] fun user ↦ do
    return ⟨200, .client (← ClientService.updateClient env user clientId body)⟩
  | .changeClientStage clientId stage => .requireRole [.admin, .comercial] fun user ↦ do
    return ⟨200, .client (← ClientService.changeStage env user clientId stage false)⟩
  -- Contacts
  | .listContacts clientId => .currentUser fun _ ↦ do
    return ⟨200, .contacts (← ContactService.listContacts p clientId)⟩
  | .createContact clientId body => .requireRole [.admin, .comercial] fun user ↦ do
    return ⟨201, .contact (← ContactService.createContact env clientId body user.id)⟩
  | .updateContact clientId contactId body => .requireRole [.admin, .comercial] fun user ↦ do
    return ⟨200, .contact (← ContactService.updateContact env clientId contactId body user.id)⟩
  | .deleteContact clientId contactId => .requireRole [.admin] fun _ ↦ do
    ContactService.deleteContact clientId contactId
    return ⟨204, .noContent⟩
  -- Services
  | .listServices query => .currentUser fun user ↦ do
    let f ← .liftExcept (query.bind p)
    let (rows, total) ← ServiceService.listServices user f
    return servicesAnswer p rows total f.limit f.offset
  | .getService serviceId => .currentUser fun user ↦ do
    return serviceAnswer p 200 (← ServiceService.getServiceDetail user serviceId)
  | .createService clientId body => .requireRole [.admin, .comercial] fun user ↦ do
    return serviceAnswer p 201
      (← ServiceService.createService env { body with clientId := clientId } user.id)
  | .updateService serviceId body => .currentUser fun user ↦ do
    return serviceAnswer p 200 (← ServiceService.updateService env user serviceId body)
  | .changeServiceState serviceId state => .currentUser fun user ↦ do
    return serviceAnswer p 200 (← ServiceService.changeState env user serviceId state)
  -- Milestones
  | .listMilestones serviceId => .currentUser fun _ ↦ do
    return ⟨200, .milestones (← MilestoneService.listMilestones serviceId)⟩
  | .createMilestone serviceId body => .currentUser fun _ ↦ do
    return ⟨201, .milestone (← MilestoneService.createUnderService env serviceId body)⟩
  | .updateMilestone serviceId n body => .currentUser fun user ↦ do
    return ⟨200, .milestone (← MilestoneService.update env serviceId n body user.id)⟩
  | .deleteMilestone serviceId n => .requireRole [.admin] fun _ ↦ do
    MilestoneService.delete serviceId n
    return ⟨204, .noContent⟩
  -- Billing profiles
  | .createBillingProfile clientId body => .requireRole [.admin, .comercial] fun _ ↦ do
    return billingProfileAnswer p 201 (← BillingProfileService.createForClient env clientId body)
  | .listBillingProfiles clientId => .requireRole [.admin, .comercial] fun _ ↦ do
    let profiles ← BillingProfileService.listForClient clientId
    return if profiles.all (BillingProfile.readable p) then ⟨200, .billingProfiles profiles⟩
      else Fault.validation.response
  | .getBillingProfile profileId => .requireRole [.admin, .comercial] fun _ ↦ do
    return billingProfileAnswer p 200 (← BillingProfileService.get profileId)
  | .updateBillingProfile profileId body => .requireRole [.admin, .comercial] fun _ ↦ do
    return billingProfileAnswer p 200 (← BillingProfileService.update env profileId body)
  | .deleteBillingProfile profileId => .requireRole [.admin, .comercial] fun _ ↦ do
    BillingProfileService.delete env profileId
    return ⟨204, .noContent⟩
  | .setDefaultBillingProfile profileId => .requireRole [.admin, .comercial] fun _ ↦ do
    return billingProfileAnswer p 200 (← BillingProfileService.setDefault env profileId)
  -- Client portal
  | .getMyClient => .scopeToClient fun _ clientId ↦ getMyClient clientId
  | .listMyServices limit offset state type => .scopeToClient fun _ clientId ↦ do
    let (rows, total) ← ServiceService.listForClient (some clientId) limit offset state type
    return servicesAnswer p rows total limit offset
  | .getMyService serviceId => .scopeToClient fun _ clientId ↦ do
    return serviceAnswer p 200 (← ServiceService.getForClient serviceId (some clientId))
  | .getMyServiceDiagnostic serviceId => .scopeToClient fun _ clientId ↦ do
    let diagnostic ← DiagnosticService.getDiagnostic p serviceId (some clientId)
    let diagnostic ← .demand diagnostic
      (.http .notFound (.text "No diagnostic data available for this service"))
    return ⟨200, .diagnostic diagnostic⟩
  | .listMyContacts => .scopeToClient fun _ clientId ↦ do
    return ⟨200, .contacts (← ContactService.listContacts p clientId)⟩
  | .listMyActivity limit offset => .scopeToClient fun _ clientId ↦ do
    let (items, total) ← ActivityLogService.listActivity limit offset (some clientId)
    return ⟨200, .activity ⟨items, total, limit, offset⟩⟩
  | .listMyMessages limit offset since => .scopeToClient fun _ clientId ↦ do
    let (rows, total) ← MessageService.listMessages clientId limit offset since
    return ⟨200, .messages ⟨rows, total, limit, offset⟩⟩
  | .sendMyMessage body => .scopeToClient fun user clientId ↦ do
    return ⟨201, .message (← MessageService.createMessage env body clientId user.id)⟩
  | .listMyTickets limit offset status priority => .scopeToClient fun _ clientId ↦ do
    let (rows, total) ← TicketService.listTickets (some clientId) limit offset status priority
    return ⟨200, .tickets ⟨rows, total, limit, offset⟩⟩
  | .createMyTicket body => .scopeToClient fun user clientId ↦ do
    return ⟨201, .ticket (← TicketService.createTicket env body clientId user.id)⟩
  | .updateMyTicket ticketId body => .scopeToClient fun user clientId ↦ do
    return ⟨200, .ticket (← TicketService.updateTicket env ticketId body (some clientId) user.id)⟩
  -- Internal messages, tickets and activity
  | .listClientMessages clientId page => .requireRole [.admin, .consultor, .comercial] fun _ ↦ do
    let limit ← .liftExcept page.limit?
    let offset ← .liftExcept page.offset?
    let (rows, total) ← MessageService.listMessages clientId limit offset none
    return ⟨200, .messages ⟨rows, total, limit, offset⟩⟩
  | .createClientMessage clientId body => .requireRole [.admin, .consultor] fun user ↦ do
    return ⟨201, .message (← MessageService.createMessage env body clientId user.id)⟩
  | .listClientTickets clientId status priority page =>
    .requireRole [.admin, .consultor, .comercial] fun _ ↦ do
      let limit ← .liftExcept page.limit?
      let offset ← .liftExcept page.offset?
      let (rows, total) ← TicketService.listTickets (some clientId) limit offset status priority
      return ⟨200, .tickets ⟨rows, total, limit, offset⟩⟩
  | .getTicket ticketId => .requireRole [.admin, .consultor, .comercial] fun _ ↦ do
    return ⟨200, .ticket (← TicketService.getTicket ticketId none)⟩
  | .updateTicketInternal ticketId body =>
    .requireRole [.admin, .consultor, .comercial] fun user ↦ do
      assertMaySetStatus user body
      return ⟨200, .ticket (← TicketService.updateTicketInternal env ticketId body user.id)⟩
  | .getActivity clientId page => .requireRole [.admin] fun _ ↦ do
    let limit ← .liftExcept page.limit?
    let offset ← .liftExcept page.offset?
    let clientId ← .liftExcept (activityClientId p clientId)
    let (items, total) ← ActivityLogService.listActivity limit offset clientId
    return ⟨200, .activity ⟨items, total, limit, offset⟩⟩
  -- Authentication and health
  | .login email password => .anonymous none (login p email password)
  | .logout => .currentUser fun _ ↦ return ⟨200, .loggedOut⟩
  | .authMe => .currentUser fun user ↦ return ⟨200, .currentUser (.ofUser user)⟩
  | .health => .anonymous none (return ⟨200, .health⟩)
  -- `settings` is not defined where this handler looks for it.
  | .root => .anonymous none (.raise .unhandled)

/-! ### One request -/

/-- What reaches the application. -/
inductive Call where
  /-- A request whose parameters and body parse. -/
  | bound (r : Request)
  /-- A request for the endpoint of `r` whose parameters or body do not. -/
  | malformed (r : Request)
  /-- A request for some endpoint whose body is not JSON. -/
  | unreadable
  /-- A path or method without an endpoint. -/
  | unrouted
deriving DecidableEq

/-- The endpoint is mounted. -/
def mounted (s : Settings) (r : Request) : Bool := s.clientPortalEnabled || !r.needsPortal

/-- Run a transaction and answer. -/
def respond (m : Tx Response) (db : Db) : Response × Db :=
  match m.transact db with
  | (.ok r, db') => (r, db')
  | (.error f, db') => (f.response, db')

/-- A request whose schema check fails is answered by the guard, or with 422. -/
def reject (h : Handler) (user : Except Fault User) : Response :=
  match h.guard user with
  | .ok _ => ⟨422, .unprocessable⟩
  | .error f => f.response

/-- **One request**, from the address that its token carries to the answer and the new state. -/
def handle (p : Platform) (s : Settings) (env : Env) (db : Db) (sub : Except Fault String) :
    Call → Response × Db
  | .unreadable => (⟨422, .unprocessable⟩, db)
  | .unrouted => (⟨404, .detail "Not Found"⟩, db)
  | .malformed r =>
    if mounted s r then (reject (route p s env r) (currentUser db sub), db)
    else (⟨404, .detail "Not Found"⟩, db)
  | .bound r =>
    if mounted s r then
      match r.validate? p with
      | none => (reject (route p s env r) (currentUser db sub), db)
      | some r' =>
        match (route p s env r').guard (currentUser db sub) with
        | .ok m => respond m db
        | .error f => (f.response, db)
    else (⟨404, .detail "Not Found"⟩, db)

end ZanovixCrm
