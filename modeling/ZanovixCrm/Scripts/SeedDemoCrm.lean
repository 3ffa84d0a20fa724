import ZanovixCrm.Scripts.Session

/-!
# Seeding the core domain

The script for the demo clients with their contacts, services and milestones, the log
entries for each of them, and the account with which the portal can be tried. A client is told apart
by name and sector, a contact by its address, a service by its title, a milestone by its number.
What is there is left alone, also if it has been edited since; only the account is linked again.

A new client or service is flushed at once, since its children refer to it, and with it everything
that has been kept back. The children and the log wait for the next flush or the commit.
-/

namespace ZanovixCrm.SeedDemoCrm

/-! ### The data -/

structure ContactSpec where
  name : Str 200
  role : Str 100
  email : Str 320
  phone : Str 50
  isPrimary : Bool

structure MilestoneSpec where
  title : Str 300
  dueOffset : ℤ
  completedOffset : Option ℤ

/-- The times are numbers of days before the module was loaded. -/
structure ServiceSpec where
  type : ServiceType
  title : Str 200
  state : ServiceState
  progressPct : PgInt 32
  setupPriceCents : PgInt 64
  monthlyCents : PgInt 64
  score : Option (PgInt 32)
  startedDaysAgo : ℤ
  endedDaysAgo : Option ℤ
  milestones : List MilestoneSpec
  diagnosticJson : Option Json

/-- The time is a number of days before the module was loaded. -/
structure ClientSpec where
  name : Str 200
  sector : Str 100
  size : Str 50
  region : Str 100
  stage : ClientStage
  mrrCents : PgInt 64
  lifetimeValueCents : PgInt 64
  enteredDaysAgo : ℤ
  ownerEmail : Option (Str 255)
  contacts : List ContactSpec
  services : List ServiceSpec

/-- A literal as a value of an integer column. -/
def int {bits : ℕ} (x : ℤ) (h : (PgInt.store? bits x).isSome = true := by decide) : PgInt bits :=
  (PgInt.store? bits x).get h

/-- The assessment of the first client. -/
def readinessJson : Json :=
  ⟨"\x7b\"plan\": [" ++
    "\x7b\"body\": \"Modelo de clasificación inicial sobre histórico anonimizado. ROI claro a 6 " ++
    "meses.\", \"title\": \"Triaje automático de pacientes\", \"status\": \"go\"\x7d, " ++
    "\x7b\"body\": \"Reduce huecos en agenda; integrable con el sistema actual.\", " ++
    "\"title\": \"Predicción de no-show\", \"status\": \"go\"\x7d, " ++
    "\x7b\"body\": \"Esperar a tener cumplimiento HIPAA-ES revisado.\", " ++
    "\"title\": \"Asistente clínico generativo\", \"status\": \"wait\"\x7d, " ++
    "\x7b\"body\": \"Coste de despliegue supera el volumen de imágenes mensual.\", " ++
    "\"title\": \"Reconocimiento radiográfico\", \"status\": \"skip\"\x7d], " ++
    "\"summary\": \"La clínica tiene una base de datos clínica madura y procesos bien " ++
    "definidos; el techo está en formación del equipo y gobierno de IA.\", " ++
    "\"dimensions\": \x7b\"data\": 82, \"team\": 71, \"processes\": 75, \"compliance\": 88, " ++
    "\"leadership\": 72, \"infrastructure\": 80\x7d\x7d"⟩

/-- `CLIENTS`. -/
def clients : List ClientSpec :=
  [{ name := .lit "Clínica Dental Ramírez", sector := .lit "Salud", size := .lit "PYME"
     region := .lit "Málaga", stage := .active, mrrCents := int 280000
     lifetimeValueCents := int 850000, enteredDaysAgo := 120
     ownerEmail := some (.lit "consultor@zanovix.com")
     contacts :=
       [⟨.lit "Lucía Ramírez", .lit "CEO", .lit "lucia@clinicaramirez.es", .lit "+34 612 000 001",
          true⟩,
        ⟨.lit "Pablo Mena", .lit "Director clínico", .lit "pablo@clinicaramirez.es",
          .lit "+34 612 000 002", false⟩]
     services :=
       [{ type := .assessment, title := .lit "AI Readiness Assessment 2026", state := .completed
          progressPct := int 100, setupPriceCents := int 350000, monthlyCents := int 0
          score := some (int 78), startedDaysAgo := 110, endedDaysAgo := some 80
          milestones :=
            [⟨.lit "Kick-off + entrevistas", -100, some (-98)⟩,
             ⟨.lit "Análisis de procesos", -90, some (-88)⟩,
             ⟨.lit "Informe + sesión ejecutiva", -80, some (-80)⟩]
          diagnosticJson := some readinessJson },
        { type := .development, title := .lit "Triaje IA fase 1", state := .running
          progressPct := int 45, setupPriceCents := int 1200000, monthlyCents := int 280000
          score := none, startedDaysAgo := 45, endedDaysAgo := none
          milestones :=
            [⟨.lit "Setup infraestructura", -35, some (-30)⟩,
             ⟨.lit "MVP modelo base", -15, some (-12)⟩,
             ⟨.lit "Integración con ficha clínica", 10, none⟩,
             ⟨.lit "Piloto en consulta", 30, none⟩,
             ⟨.lit "Validación clínica + handover", 60, none⟩]
          diagnosticJson := none }] },
   { name := .lit "Iberia Logística", sector := .lit "Logística", size := .lit "Mediana"
     region := .lit "Madrid", stage := .active, mrrCents := int 450000
     lifetimeValueCents := int 1350000, enteredDaysAgo := 80
     ownerEmail := some (.lit "admin@zanovix.com")
     contacts :=
       [⟨.lit "Marcos Ibáñez", .lit "COO", .lit "marcos@iberialog.es", .lit "+34 611 200 010",
          true⟩]
     services :=
       [{ type := .development, title := .lit "Predicción ETA flota", state := .review
          progressPct := int 80, setupPriceCents := int 2400000, monthlyCents := int 450000
          score := none, startedDaysAgo := 70, endedDaysAgo := none
          milestones :=
            [⟨.lit "Ingesta histórico GPS", -60, some (-55)⟩,
             ⟨.lit "Modelo baseline", -45, some (-40)⟩,
             ⟨.lit "Modelo + features clima", -20, some (-18)⟩,
             ⟨.lit "Validación A/B en producción", 5, none⟩]
          diagnosticJson := none }] },
   { name := .lit "Café del Sur", sector := .lit "Hostelería", size := .lit "Micro"
     region := .lit "Sevilla", stage := .proposalSent, mrrCents := int 0
     lifetimeValueCents := int 0, enteredDaysAgo := 15
     ownerEmail := some (.lit "comercial@zanovix.com")
     contacts :=
       [⟨.lit "Andrea Soto", .lit "Fundadora", .lit "andrea@cafedelsur.com",
          .lit "+34 619 030 040", true⟩]
     services := [] },
   { name := .lit "Bufete Aragón & Asociados", sector := .lit "Legal", size := .lit "Mediana"
     region := .lit "Zaragoza", stage := .discoveryDone, mrrCents := int 0
     lifetimeValueCents := int 0, enteredDaysAgo := 8
     ownerEmail := some (.lit "consultor@zanovix.com")
     contacts :=
       [⟨.lit "Eva Aragón", .lit "Socia directora", .lit "eva@aragon-abogados.es",
          .lit "+34 615 700 200", true⟩,
        ⟨.lit "David Trillo", .lit "IT lead", .lit "david@aragon-abogados.es",
          .lit "+34 615 700 201", false⟩]
     services := [] },
   { name := .lit "AgroVeg Levante", sector := .lit "Agroalimentario", size := .lit "Grande"
     region := .lit "Valencia", stage := .discoveryScheduled, mrrCents := int 0
     lifetimeValueCents := int 0, enteredDaysAgo := 3
     ownerEmail := some (.lit "admin@zanovix.com")
     contacts :=
       [⟨.lit "Joan Esteve", .lit "CTO", .lit "joan@agroveg.es", .lit "+34 622 410 410", true⟩]
     services := [] },
   { name := .lit "Nórdico Studio", sector := .lit "Diseño", size := .lit "Micro"
     region := .lit "Bilbao", stage := .lost, mrrCents := int 0
     lifetimeValueCents := int 0, enteredDaysAgo := 60
     ownerEmail := some (.lit "comercial@zanovix.com")
     contacts :=
       [⟨.lit "Iker Mendía", .lit "Fundador", .lit "iker@nordico.studio", .lit "+34 688 900 900",
          true⟩]
     services := [] }]

/-! ### What the rows are looked up by -/

def clientKey (c : Client) : Str 200 × Option (Str 100) := (c.name, c.sector)

def ClientSpec.key (spec : ClientSpec) : Str 200 × Option (Str 100) := (spec.name, some spec.sector)

def contactKey (c : Contact) : UUID × Option (Str 320) := (c.clientId, c.email)

def serviceKey (s : Service) : UUID × Str 200 := (s.clientId, s.title)

def milestoneKey (m : Milestone) : UUID × ℤ := (m.serviceId, m.n.val)

/-! ### The script -/

/-- The number of microseconds of a day. -/
def day : ℤ := 24 * 60 * 60 * 1000000

/-- `_days_ago`. -/
def daysAgo (e : ScriptEnv) (n : ℤ) : Time := e.imported - n * day

/-- What the session keeps back. -/
structure UnitOfWork where
  clients : List (Except DbError Client)
  services : List (Except DbError Service)
  contacts : List (Except DbError Contact)
  milestones : List (Except DbError Milestone)
  activity : List (Except DbError ActivityLog)

namespace UnitOfWork

def empty : UnitOfWork := ⟨[], [], [], [], []⟩

/-- `session.flush()`. -/
def flush (u : UnitOfWork) : Tx Unit := do
  Session.addAll u.clients
  Session.addAll u.services
  Session.addAll u.contacts
  Session.addAll u.milestones
  Session.addAll u.activity

end UnitOfWork

/-- How far the script has come. -/
structure Progress where
  /-- The number of identifiers drawn. -/
  drawn : ℕ
  pending : UnitOfWork
  created : ℕ
  skipped : ℕ
  firstActive : Option Client

/-- An entry of the log. -/
def logRow (id clientId : UUID) (kind : ActivityKind) (actor : Option UUID) (body : String)
    (createdAt : Time) : Except DbError ActivityLog := do
  let body : Text ← encode (some body)
  return { id, createdAt, clientId, kind, actorUserId := actor, body }

/-- `session.add` of a log entry. -/
def Progress.log (e : ScriptEnv) (st : Progress) (clientId : UUID) (kind : ActivityKind)
    (actor : Option UUID) (body : String) (createdAt : Time) : Progress :=
  { st with
    drawn := st.drawn + 1
    pending := { st.pending with
      activity := st.pending.activity ++
        [logRow (e.env.uuid st.drawn) clientId kind actor body createdAt] } }

/-- `session.flush()`. -/
def Progress.flush (st : Progress) : Tx Progress := do
  st.pending.flush
  return { st with pending := .empty }

/-- `_resolve_owner`. -/
def resolveOwner (ownerEmail : Option (Str 255)) : Tx (Option UUID) :=
  match ownerEmail.filter fun email ↦ decide (email.val ≠ "") with
  | none => pure none
  | some email => do
    let user ← Session.existing fun u : User ↦ decide (u.email = email)
    return user.map User.id

/-- The new client. -/
def clientRow (e : ScriptEnv) (spec : ClientSpec) (id : UUID) (ownerId : Option UUID) : Client where
  id := id
  createdAt := e.env.now
  updatedAt := e.env.now
  name := spec.name
  sector := some spec.sector
  size := some spec.size
  region := some spec.region
  ownerId := ownerId
  stage := spec.stage
  enteredAt := daysAgo e spec.enteredDaysAgo
  mrrCents := some spec.mrrCents
  lifetimeValueCents := some spec.lifetimeValueCents

/-- The client, which is created if it is not there. -/
def clientFor (e : ScriptEnv) (st : Progress) (spec : ClientSpec) : Tx (Client × Progress) := do
  match ← Session.existing fun c : Client ↦ decide (clientKey c = spec.key) with
  | some client => return (client, { st with skipped := st.skipped + 1 })
  | none =>
    let ownerId ← resolveOwner spec.ownerEmail
    let client := clientRow e spec (e.env.uuid st.drawn) ownerId
    let st ← Progress.flush { st with
      drawn := st.drawn + 1
      pending := { st.pending with clients := st.pending.clients ++ [.ok client] } }
    let st : Progress := { st with created := st.created + 1 }
    return (client, st.log e client.id .stageChange ownerId
      ("Cliente creado en etapa " ++ TextEnum.text client.stage ++ ".") client.enteredAt)

/-- The new contact. -/
def contactRow (e : ScriptEnv) (c : ContactSpec) (id clientId : UUID) : Contact where
  id := id
  createdAt := e.env.now
  updatedAt := e.env.now
  clientId := clientId
  name := c.name
  role := some c.role
  email := some c.email
  phone := some c.phone
  isPrimary := c.isPrimary

/-- One contact. -/
def seedContact (e : ScriptEnv) (spec : ClientSpec) (client : Client) (st : Progress)
    (c : ContactSpec) : Tx Progress := do
  match ← Session.existing fun x : Contact ↦
      decide (contactKey x = (client.id, some c.email)) with
  | some _ => return st
  | none =>
    let row := contactRow e c (e.env.uuid st.drawn) client.id
    let st : Progress := { st with
      drawn := st.drawn + 1
      pending := { st.pending with contacts := st.pending.contacts ++ [.ok row] } }
    return st.log e client.id .contactAdded client.ownerId
      ("Contacto añadido: " ++ c.name.val ++ " (" ++ c.role.val ++ ").")
      (daysAgo e spec.enteredDaysAgo + 2 * 60 * 60 * 1000000)

/-- The new milestone. -/
def milestoneRow (e : ScriptEnv) (ms : MilestoneSpec) (n : ℕ) (id serviceId : UUID) :
    Except DbError Milestone := do
  let n : PgInt 32 ← encode (some (n : ℤ))
  let completedAt : Option Timestamptz ←
    encode (ms.completedOffset.map fun days ↦ .aware (daysAgo e (-days)))
  return {
    id, serviceId, n, title := ms.title, dueDate := some (e.today + ms.dueOffset), completedAt }

/-- One milestone with its number. -/
def seedMilestone (e : ScriptEnv) (client : Client) (service : Service) (st : Progress)
    (ms : MilestoneSpec × ℕ) : Tx Progress := do
  match ← Session.existing fun m : Milestone ↦
      decide (milestoneKey m = (service.id, (ms.2 : ℤ))) with
  | some _ => return st
  | none =>
    let row := milestoneRow e ms.1 ms.2 (e.env.uuid st.drawn) service.id
    let st : Progress := { st with
      drawn := st.drawn + 1
      pending := { st.pending with milestones := st.pending.milestones ++ [row] } }
    match ms.1.completedOffset with
    | some days =>
      return st.log e client.id .milestoneCompleted client.ownerId
        ("Hito completado: " ++ ms.1.title.val ++ ".") (daysAgo e (-days))
    | none => return st

/-- The new service. The script computes its days when it is loaded, and stops there if `datetime`
does not know one of them. -/
def serviceRow (e : ScriptEnv) (svc : ServiceSpec) (client : Client) (id : UUID) :
    Except DbError Service := do
  let startedAt : Option Timestamptz ← encode (some (.aware (daysAgo e svc.startedDaysAgo)))
  let endedAt : Option Timestamptz ←
    encode (svc.endedDaysAgo.map fun days ↦ .aware (daysAgo e days))
  return {
    id, createdAt := e.env.now, updatedAt := e.env.now, clientId := client.id
    ownerId := client.ownerId, type := svc.type, title := svc.title, state := svc.state
    progressPct := some svc.progressPct, startedAt, endedAt
    setupPriceCents := some svc.setupPriceCents, monthlyCents := some svc.monthlyCents
    scoreInt := svc.score, diagnosticJson := svc.diagnosticJson }

/-- The service, which is created if it is not there. -/
def serviceFor (e : ScriptEnv) (client : Client) (st : Progress) (svc : ServiceSpec) :
    Tx (Service × Progress) := do
  match ← Session.existing fun s : Service ↦ decide (serviceKey s = (client.id, svc.title)) with
  | some service => return (service, st)
  | none =>
    let service ← Session.column (serviceRow e svc client (e.env.uuid st.drawn))
    let st ← Progress.flush { st with
      drawn := st.drawn + 1
      pending := { st.pending with services := st.pending.services ++ [.ok service] } }
    return (service, st.log e client.id .serviceStarted client.ownerId
      ("Servicio iniciado: " ++ service.title.val ++ ".") (daysAgo e svc.startedDaysAgo))

/-- One service with its milestones, which are numbered from 1. -/
def seedService (e : ScriptEnv) (client : Client) (st : Progress) (svc : ServiceSpec) :
    Tx Progress := do
  let (service, st) ← serviceFor e client st svc
  (svc.milestones.zipIdx 1).foldlM (seedMilestone e client service) st

/-- One client with everything that belongs to it. -/
def seedClient (e : ScriptEnv) (st : Progress) (spec : ClientSpec) : Tx Progress := do
  let (client, st) ← clientFor e st spec
  let st ← spec.contacts.foldlM (seedContact e spec client) st
  let st ← spec.services.foldlM (seedService e client) st
  return { st with
    firstActive := if client.stage = .active then st.firstActive.or (some client)
      else st.firstActive }

/-- The address of the demo account. -/
def demoEmail : Str 255 := .lit "demo.client@example.com"

/-- The new account, with the hash of its password. -/
def userRow (now : Time) (id clientId : UUID) (hash : String) : Except DbError User := do
  let passwordHash : Str 255 ← encode (some hash)
  return {
    id, createdAt := now, updatedAt := now, email := demoEmail, passwordHash, role := .clientUser
    displayName := some (.lit "Demo cliente · Ramírez"), isActive := true
    clientId := some clientId }

/-- The `UPDATE` that links an account to a client; as every `UPDATE` it dates the row. -/
def link (now : Time) (clientId : UUID) : Assign User :=
  ⟨fun u ↦ { u with clientId := some clientId, updatedAt := now }, fun _ ↦ rfl⟩

/-- `_seed_client_user_for`: what the commit is to write of the account. -/
def seedClientUserFor (e : ScriptEnv) (drawn : ℕ) (client : Client) : Tx (Tx Unit) := do
  let user ← Session.existing fun u : User ↦ decide (u.email = demoEmail)
  let rawPassword := (e.environ "SEED_CLIENT_USER_PASSWORD").getD "dev-changeme-client"
  match user with
  | some user =>
    return if user.clientId ≠ some client.id then
        .exec (.users (.update user.id (link e.env.now client.id)))
      else pure ()
  | none =>
    let hash ← .demand (e.bcryptHash drawn rawPassword) .unhandled
    return Session.add (userRow e.env.now (e.env.uuid drawn) client.id hash)

/-- The account is wired to the first active client that was seen, if there was one. -/
def wireAccount (e : ScriptEnv) (st : Progress) : Tx (Tx Unit) :=
  match st.firstActive with
  | some client => seedClientUserFor e st.drawn client
  | none => pure (pure ())

/-- The script; it prints how many clients it has created and skipped. -/
def main (e : ScriptEnv) : Tx (ℕ × ℕ) := do
  let st ← clients.foldlM (seedClient e) ⟨0, .empty, 0, 0, none⟩
  let account ← wireAccount e st
  st.pending.flush
  account
  return (st.created, st.skipped)

end ZanovixCrm.SeedDemoCrm
