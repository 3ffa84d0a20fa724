import ZanovixCrm.AdminPanel.Dashboard
import ZanovixCrm.Guarantees.Pagination

/-!
# The figures of the dashboard

The dashboard computes its figures from one page of clients and one page of services, of at most 200
rows each. It warns when the page of clients is not complete, and shows a banner instead of the
figures when a request has failed. Nothing looks at the total of the services, so a service beyond
the page is missing from the pipeline value without notice; and a failure whose message is empty
counts as none.

`Covers` says when the pages are enough, or the dashboard says that they are not: that is when the
figures are exact or flagged (`exactOrFlagged_iff_covers`), whatever the amounts are. Where the sums
are shown, the rounding of JavaScript is a part of it: amounts that it does not add up exactly make
up for what the page leaves out, or spoil what it has. In the ordinary range there is no such error,
and up to 200 services the answers are enough (`covers_of_complete`).
-/

namespace ZanovixCrm

/-- What the dashboard asks for: the newest 200 clients. -/
def dashboardClients : ClientFilters :=
  { stage := none, ownerId := none, sector := none, q := none, limit := 200, offset := 0 }

/-- The newest 200 services. -/
def dashboardServices : ServiceFilters :=
  { state := none, clientId := none, ownerId := none, type := none, limit := 200, offset := 0 }

/-- How the three requests of the dashboard have ended: each has failed, or has got what the server
may answer. -/
structure DashboardLoad (p : Platform) (user : User) (db : Db) where
  clients : PromiseSettledResult (Page Client)
  services : PromiseSettledResult (Page Service)
  activity : PromiseSettledResult (Page ActivityLog)
  clients_answers : ∀ page, clients = .fulfilled page →
    (Listing.clients p user dashboardClients).Answers db 200 0 (.ok (page.items, page.total))
  services_answers : ∀ page, services = .fulfilled page →
    (Listing.services user dashboardServices).Answers db 200 0 (.ok (page.items, page.total))
  activity_answers : ∀ page, activity = .fulfilled page →
    (Listing.activity none).Answers db 30 0 (.ok (page.items, page.total))

/-- The dashboard that results. -/
def DashboardLoad.dashboard {p : Platform} {user : User} {db : Db}
    (load : DashboardLoad p user db) : Dashboard :=
  Dashboard.mounted.fetchAll load.clients load.services load.activity

/-- The clients that are visible to the user. -/
def visibleClients (user : User) (db : Db) : List Client :=
  db.clients.rows.filter fun c ↦ user.sees c.ownerId

/-- The services that are visible to the user. -/
def visibleServices (user : User) (db : Db) : List Service :=
  db.services.rows.filter user.seesService

/-- **The aggregates** over clients and services. -/
def Figures.total (clients : List Client) (services : List Service) : Figures where
  mrr := some (mrrCents clients).sum
  pipelineValue := some (setupPriceCents services).sum
  dealsInMotion := dealsCount clients
  funnel := funnelCounts clients

/-- **The figures are exact, or flagged** by the banner or by the warning. -/
def Dashboard.ExactOrFlagged (user : User) (db : Db) (d : Dashboard) : Prop :=
  d.isDegraded = false → d.warned = false →
    d.figures = .total (visibleClients user db) (visibleServices user db)

/-- JavaScript adds up the amounts without rounding. -/
structure Representable (user : User) (db : Db) : Prop where
  mrr : JsNumber.magnitude (mrrCents (visibleClients user db)) ≤ JsNumber.maxExact
  pipelineValue :
    JsNumber.magnitude (setupPriceCents (visibleServices user db)) ≤ JsNumber.maxExact

/-- The services that are visible to the user but not on the page. -/
def omittedServices (user : User) (db : Db) (page : Page Service) : List Service :=
  (visibleServices user db).filter fun sv ↦ !page.items.contains sv

/-- **The answers are enough, or the dashboard says that they are not.** -/
def DashboardLoad.Covers {p : Platform} {user : User} {db : Db} (load : DashboardLoad p user db) :
    Prop :=
  match load.clients, load.services with
  -- There is a warning, or no more in the pipeline than what is on the page, up to rounding.
  | .fulfilled page, .fulfilled page' =>
    200 < (visibleClients user db).length ∨
      (JsNumber.roundingError (mrrCents page.items) = 0 ∧
        JsNumber.roundingError (setupPriceCents page'.items) =
          (setupPriceCents (omittedServices user db page')).sum)
  | .fulfilled _, .rejected _ => True
  -- There is a banner, or the zeros that are shown are right.
  | .rejected message, .fulfilled page' => message = some "" →
    (∀ c ∈ visibleClients user db, c.stage = .lost) ∧
      JsNumber.roundingError (setupPriceCents page'.items) =
        (setupPriceCents (omittedServices user db page')).sum
  | .rejected message, .rejected _ => message ≠ some ""

section Pages

variable {p : Platform} {user : User} {db : Db}

theorem rows_dashboardClients (p : Platform) (user : User) (db : Db) :
    (Listing.clients p user dashboardClients).rows db = visibleClients user db := by
  rw [visibleClients]
  refine List.filter_congr fun c _ ↦ ?_
  simp [Listing.clients, ClientService.selects, dashboardClients]

theorem rows_dashboardServices (user : User) (db : Db) :
    (Listing.services user dashboardServices).rows db = visibleServices user db := by
  rw [visibleServices]
  refine List.filter_congr fun sv _ ↦ ?_
  simp [Listing.services, ServiceService.selects, dashboardServices]

/-- The first page of a listing, with the total. -/
theorem Listing.exists_of_answers {ρ : Type} [Keyed ρ UUID] {L : Listing ρ} (limit : ℕ)
    {items : List ρ} {total : ℕ} (h : L.Answers db limit 0 (.ok (items, total))) :
    ∃ l : List ρ, l.Perm (L.rows db) ∧ items = l.take limit ∧ total = l.length := by
  rw [Answers] at h
  split at h
  · obtain ⟨l, harr, hpage⟩ := h
    refine ⟨l, harr.perm, ?_⟩
    rw [pageOf, Session.limitOffset] at hpage
    split at hpage
    · cases hpage
      exact ⟨rfl, rfl⟩
    · cases hpage
  · cases h

/-- A page with room for all rows has them all. -/
theorem Listing.perm_of_answers {ρ : Type} [Keyed ρ UUID] {L : Listing ρ} {limit : ℕ}
    {items : List ρ} {total : ℕ} (h : L.Answers db limit 0 (.ok (items, total)))
    (hle : (L.rows db).length ≤ limit) : items.Perm (L.rows db) := by
  obtain ⟨l, hperm, rfl, -⟩ := Listing.exists_of_answers limit h
  rwa [List.take_of_length_le (hperm.length_eq.trans_le hle)]

theorem filter_not_contains_append {α : Type} [DecidableEq α] {l₁ l₂ : List α}
    (h : (l₁ ++ l₂).Nodup) : ((l₁ ++ l₂).filter fun a ↦ !l₁.contains a) = l₂ := by
  have hleft : (l₁.filter fun a ↦ !l₁.contains a) = [] :=
    List.filter_eq_nil_iff.2 fun a ha ↦ by simpa using ha
  have hright : (l₂.filter fun a ↦ !l₁.contains a) = l₂ :=
    List.filter_eq_self.2 fun a ha ↦ by simpa using fun ha' ↦ List.disjoint_of_nodup_append h ha' ha
  rw [List.filter_append, hleft, hright, List.nil_append]

/-- The page of the services, and what it leaves out. -/
theorem perm_page_append_omitted {page : Page Service}
    (h : (Listing.services user dashboardServices).Answers db 200 0
      (.ok (page.items, page.total))) :
    (visibleServices user db).Perm (page.items ++ omittedServices user db page) := by
  obtain ⟨l, hperm, hitems, -⟩ := Listing.exists_of_answers 200 h
  rw [rows_dashboardServices] at hperm
  have hnodup : (l.take 200 ++ l.drop 200).Nodup := by
    rw [List.take_append_drop]
    exact hperm.nodup_iff.2 (db.services.keys_nodup.of_map _ |>.filter _)
  have homitted : (l.filter fun sv ↦ !page.items.contains sv) = l.drop 200 := by
    have hfilter := filter_not_contains_append hnodup
    rwa [List.take_append_drop, ← hitems] at hfilter
  have hrest : (l.drop 200).Perm (omittedServices user db page) := homitted ▸ hperm.filter _
  have hsplit : l.Perm (page.items ++ l.drop 200) := by
    rw [hitems, List.take_append_drop]
  exact hperm.symm.trans (hsplit.trans (hrest.append_left _))

/-- **The pipeline value of the page** is the aggregate if rounding makes up for what is left
out. -/
theorem pipelineValue_eq_iff {page : Page Service}
    (h : (Listing.services user dashboardServices).Answers db 200 0
      (.ok (page.items, page.total))) :
    JsNumber.sum ((setupPriceCents page.items).map JsNumber.ofInt) =
        (setupPriceCents (visibleServices user db)).sum ↔
      JsNumber.roundingError (setupPriceCents page.items) =
        (setupPriceCents (omittedServices user db page)).sum := by
  have hperm : (setupPriceCents (visibleServices user db)).Perm
      (setupPriceCents page.items ++ setupPriceCents (omittedServices user db page)) := by
    rw [← setupPriceCents_append]
    exact setupPriceCents_perm (perm_page_append_omitted h)
  rw [JsNumber.sum_map_ofInt, hperm.sum_eq, List.sum_append]
  omega

/-- **A complete page of clients** gives the aggregates over all. -/
theorem perm_of_complete {page : Page Client}
    (h : (Listing.clients p user dashboardClients).Answers db 200 0
      (.ok (page.items, page.total))) :
    (page.items.length < page.total ↔ 200 < (visibleClients user db).length) ∧
      ((visibleClients user db).length ≤ 200 → page.items.Perm (visibleClients user db)) := by
  rw [← rows_dashboardClients p user db]
  refine ⟨?_, Listing.perm_of_answers h⟩
  obtain ⟨l, hperm, hitems, htotal⟩ := Listing.exists_of_answers 200 h
  rw [← hperm.length_eq, hitems, htotal, List.length_take]
  omega

/-- What the figures are compared in, if there is no banner. -/
theorem figures_eq_total_iff {d : Dashboard} {page : Page Service}
    (hshown : d.isDegraded = false) (hpage : d.services = some page)
    (h : (Listing.services user dashboardServices).Answers db 200 0
      (.ok (page.items, page.total))) :
    d.figures = .total (visibleClients user db) (visibleServices user db) ↔
      (JsNumber.sum ((mrrCents d.clients).map JsNumber.ofInt) =
          (mrrCents (visibleClients user db)).sum ∧
        dealsCount d.clients = dealsCount (visibleClients user db) ∧
        funnelCounts d.clients = funnelCounts (visibleClients user db)) ∧
      JsNumber.roundingError (setupPriceCents page.items) =
        (setupPriceCents (omittedServices user db page)).sum := by
  have hpipeline : d.pipelineValue =
      some (JsNumber.sum ((setupPriceCents page.items).map JsNumber.ofInt)) := by
    simp only [Dashboard.pipelineValue, hpage, hshown, Bool.false_eq_true, if_false]
  rw [← pipelineValue_eq_iff h, Dashboard.figures, Figures.total, Dashboard.mrr,
    Dashboard.dealsInMotion, hpipeline, hshown]
  simp only [Bool.false_eq_true, if_false, Figures.mk.injEq, Option.some.injEq, Option.getD_some]
  tauto

/-- The figures of all clients. -/
theorem figures_eq_total_of_perm {clients : List Client}
    (h : clients.Perm (visibleClients user db)) :
    (JsNumber.sum ((mrrCents clients).map JsNumber.ofInt) =
        (mrrCents (visibleClients user db)).sum ∧
      dealsCount clients = dealsCount (visibleClients user db) ∧
      funnelCounts clients = funnelCounts (visibleClients user db)) ↔
      JsNumber.roundingError (mrrCents clients) = 0 := by
  rw [and_iff_left ⟨dealsCount_perm h, funnelCounts_perm h⟩, JsNumber.sum_map_ofInt,
    (mrrCents_perm h).sum_eq]
  omega

/-- The figures of no clients, which are all zero. -/
theorem figures_eq_total_nil_iff :
    (JsNumber.sum ((mrrCents []).map JsNumber.ofInt) =
        (mrrCents (visibleClients user db)).sum ∧
      dealsCount [] = dealsCount (visibleClients user db) ∧
      funnelCounts [] = funnelCounts (visibleClients user db)) ↔
      ∀ c ∈ visibleClients user db, c.stage = .lost := by
  rw [funnelCounts_nil_iff]
  constructor
  · exact fun h ↦ h.2.2
  · intro hlost
    rw [mrrCents_of_lost hlost, dealsCount_of_lost hlost]
    exact ⟨rfl, rfl, hlost⟩

/-- The activity has no part in it. -/
theorem exactOrFlagged_fetchAll (clients : PromiseSettledResult (Page Client))
    (services : PromiseSettledResult (Page Service))
    (activity : PromiseSettledResult (Page ActivityLog)) :
    (Dashboard.mounted.fetchAll clients services activity).ExactOrFlagged user db ↔
      ((Dashboard.mounted.receiveClients clients).receiveServices clients
        services).ExactOrFlagged user db := by
  rw [Dashboard.ExactOrFlagged, Dashboard.fetchAll, Dashboard.isDegraded_receiveActivity,
    Dashboard.warned_receiveActivity, Dashboard.figures_receiveActivity]
  rfl

/-- A failure is shown, unless its message is empty. -/
theorem isDegraded_rejected (message : Option String) (services : Option (Page Service)) :
    (Dashboard.mk [] 0 services none (some (message.getD "Error al cargar datos")) none
      false).isDegraded = decide (message ≠ some "") := by
  rcases message with - | text
  · rfl
  · simp [Dashboard.isDegraded]

/-- Both lists are there: they are complete, or the warning or a price of nothing makes up for
it. -/
theorem exactOrFlagged_fulfilled_iff {page : Page Client} {page' : Page Service}
    (hclients : (Listing.clients p user dashboardClients).Answers db 200 0
      (.ok (page.items, page.total)))
    (hservices : (Listing.services user dashboardServices).Answers db 200 0
      (.ok (page'.items, page'.total))) :
    (Dashboard.mk page.items page.total (some page') none none none
        (decide (page.items.length < page.total))).ExactOrFlagged user db ↔
      200 < (visibleClients user db).length ∨
        (JsNumber.roundingError (mrrCents page.items) = 0 ∧
          JsNumber.roundingError (setupPriceCents page'.items) =
            (setupPriceCents (omittedServices user db page')).sum) := by
  obtain ⟨hwarned, hperm⟩ := perm_of_complete hclients
  by_cases hlen : 200 < (visibleClients user db).length
  · refine iff_of_true (fun _ hsilent ↦ ?_) (Or.inl hlen)
    exact absurd (hwarned.2 hlen) (of_decide_eq_false hsilent)
  · have hsilent : ¬page.items.length < page.total := fun hlt ↦ hlen (hwarned.1 hlt)
    rw [Dashboard.ExactOrFlagged, figures_eq_total_iff rfl rfl hservices,
      figures_eq_total_of_perm (hperm (Nat.not_lt.1 hlen)), or_iff_right hlen]
    exact ⟨fun h ↦ h rfl (decide_eq_false hsilent), fun h _ _ ↦ h⟩

/-- The clients are missing: there is a banner, unless the message is empty. -/
theorem exactOrFlagged_rejected_iff (message : Option String) (services : Option (Page Service)) :
    (Dashboard.mk [] 0 services none (some (message.getD "Error al cargar datos")) none
        false).ExactOrFlagged user db ↔
      (message = some "" →
        (Dashboard.mk [] 0 services none (some "") none false).figures =
          .total (visibleClients user db) (visibleServices user db)) := by
  have hshown := isDegraded_rejected message services
  by_cases hempty : message = some ""
  · subst hempty
    exact ⟨fun h _ ↦ h rfl rfl, fun h _ _ ↦ h rfl⟩
  · rw [decide_eq_true hempty] at hshown
    refine iff_of_true (fun h ↦ ?_) fun h ↦ absurd h hempty
    rw [hshown] at h
    cases h

/-- **The figures of the dashboard**, whatever number of clients and services there is, whatever
their amounts are and whichever requests fail: they are exact or flagged exactly if the answers are
enough, or the dashboard says that they are not. -/
theorem exactOrFlagged_iff_covers (load : DashboardLoad p user db) :
    load.dashboard.ExactOrFlagged user db ↔ load.Covers := by
  obtain ⟨clients, services, activity, hclients, hservices, -⟩ := load
  rw [DashboardLoad.dashboard, exactOrFlagged_fetchAll]
  rcases clients with page | message <;> rcases services with page' | message'
  · exact exactOrFlagged_fulfilled_iff (hclients page rfl) (hservices page' rfl)
  · -- The banner says that the services are missing.
    exact iff_of_true (fun hshown ↦ Bool.noConfusion hshown) trivial
  · refine (exactOrFlagged_rejected_iff message (some page')).trans ?_
    rw [figures_eq_total_iff rfl rfl (hservices page' rfl), figures_eq_total_nil_iff]
    rfl
  · refine (exactOrFlagged_rejected_iff message none).trans ?_
    -- Without services there is no pipeline value to show.
    have hfigures : (Dashboard.mk [] 0 none none (some "") none false).figures ≠
        .total (visibleClients user db) (visibleServices user db) := by
      intro h
      cases congrArg Figures.pipelineValue h
    exact imp_congr_right fun _ ↦ iff_of_false hfigures id

/-- **In the ordinary range the answers are enough**: up to 200 services, whose amounts JavaScript
adds up exactly, and a failure of the clients with a message. -/
theorem covers_of_complete (load : DashboardLoad p user db) (hrep : Representable user db)
    (hcomplete : (visibleServices user db).length ≤ 200)
    (hmessage : ∀ message, load.clients = .rejected message → message ≠ some "") :
    load.Covers := by
  rcases hclients : load.clients with page | message <;>
    rcases hservices : load.services with page' | message' <;>
    rw [DashboardLoad.Covers, hclients, hservices]
  · refine or_iff_not_imp_left.2 fun hlen ↦ ?_
    have hpage := (perm_of_complete (load.clients_answers page hclients)).2 (Nat.not_lt.1 hlen)
    have hpage' : page'.items.Perm (visibleServices user db) := by
      rw [← rows_dashboardServices] at hcomplete ⊢
      exact Listing.perm_of_answers (load.services_answers page' hservices) hcomplete
    have hmrr : JsNumber.magnitude (mrrCents page.items) ≤ JsNumber.maxExact :=
      (JsNumber.magnitude_perm (mrrCents_perm hpage)).trans_le hrep.mrr
    have hpipeline : JsNumber.magnitude (setupPriceCents page'.items) ≤ JsNumber.maxExact :=
      (JsNumber.magnitude_perm (setupPriceCents_perm hpage')).trans_le hrep.pipelineValue
    have homitted : omittedServices user db page' = [] :=
      List.filter_eq_nil_iff.2 fun sv hsv ↦ by simpa using hpage'.mem_iff.2 hsv
    rw [JsNumber.roundingError_eq_zero hmrr, JsNumber.roundingError_eq_zero hpipeline, homitted]
    exact ⟨rfl, rfl⟩
  · trivial
  · exact fun hempty ↦ absurd hempty (hmessage message hclients)
  · exact hmessage message hclients

end Pages

/-! ### What the server answers -/

section Served

variable {ρ : Type} [Keyed ρ UUID]

/-- The first rows of a listing, ties broken by the key. -/
def Listing.firstPage (L : Listing ρ) (db : Db) (limit : ℕ) : Page ρ :=
  ⟨(L.ordered db).take limit, (L.table db).rows.countP L.selects, limit, 0⟩

theorem Listing.answers_firstPage {L : Listing ρ} (hbind : L.bindable = true) (db : Db) {limit : ℕ}
    (hlimit : (limit : ℤ) ≤ Session.maxBigint) {page : Page ρ}
    (hpage : PromiseSettledResult.fulfilled (L.firstPage db limit) = .fulfilled page) :
    L.Answers db limit 0 (.ok (page.items, page.total)) := by
  cases hpage
  have h := L.answers_answer db limit 0
  rwa [L.answer_eq_ok hbind db ⟨Int.natCast_nonneg _, hlimit, le_rfl, by decide⟩] at h

/-- All three requests succeed. -/
def DashboardLoad.served (p : Platform) (user : User) (db : Db) : DashboardLoad p user db where
  clients := .fulfilled ((Listing.clients p user dashboardClients).firstPage db 200)
  services := .fulfilled ((Listing.services user dashboardServices).firstPage db 200)
  activity := .fulfilled ((Listing.activity none).firstPage db 30)
  clients_answers _ h := Listing.answers_firstPage rfl db (by decide) h
  services_answers _ h := Listing.answers_firstPage rfl db (by decide) h
  activity_answers _ h := Listing.answers_firstPage rfl db (by decide) h

end Served

instance (user : User) (db : Db) (d : Dashboard) : Decidable (d.ExactOrFlagged user db) :=
  inferInstanceAs (Decidable (_ → _ → _))

/-- Two clients and no services. -/
theorem exactOrFlagged_twoClients :
    (DashboardLoad.served .sample Listing.rootUser
      (Listing.twoClients 0 1)).dashboard.ExactOrFlagged Listing.rootUser
        (Listing.twoClients 0 1) :=
  (exactOrFlagged_iff_covers _).2 (Or.inr (by decide))

/-- A service in the making. -/
def runningService (k : ℕ) : Service where
  id := k
  createdAt := k
  updatedAt := k
  clientId := 10
  ownerId := none
  type := .development
  title := .lit "Website"
  state := .running
  progressPct := none
  startedAt := none
  endedAt := none
  setupPriceCents := some ⟨100, by decide⟩
  monthlyCents := none
  scoreInt := none
  diagnosticJson := none

theorem keys_runningServices (n : ℕ) :
    (((List.range n).reverse.map runningService).map key).Nodup := by
  have hkeys : ((List.range n).reverse.map runningService).map key = (List.range n).reverse := by
    rw [List.map_map]
    exact List.map_id _
  rw [hkeys]
  exact List.nodup_reverse.2 List.nodup_range

/-- One client with 201 services. -/
def manyServices : Db :=
  { Db.empty with
    clients := Table.empty.insert (Listing.clientNamed 10 0 (.lit "Ada"))
    services := ⟨(List.range 201).reverse.map runningService, keys_runningServices 201⟩ }

/-- **The oldest service is missing** from the pipeline value, and nothing says so. -/
theorem not_exactOrFlagged_manyServices :
    ¬(DashboardLoad.served .sample Listing.rootUser manyServices).dashboard.ExactOrFlagged
      Listing.rootUser manyServices := by
  intro h
  have hpipeline := congrArg Figures.pipelineValue (h (by decide +kernel) (by decide +kernel))
  have hshown : (DashboardLoad.served .sample Listing.rootUser
      manyServices).dashboard.pipelineValue = some 20000 := by
    decide +kernel
  have htotal : (setupPriceCents (visibleServices Listing.rootUser manyServices)).sum = 20100 := by
    decide +kernel
  have hsame : (20000 : ℤ) = 20100 :=
    Option.some.inj (hshown.symm.trans (hpipeline.trans (congrArg some htotal)))
  exact absurd hsame (by decide)

end ZanovixCrm
