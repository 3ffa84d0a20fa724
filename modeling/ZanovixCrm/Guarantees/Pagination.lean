import ZanovixCrm.Services.Listings

/-!
# Going through a listing

Whoever asks for the pages of a listing one after the other wants to see every row once. The query
for the total repeats the conditions of the query for the page, in all seven listings; the order by
`created_at` alone is what may go wrong. Rows that were inserted in one transaction have the same
`created_at`, and if a page ends between two of them, one can be on both pages and the other on
neither. Where no page ends so, the pages enumerate the rows (`listings_enumerate_iff`).
-/

namespace ZanovixCrm

open Pagination

namespace Listing

section Enumeration

variable {ρ : Type} [Keyed ρ UUID] {L : Listing ρ} {db : Db} {size : ℕ}

/-- **The pages enumerate the rows**: whatever the listing may answer at the offsets `0`, `size`,
`2 * size` up to the last page, these are pages, each with the right total, that contain every row
once, in order. -/
def Enumerates (L : Listing ρ) (db : Db) (size : ℕ) : Prop :=
  ∀ answers : ℕ → Except Fault (List ρ × ℕ),
    (∀ k : ℕ, L.Answers db size (k * size : ℕ) (answers k)) →
    ∃ page : ℕ → List ρ,
      (∀ k ≤ lastPage size (L.rows db).length, answers k = .ok (page k, (L.rows db).length)) ∧
      (((List.range (lastPage size (L.rows db).length + 1)).flatMap page).Perm (L.rows db) ∧
        ((List.range (lastPage size (L.rows db).length + 1)).flatMap page).Pairwise
          fun a b ↦ L.rank a ≤ L.rank b)

/-- The texts can be bound, the last offset is within `bigint`, and no page ends between two rows
with the same `created_at`. -/
structure EvenlyCut (L : Listing ρ) (db : Db) (size : ℕ) : Prop where
  bindable : L.bindable = true
  offset : ((lastPage size (L.rows db).length * size : ℕ) : ℤ) ≤ Session.maxBigint
  wellCut : WellCut size (ranks L.rank (L.rows db))

omit [Keyed ρ UUID] in
/-- A page within `bigint`. -/
theorem pageOf_page (hsize : size ≤ 200) {k : ℕ} (l : List ρ)
    (hoffset : ((k * size : ℕ) : ℤ) ≤ Session.maxBigint) :
    pageOf size (k * size : ℕ) l = .ok (page size k l, l.length) := by
  have hlimit : (size : ℤ) ≤ Session.maxBigint :=
    le_trans (Int.ofNat_le.2 hsize) (by decide : (200 : ℤ) ≤ Session.maxBigint)
  have hok : Session.limitOffset size (k * size : ℕ) l = .ok (page size k l) :=
    if_pos ⟨Int.natCast_nonneg size, hlimit, Int.natCast_nonneg _, hoffset⟩
  rw [pageOf, hok]
  rfl

omit [Keyed ρ UUID] in
/-- A page beyond it is an error. -/
theorem offset_le_of_pageOf {limit offset : ℤ} {l : List ρ} {a : List ρ × ℕ}
    (h : pageOf limit offset l = .ok a) : offset ≤ Session.maxBigint := by
  by_contra hlt
  have herror : Session.limitOffset limit offset l = .error .data := if_neg fun hin ↦ hlt hin.2.2.2
  rw [pageOf, herror] at h
  cases h

/-- **The pages of a listing.** -/
theorem enumerates_iff (L : Listing ρ) (db : Db) (hpos : 1 ≤ size) (hsize : size ≤ 200) :
    L.Enumerates db size ↔ L.EvenlyCut db size := by
  have hrows : (L.rows db).length ≤ (lastPage size (L.rows db).length + 1) * size :=
    le_lastPage_mul hpos _
  constructor
  · intro henum
    have hbind : L.bindable = true := by
      by_contra hb
      have hrefused : ∀ k : ℕ, L.Answers db size (k * size : ℕ) (.error (.db .data)) := by
        intro k
        rw [Answers, if_neg hb]
      obtain ⟨page, hpage, -⟩ := henum (fun _ ↦ .error (.db .data)) hrefused
      cases hpage 0 (Nat.zero_le _)
    have hanswers : ∀ l : ℕ → List ρ, (∀ k, Arranges L.rank (L.rows db) (l k)) →
        ∀ k : ℕ, L.Answers db size (k * size : ℕ) (pageOf size (k * size : ℕ) (l k)) := by
      intro l hl k
      rw [Answers, if_pos hbind]
      exact ⟨l k, hl k, rfl⟩
    have hoffset : ((lastPage size (L.rows db).length * size : ℕ) : ℤ) ≤ Session.maxBigint := by
      obtain ⟨page, hpage, -⟩ := henum _ (hanswers _ fun _ ↦ L.arranges_ordered db)
      exact offset_le_of_pageOf (hpage _ le_rfl)
    refine ⟨hbind, hoffset, (perm_pages_iff hrows (L.nodup_rows db)).1 fun l hl ↦ ?_⟩
    obtain ⟨page, hpage, hperm, -⟩ := henum _ (hanswers l hl)
    have hsame : pages size (lastPage size (L.rows db).length + 1) l =
        (List.range (lastPage size (L.rows db).length + 1)).flatMap page := by
      refine List.flatMap_congr fun k hk ↦ ?_
      have hle : k ≤ lastPage size (L.rows db).length := Nat.lt_succ_iff.1 (List.mem_range.1 hk)
      have hmul : ((k * size : ℕ) : ℤ) ≤ Session.maxBigint :=
        le_trans (Int.ofNat_le.2 (Nat.mul_le_mul_right size hle)) hoffset
      have hk := hpage k hle
      rw [pageOf_page hsize (l k) hmul] at hk
      exact congrArg Prod.fst (Except.ok.inj hk)
    rw [hsame]
    exact hperm
  · rintro ⟨hbind, hoffset, hcut⟩ answers hanswers
    have harr : ∀ k, ∃ l, Arranges L.rank (L.rows db) l ∧
        answers k = pageOf size (k * size : ℕ) l := by
      intro k
      have hk := hanswers k
      rwa [Answers, if_pos hbind] at hk
    choose l hl hk using harr
    refine ⟨fun k ↦ page size k (l k), fun k hle ↦ ?_, ?_, sorted_pages hl _⟩
    · have hmul : ((k * size : ℕ) : ℤ) ≤ Session.maxBigint :=
        le_trans (Int.ofNat_le.2 (Nat.mul_le_mul_right size hle)) hoffset
      rw [hk, pageOf_page hsize (l k) hmul, (hl k).perm.length_eq]
    · exact (perm_pages_iff hrows (L.nodup_rows db)).2 hcut l hl

/-- A service that breaks ties by the key answers as its listing may. -/
theorem answers_of_run {β : Type} {limit offset : ℤ} {x : Except Fault (β × Db)}
    {g : List ρ × ℕ → β} {g' : β → List ρ × ℕ} (hg : ∀ a, g' (g a) = a)
    (h : x = (L.answer db limit offset).map fun a ↦ (g a, db)) :
    L.Answers db limit offset (x.map fun b ↦ g' b.1) := by
  have hanswer : x.map (fun b ↦ g' b.1) = L.answer db limit offset := by
    rw [h]
    rcases L.answer db limit offset with e | a
    · rfl
    · exact congrArg Except.ok (hg a)
  rw [hanswer]
  exact L.answers_answer db limit offset

end Enumeration

/-- The services of a page, without their milestones. -/
def withoutMilestones (a : List ServiceWithMilestones × ℕ) : List Service × ℕ :=
  (a.1.map (·.service), a.2)

theorem withoutMilestones_withMilestones (db : Db) (a : List Service × ℕ) :
    withoutMilestones (withMilestones db a) = a := by
  rw [withoutMilestones, withMilestones, List.map_map]
  exact congrArg (·, a.2) (List.map_id _)

/-- **The seven services answer as their listings may.** -/
theorem services_answer (p : Platform) (user : User) (db : Db) :
    (∀ f, (leads user f).Answers db f.limit f.offset
      (((LeadService.listForUser user f).run db).map fun a ↦ a.1)) ∧
    (∀ f, (clients p user f).Answers db f.limit f.offset
      (((ClientService.listClients p user f).run db).map fun a ↦ a.1)) ∧
    (∀ f, (services user f).Answers db f.limit f.offset
      (((ServiceService.listServices user f).run db).map fun a ↦ withoutMilestones a.1)) ∧
    (∀ clientId limit offset state type, (servicesOf clientId state type).Answers db limit offset
      (((ServiceService.listForClient clientId limit offset state type).run db).map fun a ↦
        withoutMilestones a.1)) ∧
    (∀ clientId limit offset status priority,
      (tickets clientId status priority).Answers db limit offset
        (((TicketService.listTickets clientId limit offset status priority).run db).map fun a ↦
          a.1)) ∧
    (∀ clientId limit offset since, (messages clientId since).Answers db limit offset
      (((MessageService.listMessages clientId limit offset since).run db).map fun a ↦ a.1)) ∧
    ∀ limit offset clientId, (activity clientId).Answers db limit offset
      (((ActivityLogService.listActivity limit offset clientId).run db).map fun a ↦ a.1) :=
  ⟨fun f ↦ answers_of_run (fun _ ↦ rfl) (run_listForUser f db),
    fun f ↦ answers_of_run (fun _ ↦ rfl) (run_listClients f db),
    fun f ↦ answers_of_run (withoutMilestones_withMilestones db) (run_listServices f db),
    fun c l o s t ↦
      answers_of_run (withoutMilestones_withMilestones db) (run_listForClient c l o s t db),
    fun c l o s q ↦ answers_of_run (fun _ ↦ rfl) (run_listTickets c l o s q db),
    fun c l o t ↦ answers_of_run (fun _ ↦ rfl) (run_listMessages c l o t db),
    fun l o c ↦ answers_of_run (fun _ ↦ rfl) (run_listActivity l o c db)⟩

/-- **The seven listings**, from 1 to 200 rows on a page: the pages enumerate the rows of the scope
that pass the filters exactly if no page ends between two rows with the same `created_at`, as long
as PostgreSQL takes the texts and the offsets. -/
theorem listings_enumerate_iff (p : Platform) (user : User) (db : Db) (size : ℕ) (hpos : 1 ≤ size)
    (hsize : size ≤ 200) :
    (∀ f, (leads user f).Enumerates db size ↔ (leads user f).EvenlyCut db size) ∧
    (∀ f, (clients p user f).Enumerates db size ↔ (clients p user f).EvenlyCut db size) ∧
    (∀ f, (services user f).Enumerates db size ↔ (services user f).EvenlyCut db size) ∧
    (∀ clientId state type, (servicesOf clientId state type).Enumerates db size ↔
      (servicesOf clientId state type).EvenlyCut db size) ∧
    (∀ clientId status priority, (tickets clientId status priority).Enumerates db size ↔
      (tickets clientId status priority).EvenlyCut db size) ∧
    (∀ clientId since, (messages clientId since).Enumerates db size ↔
      (messages clientId since).EvenlyCut db size) ∧
    ∀ clientId, (activity clientId).Enumerates db size ↔ (activity clientId).EvenlyCut db size :=
  ⟨fun _ ↦ enumerates_iff _ db hpos hsize, fun _ ↦ enumerates_iff _ db hpos hsize,
    fun _ ↦ enumerates_iff _ db hpos hsize, fun _ _ _ ↦ enumerates_iff _ db hpos hsize,
    fun _ _ _ ↦ enumerates_iff _ db hpos hsize, fun _ _ ↦ enumerates_iff _ db hpos hsize,
    fun _ ↦ enumerates_iff _ db hpos hsize⟩

/-- A client. -/
def clientNamed (id : UUID) (createdAt : Time) (name : Str 200) : Client where
  id := id
  createdAt := createdAt
  updatedAt := createdAt
  name := name
  sector := none
  size := none
  region := none
  ownerId := none
  stage := .lead
  enteredAt := createdAt
  mrrCents := none
  lifetimeValueCents := none

/-- Two clients, created at the given times. -/
def twoClients (first second : Time) : Db :=
  { Db.empty with
    clients := (Table.empty.insert (clientNamed 10 first (.lit "Ada"))).insert
      (clientNamed 20 second (.lit "Eva")) }

/-- Everything that an administrator sees. -/
def unfiltered : ClientFilters :=
  { stage := none, ownerId := none, sector := none, q := none, limit := 1, offset := 0 }

/-- An administrator. -/
def rootUser : User := .sample 1 (.lit "root@example.com") .admin none

/-- Two clients that were created one after the other. -/
theorem enumerates_twoClients :
    (clients .sample rootUser unfiltered).Enumerates (twoClients 0 1) 1 :=
  ((listings_enumerate_iff .sample rootUser (twoClients 0 1) 1 (by decide) (by decide)).2.1
    unfiltered).2 ⟨by decide, by decide, by decide⟩

/-- **Two clients that were created in one transaction** need not both be on the two pages. -/
theorem not_enumerates_twoClients :
    ¬(clients .sample rootUser unfiltered).Enumerates (twoClients 0 0) 1 := by
  intro henum
  have hcut := ((enumerates_iff _ (twoClients 0 0) (by decide) (by decide)).1 henum).wellCut
  exact absurd hcut (by decide)

end Listing

end ZanovixCrm
