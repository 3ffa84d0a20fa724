import ZanovixCrm.Api.Requests
import ZanovixCrm.Database.Like
import ZanovixCrm.Guarantees.Pagination

/-!
# Searching clients

The client list looks for a text in the names of clients. The text becomes part of an `ILIKE`
pattern as it is, so a percent sign, an underscore or a backslash in it means something else there;
and a NUL makes the query fail. The search is literal for all other texts. It is also for a text
with special characters whose shortest match is too long for a name, since then there is nothing to
find either way (`searches_literally_iff`).
-/

namespace ZanovixCrm

open Session

/-- Case folding goes character by character, as `towlower` does, and leaves the special characters
of patterns alone. -/
structure Platform.FoldsBy (p : Platform) (fold : Char → Char) : Prop where
  ilower : ∀ s, p.ilower s = String.ofList (s.toList.map fold)
  special : ∀ c d, isSpecial d = true → (fold c = d ↔ c = d)

/-- The client is in the user's scope, and its name contains the text, in any case. -/
def namesLiterally (p : Platform) (user : User) (q : String) (c : Client) : Bool :=
  user.sees c.ownerId && decide ((p.ilower q).toList <:+: (p.ilower c.name.val).toList)

/-- Filters with nothing but the text. -/
def searchFor (q : String) (limit offset : ℤ) : ClientFilters :=
  { stage := none, ownerId := none, sector := none, q := some q, limit, offset }

/-- **A search for the text is literal**: it does not fail, and finds the clients whose names
contain the text, with the right total. -/
def SearchesLiterally (p : Platform) (q : String) : Prop :=
  ∀ (user : User) (db : Db) (limit offset : ℤ), Request.pageOk limit offset = true →
    offset ≤ maxBigint →
    (ClientService.listClients p user (searchFor q limit offset)).run db =
      .ok ((((selectDesc db.clients (namesLiterally p user q) Client.createdAt).drop
          offset.toNat).take limit.toNat,
        db.clients.rows.countP (namesLiterally p user q)), db)

section Search

variable {p : Platform} {fold : Char → Char} {q : String} {user : User} {limit offset : ℤ}

/-- The condition of the query. -/
theorem selects_searchFor (h : p.FoldsBy fold) (c : Client) :
    ClientService.selects p user (searchFor q limit offset) c =
      (user.sees c.ownerId && like ('%' :: (q.toList.map fold ++ ['%']))
        (c.name.val.toList.map fold)) := by
  have hpercent : fold '%' = '%' := (h.special '%' '%' rfl).2 rfl
  have hpattern : (p.ilower ("%" ++ q ++ "%")).toList = '%' :: (q.toList.map fold ++ ['%']) := by
    rw [h.ilower]
    simp [hpercent]
  have hname : (p.ilower c.name.val).toList = c.name.val.toList.map fold := by
    rw [h.ilower, String.toList_ofList]
  rw [← hpattern, ← hname, ClientService.selects]
  simp only [searchFor, Option.all_none, Option.all_some, Bool.and_true]

theorem namesLiterally_eq (h : p.FoldsBy fold) (c : Client) :
    namesLiterally p user q c =
      (user.sees c.ownerId && decide (q.toList.map fold <:+: c.name.val.toList.map fold)) := by
  rw [namesLiterally, h.ilower, h.ilower, String.toList_ofList, String.toList_ofList]

/-- Folding keeps special characters, and makes none. -/
theorem any_isSpecial_map (h : p.FoldsBy fold) (P : List Char) :
    (P.map fold).any isSpecial = P.any isSpecial := by
  rw [List.any_map]
  refine List.any_congr rfl fun c ↦ ?_
  have hiff : ∀ d, isSpecial d = true → decide (fold c = d) = decide (c = d) := fun d hd ↦
    decide_eq_decide.2 (h.special c d hd)
  show isSpecial (fold c) = isSpecial c
  rw [isSpecial, isSpecial, hiff '%' rfl, hiff '_' rfl, hiff '\\' rfl]

/-- **The pattern finds what contains the text** if the text has no special character, or is too
long for a name in any way. -/
theorem selects_eq_namesLiterally (h : p.FoldsBy fold)
    (hq : q.toList.any isSpecial = false ∨ 200 < (squash q.toList).length) :
    ClientService.selects p user (searchFor q limit offset) = namesLiterally p user q := by
  funext c
  rw [selects_searchFor h, namesLiterally_eq h]
  refine congrArg (user.sees c.ownerId && ·) ?_
  rcases hq with hplain | hlong
  · refine Bool.eq_iff_iff.2 ?_
    rw [decide_eq_true_iff]
    exact like_percent_plain ((any_isSpecial_map h _).trans hplain)
  · have hname : (c.name.val.toList.map fold).length ≤ 200 := by
      rw [List.length_map, String.length_toList]
      exact c.name.fits 200 rfl
    have hlike : ¬like ('%' :: (q.toList.map fold ++ ['%'])) (c.name.val.toList.map fold) =
        true := by
      intro hmatch
      have hle := length_squash_le_of_percent hmatch
      rw [squash_map h.special, List.length_map] at hle
      omega
    have hwithin : ¬q.toList.map fold <:+: c.name.val.toList.map fold := by
      intro hwithin
      have hle := hwithin.length_le
      have hshort := length_squash_le_length q.toList
      rw [List.length_map] at hle
      omega
    rw [Bool.eq_false_of_not_eq_true hlike, decide_eq_false hwithin]

/-- A query for the text is accepted if it has no NUL. -/
theorem bindable_searchFor : (Listing.clients p user (searchFor q limit offset)).bindable =
    nulFree q := by
  show (true && (true && (nulFree q && true))) = nulFree q
  rw [Bool.and_true, Bool.true_and, Bool.true_and]

/-- The answer to a query that is accepted. -/
theorem run_searchFor (hnul : nulFree q = true) (hpage : Request.pageOk limit offset = true)
    (hoffset : offset ≤ maxBigint) (db : Db) :
    (ClientService.listClients p user (searchFor q limit offset)).run db =
      .ok ((((selectDesc db.clients (ClientService.selects p user (searchFor q limit offset))
          Client.createdAt).drop offset.toNat).take limit.toNat,
        db.clients.rows.countP (ClientService.selects p user (searchFor q limit offset))), db) := by
  rw [Listing.run_listClients]
  exact congrArg (Except.map fun a ↦ (a, db)) (Listing.answer_eq_ok
    (bindable_searchFor.trans hnul) db (Request.inBigint_of_pageOk hpage hoffset))

end Search

/-! ### Texts that are not searched for literally -/

/-- The name that the pattern finds at the least. -/
def shortest (q : String) (hnul : nulFree q = true) (hle : (squash q.toList).length ≤ 200) :
    Str 200 where
  val := String.ofList (squash q.toList)
  fits n hn := by
    cases hn
    rw [String.length_ofList]
    exact hle
  noNul h := by
    rw [String.toList_ofList] at h
    rcases mem_squash h with h | h
    · rw [nulFree, List.contains_iff_mem.2 h] at hnul
      cases hnul
    · exact absurd h (by decide)

/-- A database with one client. -/
def oneClient (name : Str 200) : Db :=
  { Db.empty with clients := Table.empty.insert (Listing.clientNamed 10 0 name) }

/-- **A text with a special character finds a client whose name does not contain it.** -/
theorem not_searchesLiterally {p : Platform} {fold : Char → Char} (h : p.FoldsBy fold) {q : String}
    (hnul : nulFree q = true) (hspecial : q.toList.any isSpecial = true)
    (hle : (squash q.toList).length ≤ 200) : ¬SearchesLiterally p q := by
  intro hliteral
  have hrun := hliteral Listing.rootUser (oneClient (shortest q hnul hle)) 1 0 (by decide)
    (by decide)
  rw [run_searchFor hnul (by decide) (by decide)] at hrun
  have htotal := congrArg (fun a ↦ a.1.2) (Except.ok.inj hrun)
  let c := Listing.clientNamed 10 0 (shortest q hnul hle)
  have hname : c.name.val.toList.map fold = squash (q.toList.map fold) := by
    rw [squash_map h.special]
    exact congrArg (List.map fold) String.toList_ofList
  have hfound : ClientService.selects p Listing.rootUser (searchFor q 1 0) c = true := by
    rw [selects_searchFor h, hname, like_percent_squash]
    rfl
  have hmissed : namesLiterally p Listing.rootUser q c = false := by
    rw [namesLiterally_eq h, hname]
    refine (Bool.and_eq_false_iff.2 (Or.inr (decide_eq_false fun hwithin ↦ ?_)))
    refine squash_ne ((any_isSpecial_map h _).trans hspecial) (hwithin.eq_of_length ?_).symm
    exact le_antisymm hwithin.length_le (length_squash_le_length _)
  have hrows : (oneClient (shortest q hnul hle)).clients.rows = [c] := rfl
  rw [hrows, List.countP_singleton, List.countP_singleton, hfound, hmissed] at htotal
  cases htotal

/-- **Search is literal** exactly for texts without NUL that have no percent sign, underscore or
backslash, or of which the shortest match is too long for a name. -/
theorem searches_literally_iff (p : Platform) (fold : Char → Char) (h : p.FoldsBy fold)
    (q : String) : SearchesLiterally p q ↔
      nulFree q = true ∧ (q.toList.any isSpecial = false ∨ 200 < (squash q.toList).length) := by
  constructor
  · intro hliteral
    have hnul : nulFree q = true := by
      by_contra hnul
      have hrun := hliteral Listing.rootUser .empty 1 0 (by decide) (by decide)
      rw [Listing.run_listClients, Listing.answer, bindable_searchFor, if_neg hnul] at hrun
      cases hrun
    refine ⟨hnul, ?_⟩
    by_contra hq
    obtain ⟨hspecial, hle⟩ := not_or.1 hq
    exact not_searchesLiterally h hnul (Bool.of_not_eq_false hspecial) (not_lt.1 hle) hliteral
  · rintro ⟨hnul, hq⟩ user db limit offset hpage hoffset
    rw [run_searchFor hnul hpage hoffset, selects_eq_namesLiterally h hq]

/-- Capitals are folded to small letters, and neither are special. -/
theorem toLower_eq_iff {c d : Char} (hd : isSpecial d = true) : c.toLower = d ↔ c = d := by
  have hcode : d.toNat = 37 ∨ d.toNat = 95 ∨ d.toNat = 92 := by
    simp only [isSpecial, Bool.or_eq_true, decide_eq_true_eq] at hd
    rcases hd with (rfl | rfl) | rfl
    · exact Or.inl rfl
    · exact Or.inr (Or.inl rfl)
    · exact Or.inr (Or.inr rfl)
  delta Char.toLower
  split
  · next hcapital =>
    have hlow : 65 ≤ c.toNat := UInt32.le_iff_toNat_le.1 hcapital.1
    have hhigh : c.toNat ≤ 90 := UInt32.le_iff_toNat_le.1 hcapital.2
    have hsmall : (c.val + ('a'.val - 'A'.val)).toNat = c.toNat + 32 := by
      rw [UInt32.toNat_add]
      show (c.toNat + 32) % 2 ^ 32 = c.toNat + 32
      omega
    refine iff_of_false (fun h ↦ ?_) fun h ↦ ?_
    · have hn : (c.val + ('a'.val - 'A'.val)).toNat = d.toNat := congrArg Char.toNat h
      omega
    · rw [h] at hlow hhigh
      omega
  · exact Iff.rfl

theorem foldsBy_sample : Platform.sample.FoldsBy Char.toLower :=
  ⟨fun _ ↦ rfl, fun _ _ ↦ toLower_eq_iff⟩

/-- A search for a part of a name. -/
theorem searches_literally_ada : SearchesLiterally .sample "Ada" :=
  (searches_literally_iff .sample Char.toLower foldsBy_sample "Ada").2 ⟨by decide, by decide⟩

/-- **A search for an underscore** finds Ada. -/
theorem underscore_finds_ada :
    ¬SearchesLiterally .sample "_" ∧
      (ClientService.listClients .sample Listing.rootUser (searchFor "_" 1 0)).run
        (oneClient (.lit "Ada")) =
          .ok (([Listing.clientNamed 10 0 (.lit "Ada")], 1), oneClient (.lit "Ada")) := by
  exact ⟨not_searchesLiterally foldsBy_sample (by decide) (by decide) (by decide), rfl⟩

end ZanovixCrm
