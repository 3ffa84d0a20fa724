import ZanovixCrm.AdminPanel.Filters

/-!
# The filters of the panel reach the services

A filter that is typed into the panel goes through JavaScript, a URL and Python before a service
sees it. It arrives character by character (`request_eq`), whatever characters it has: plus signs,
ampersands, percent signs, characters outside ASCII. Numbers arrive as numbers, so that the service
is called with exactly the filters that the panel was given (`filters_arrive`).

`getMyMessages` does not use `URLSearchParams` but puts its parameter into the URL by hand;
`encodeURIComponent` makes that safe (`since_arrives`).
-/

namespace ZanovixCrm

/-! ### Parameters -/

theorem lookup_map {α β γ δ : Type} [BEq α] [LawfulBEq α] [BEq γ] [LawfulBEq γ] {f : α → γ}
    (g : β → δ) (hf : Function.Injective f) (l : List (α × β)) (a : α) :
    (l.map fun p ↦ (f p.1, g p.2)).lookup (f a) = (l.lookup a).map g := by
  induction l with
  | nil => rfl
  | cons p l ih =>
    rw [List.map_cons, List.lookup_cons, List.lookup_cons, ih]
    by_cases h : a = p.1
    · rw [beq_iff_eq.2 h, beq_iff_eq.2 (congrArg f h)]
      rfl
    · rw [beq_eq_false_iff_ne.2 h, beq_eq_false_iff_ne.2 fun heq ↦ h (hf heq)]

/-- With distinct names it does not matter whether the first value counts or the last. -/
theorem lookup_reverse {α β : Type} [BEq α] [LawfulBEq α] {l : List (α × β)}
    (h : (l.map Prod.fst).Nodup) (a : α) : l.reverse.lookup a = l.lookup a := by
  induction l with
  | nil => rfl
  | cons p l ih =>
    rw [List.map_cons, List.nodup_cons] at h
    rw [List.reverse_cons, List.lookup_append, ih h.2, List.lookup_cons, List.lookup_cons]
    by_cases hp : a = p.1
    · have hnone : l.lookup a = none := by
        refine List.lookup_eq_none_iff.2 fun q hq ↦ ?_
        rw [bne_iff_ne]
        rintro rfl
        exact h.1 (hp ▸ List.mem_map_of_mem hq)
      rw [beq_iff_eq.2 hp, hnone]
      rfl
    · rw [beq_eq_false_iff_ne.2 hp]
      exact Option.or_none

theorem nodup_present {params : List (String × Option String)}
    (h : (params.map Prod.fst).Nodup) : ((present params).map Prod.fst).Nodup := by
  refine h.sublist ?_
  clear h
  induction params with
  | nil => exact List.Sublist.slnil
  | cons p params ih =>
    rcases hp : p.2 with - | value
    · rw [present, List.filterMap_cons_none (by rw [hp]; rfl)]
      exact ih.trans (List.sublist_cons_self _ _)
    · rw [present, List.filterMap_cons_some (by rw [hp]; rfl)]
      exact ih.cons_cons p.1

theorem lookup_present {params : List (String × Option String)}
    (h : (params.map Prod.fst).Nodup) (name : String) :
    (present params).lookup name = (params.lookup name).join := by
  induction params with
  | nil => rfl
  | cons p params ih =>
    obtain ⟨key, value⟩ := p
    rw [List.map_cons, List.nodup_cons] at h
    have ih := ih h.2
    by_cases hname : name = key
    · subst hname
      rw [List.lookup_cons_self]
      cases value with
      | none =>
        have hnone : params.lookup name = none := by
          refine List.lookup_eq_none_iff.2 fun q hq ↦ ?_
          rw [bne_iff_ne]
          rintro rfl
          exact h.1 (List.mem_map.2 ⟨q, hq, rfl⟩)
        rw [hnone] at ih
        exact ih
      | some value => exact List.lookup_cons_self
    · rw [List.lookup_cons, beq_eq_false_iff_ne.2 hname]
      cases value with
      | none => exact ih
      | some value =>
        change ((key, value) :: present params).lookup name = _
        rw [List.lookup_cons, beq_eq_false_iff_ne.2 hname]
        exact ih

/-- **A parameter that is set is read**, and one that is not set is not there. -/
theorem param_searchParams {params : List (String × Option String)}
    (h : (params.map Prod.fst).Nodup) (name : String) :
    param (urlQuery (searchParams params)) name = (params.lookup name).join := by
  have hscalar : ∀ p ∈ (present params).map fun p ↦ (PyStr.ofString p.1, PyStr.ofString p.2),
      (∀ c ∈ p.1, IsScalar c) ∧ ∀ c ∈ p.2, IsScalar c := by
    intro p hp
    obtain ⟨q, -, rfl⟩ := List.mem_map.1 hp
    exact ⟨fun c hc ↦ PyStr.isScalar_of_mem hc, fun c hc ↦ PyStr.isScalar_of_mem hc⟩
  have hinverse : PyStr.text ∘ PyStr.ofString = id := funext PyStr.text_ofString
  rw [param, queryParam, searchParams, urlQuery_serialize hscalar, parseQsl_serialize hscalar,
    ← List.map_reverse, lookup_map PyStr.ofString PyStr.ofString_injective, Option.map_map,
    lookup_reverse (nodup_present h), hinverse, Option.map_id, lookup_present h]
  rfl

/-! ### Numbers -/

/-- An ASCII digit, as Python sees it. -/
theorem decimal?_of_isDigit {c : Char} (h : c.isDigit = true) :
    Python.decimal? c = some (c.toNat - 48) ∧ Python.isSpace c = false ∧ c ≠ '_' ∧ c ≠ '-' ∧
      c ≠ '+' := by
  obtain ⟨hlow, hhigh⟩ : 48 ≤ c.toNat ∧ c.toNat ≤ 57 := by
    simpa [Char.isDigit, UInt32.le_iff_toNat_le] using h
  refine ⟨?_, ?_, ?_, ?_, ?_⟩
  · have hzero : Python.decimalZeros.find?
        (fun z ↦ decide (z ≤ c.toNat ∧ c.toNat < z + 10)) = some 48 :=
      List.find?_cons_of_pos (decide_eq_true ⟨hlow, Nat.lt_succ_of_le hhigh⟩)
    rw [Python.decimal?, hzero]
    rfl
  · simp only [Python.isSpace, List.mem_cons, List.not_mem_nil, or_false, Bool.or_eq_false_iff,
      decide_eq_false_iff_not, Bool.and_eq_false_iff]
    omega
  all_goals
    rintro rfl
    revert h
    decide

theorem isDigitChar_of_isDigit {c : Char} (h : c.isDigit = true) : Python.isDigitChar c = true := by
  rw [Python.isDigitChar, (decimal?_of_isDigit h).1]
  rfl

theorem isIntSpace_of_isDigit {c : Char} (h : c.isDigit = true) : Python.isIntSpace c = false := by
  rw [Python.isIntSpace, (decimal?_of_isDigit h).2.1]
  rfl

/-- The digits of a number are ASCII digits. -/
theorem isDigit_of_mem {n : ℕ} {c : Char} (hc : c ∈ Nat.toDigits 10 n) : c.isDigit = true :=
  Nat.isDigit_of_mem_toDigits (by decide) (by decide) hc

theorem digits?_of_isDigit {cs : List Char} (h : ∀ c ∈ cs, c.isDigit = true) (value count : ℕ) :
    Python.digits? cs value count true =
      some (Nat.ofDigitChars 10 cs value, count + cs.length) := by
  induction cs generalizing value count with
  | nil => rfl
  | cons c cs ih =>
    obtain ⟨hdecimal, -, hunderscore, -⟩ := decimal?_of_isDigit (h c List.mem_cons_self)
    rw [Python.digits?, if_neg hunderscore, hdecimal]
    dsimp only
    rw [ih fun x hx ↦ h x (List.mem_cons_of_mem c hx), Nat.ofDigitChars_cons, List.length_cons,
      Nat.mul_comm]
    congr 2
    omega

theorem natural?_toDigits {n : ℕ} (h : n ≤ JsNumber.maxExact) :
    Python.natural? (Nat.toDigits 10 n) = some n := by
  have hlength : (Nat.toDigits 10 n).length ≤ 16 :=
    (Nat.length_toDigits_le_iff (by decide) (by decide)).2 (h.trans_lt (by decide))
  have hvalue : Nat.ofDigitChars 10 (Nat.toDigits 10 n) 0 = n := Nat.ofDigitChars_ten_toDigits
  have hdigit : ∀ c ∈ Nat.toDigits 10 n, c.isDigit = true := fun c ↦ isDigit_of_mem
  rcases hcs : Nat.toDigits 10 n with - | ⟨c, cs⟩
  · exact absurd hcs Nat.toDigits_ne_nil
  rw [hcs] at hlength hvalue hdigit
  obtain ⟨hdecimal, -, hunderscore, -⟩ := decimal?_of_isDigit (hdigit c List.mem_cons_self)
  rw [Python.natural?, Python.digits?, if_neg hunderscore, hdecimal]
  dsimp only
  rw [digits?_of_isDigit fun x hx ↦ hdigit x (List.mem_cons_of_mem c hx)]
  rw [Nat.ofDigitChars_cons] at hvalue
  rw [List.length_cons] at hlength
  have hmax : 1 + cs.length ≤ Python.maxStrDigits := by
    rw [Python.maxStrDigits]
    omega
  change (if 1 + cs.length ≤ Python.maxStrDigits then some _ else none) = _
  rw [if_pos hmax]
  exact congrArg some hvalue

theorem toList_text (n : JsNumber.Whole) : n.text.toList =
    if n.val < 0 then '-' :: Nat.toDigits 10 n.val.natAbs else Nat.toDigits 10 n.val.natAbs := by
  rw [JsNumber.Whole.text, Int.toString_eq_repr, Int.repr_eq_if]
  by_cases hneg : n.val < 0
  · have habs : (-n.val).toNat = n.val.natAbs := by omega
    rw [if_pos hneg, if_neg (by omega), habs, String.toList_append, Nat.toList_repr]
    rfl
  · have habs : n.val.toNat = n.val.natAbs := by omega
    rw [if_neg hneg, if_pos (by omega), habs, Nat.toList_repr]

/-- `int` reads what `String` writes. -/
theorem int?_text (n : JsNumber.Whole) : Python.int? n.text = some n.val := by
  rw [Python.int?, toList_text]
  by_cases hneg : n.val < 0
  · have htrim : Python.trim Python.isIntSpace ('-' :: Nat.toDigits 10 n.val.natAbs) =
        '-' :: Nat.toDigits 10 n.val.natAbs := by
      refine Python.trim_eq_self fun c hc ↦ ?_
      rcases List.mem_cons.1 hc with rfl | hc
      · rfl
      · exact isIntSpace_of_isDigit (isDigit_of_mem hc)
    have hvalue : -(n.val.natAbs : ℤ) = n.val := by omega
    rw [if_pos hneg, htrim]
    change Option.map _ (Python.natural? _ >>= _) = _
    rw [natural?_toDigits n.bound]
    exact congrArg some hvalue
  · rw [if_neg hneg, Python.trim_eq_self fun c hc ↦ isIntSpace_of_isDigit (isDigit_of_mem hc)]
    have hsign : ∀ c ∈ Nat.toDigits 10 n.val.natAbs, c ≠ '-' ∧ c ≠ '+' :=
      fun c hc ↦ (decimal?_of_isDigit (isDigit_of_mem hc)).2.2.2
    split
    · next cs heq => exact absurd rfl (hsign '-' (heq ▸ List.mem_cons_self)).1
    · next cs heq => exact absurd rfl (hsign '+' (heq ▸ List.mem_cons_self)).2
    · rw [natural?_toDigits n.bound]
      have hvalue : (n.val.natAbs : ℤ) = n.val := by omega
      exact congrArg some hvalue

theorem isDigit_text {n : JsNumber.Whole} (h : 0 ≤ n.val) : Python.isDigit n.text = true := by
  rw [Python.isDigit, toList_text, if_neg (Int.not_lt.2 h), Bool.and_eq_true]
  constructor
  · rw [List.isEmpty_eq_false_iff.2 Nat.toDigits_ne_nil, Bool.not_false]
  · exact List.all_eq_true.2 fun c hc ↦ isDigitChar_of_isDigit (isDigit_of_mem hc)

/-! ### Calls -/

/-- The limit and the offset of a call. -/
def ListCall.page : ListCall → Option JsNumber.Whole × Option JsNumber.Whole
  | .listLeads f => (f.limit, f.offset)
  | .getClients f => (f.limit, f.offset)
  | .getServices f => (f.limit, f.offset)
  | .getActivity f => (f.limit, f.offset)

/-- A page that the routes serve. -/
structure ListCall.PageOk (call : ListCall) : Prop where
  limit : ∀ l ∈ call.page.1, 1 ≤ l.val ∧ l.val ≤ 200
  offset : ∀ o ∈ call.page.2, 0 ≤ o.val

/-- The limit that is asked for, or the default. -/
def limitOf (limit : Option JsNumber.Whole) : ℤ := limit.elim 50 (·.val)

/-- The offset that is asked for, or the default. -/
def offsetOf (offset : Option JsNumber.Whole) : ℤ := offset.elim 0 (·.val)

/-- The texts of a limit and an offset are read as the numbers. -/
theorem rawPage_text {limit : Option JsNumber.Whole}
    (hlimit : ∀ l ∈ limit, 1 ≤ l.val ∧ l.val ≤ 200) (offset : Option JsNumber.Whole) :
    (⟨limit.map (·.text), offset.map (·.text)⟩ : RawPage).limit? = .ok (limitOf limit) ∧
      (⟨limit.map (·.text), offset.map (·.text)⟩ : RawPage).offset? =
        .ok (offsetOf offset) := by
  constructor
  · cases limit with
    | none => rfl
    | some l =>
      obtain ⟨hlow, hhigh⟩ := hlimit l rfl
      have hmax : ¬(Option.any (fun n ↦ decide (RawPage.maxLimit < n)) (some l.val) = true) := by
        rw [Option.any_some, decide_eq_true_iff]
        exact Int.not_lt.2 hhigh
      rw [RawPage.limit?, Option.map_some]
      dsimp only
      rw [int?_text, if_neg hmax, if_pos (isDigit_text (by omega))]
      rfl
  · cases offset with
    | none => rfl
    | some o =>
      rw [RawPage.offset?, Option.map_some]
      dsimp only
      rw [int?_text]
      rfl

theorem nodup_params (call : ListCall) : (call.params.map Prod.fst).Nodup := by
  cases call with
  | listLeads f =>
    show ["vertical", "channel", "status", "limit", "offset"].Nodup
    decide
  | getClients f =>
    show ["stage", "owner_id", "sector", "q", "limit", "offset"].Nodup
    decide
  | getServices f =>
    show ["client_id", "owner_id", "state", "type", "limit", "offset"].Nodup
    decide
  | getActivity f =>
    show ["limit", "offset", "client_id"].Nodup
    decide

/-- **The request that arrives is the one that was meant**: each filter under its name, character
by character, and nothing else. An empty filter is no filter. -/
theorem request_eq (call : ListCall) :
    call.request = match call with
      | .listLeads f => .listLeads
        ⟨nonEmpty f.vertical, nonEmpty f.channel, nonEmpty f.status,
          ⟨f.limit.map (·.text), f.offset.map (·.text)⟩⟩
      | .getClients f => .listClients
        ⟨nonEmpty f.stage, nonEmpty f.ownerId, nonEmpty f.sector, nonEmpty f.q,
          ⟨f.limit.map (·.text), f.offset.map (·.text)⟩⟩
      | .getServices f => .listServices
        ⟨nonEmpty f.clientId, nonEmpty f.ownerId, nonEmpty f.state, nonEmpty f.type,
          ⟨f.limit.map (·.text), f.offset.map (·.text)⟩⟩
      | .getActivity f => .getActivity (nonEmpty f.clientId)
        ⟨f.limit.map (·.text), f.offset.map (·.text)⟩ := by
  have h := param_searchParams (nodup_params call)
  cases call <;> simp only [ListCall.request, ListCall.query, LeadQuery.ofQuery,
    ClientQuery.ofQuery, ServiceQuery.ofQuery, RawPage.ofQuery, h] <;> rfl

theorem pageOk_of_bounds {limit offset : Option JsNumber.Whole}
    (hlimit : ∀ l ∈ limit, 1 ≤ l.val ∧ l.val ≤ 200) (hoffset : ∀ o ∈ offset, 0 ≤ o.val) :
    checkPage (limitOf limit) (offsetOf offset) = .ok () := by
  have hl : 1 ≤ limitOf limit ∧ limitOf limit ≤ 200 := by
    cases limit with
    | none => decide
    | some l => exact hlimit l rfl
  have ho : 0 ≤ offsetOf offset := by
    cases offset with
    | none => decide
    | some o => exact hoffset o rfl
  exact if_pos (decide_eq_true ⟨hl.1, hl.2, ho⟩)

/-- **The services get the filters that the panel was given.** -/
theorem filters_arrive (p : Platform) (call : ListCall) (hpage : call.PageOk) :
    match call with
    | .listLeads f => ∃ query, call.request = .listLeads query ∧
      ∀ vertical channel status, parseOpt TextEnum.ofText? (nonEmpty f.vertical) = .ok vertical →
        parseOpt TextEnum.ofText? (nonEmpty f.channel) = .ok channel →
        parseOpt TextEnum.ofText? (nonEmpty f.status) = .ok status →
        query.bind = .ok ⟨vertical, channel, status, limitOf f.limit, offsetOf f.offset⟩
    | .getClients f => ∃ query, call.request = .listClients query ∧
      ∀ ownerId, parseOpt p.pydanticUUID (nonEmpty f.ownerId) = .ok ownerId →
        query.bind p = .ok ⟨nonEmpty f.stage, ownerId, nonEmpty f.sector, nonEmpty f.q,
          limitOf f.limit, offsetOf f.offset⟩
    | .getServices f => ∃ query, call.request = .listServices query ∧
      ∀ clientId ownerId, parseOpt p.pydanticUUID (nonEmpty f.clientId) = .ok clientId →
        parseOpt p.pydanticUUID (nonEmpty f.ownerId) = .ok ownerId →
        query.bind p = .ok ⟨nonEmpty f.state, clientId, ownerId, nonEmpty f.type,
          limitOf f.limit, offsetOf f.offset⟩
    | .getActivity f => ∃ page, call.request = .getActivity (nonEmpty f.clientId) page ∧
      page.limit? = .ok (limitOf f.limit) ∧ page.offset? = .ok (offsetOf f.offset) := by
  have hrequest := request_eq call
  have hraw := rawPage_text hpage.limit call.page.2
  have hcheck := pageOk_of_bounds hpage.limit hpage.offset
  cases call with
  | listLeads f =>
    refine ⟨_, hrequest, fun vertical channel status hvertical hchannel hstatus ↦ ?_⟩
    rw [LeadQuery.bind]
    dsimp only [ListCall.page] at hraw hcheck ⊢
    rw [hraw.1, hraw.2, hvertical, hchannel, hstatus]
    dsimp only [Bind.bind, Except.bind]
    rw [hcheck]
    rfl
  | getClients f =>
    refine ⟨_, hrequest, fun ownerId howner ↦ ?_⟩
    rw [ClientQuery.bind]
    dsimp only [ListCall.page] at hraw hcheck ⊢
    rw [hraw.1, hraw.2, howner]
    dsimp only [Bind.bind, Except.bind]
    rw [hcheck]
    rfl
  | getServices f =>
    refine ⟨_, hrequest, fun clientId ownerId hclient howner ↦ ?_⟩
    rw [ServiceQuery.bind]
    dsimp only [ListCall.page] at hraw hcheck ⊢
    rw [hraw.1, hraw.2, hclient, howner]
    dsimp only [Bind.bind, Except.bind]
    rw [hcheck]
    rfl
  | getActivity f => exact ⟨_, hrequest, hraw⟩

theorem filters_arrive_example :
    ∃ query, (ListCall.getClients ⟨none, some "", none, some "a+b & c=100% ñ",
        some ⟨20, by decide⟩, none⟩).request = .listClients query ∧
      query.bind Platform.sample = .ok ⟨none, none, none, some "a+b & c=100% ñ", 20, 0⟩ := by
  have hpage : (ListCall.getClients ⟨none, some "", none, some "a+b & c=100% ñ",
      some ⟨20, by decide⟩, none⟩).PageOk := by
    refine ⟨fun l hl ↦ ?_, fun o ho ↦ nomatch ho⟩
    rw [← Option.some.inj hl]
    decide
  obtain ⟨query, hrequest, hbind⟩ := filters_arrive Platform.sample _ hpage
  exact ⟨query, hrequest, hbind none rfl⟩

/-- **`since` arrives as it was given**, though it is put into the URL by hand. -/
theorem since_arrives (since : Option String) :
    param (messagesQuery since) "since" = nonEmpty since := by
  unfold messagesQuery
  split
  · next since hsince =>
    have hscalar : ∀ c ∈ PyStr.ofString since, IsScalar c := fun c hc ↦ PyStr.isScalar_of_mem hc
    have hname : urlQuery (PyStr.ofString "since" ++ 0x3d :: encodeURIComponent
        (PyStr.ofString since)) = PyStr.ofString "since" ++
          0x3d :: urlQuery (encodeURIComponent (PyStr.ofString since)) := by
      rw [urlQuery_append]
      rfl
    rw [param, queryParam, hname, parseQsl_component (by decide) hscalar, hsince]
    change Option.map PyStr.text (List.lookup _ [(unquotePlus (PyStr.ofString "since"), _)]) = _
    have hsince' : unquotePlus (PyStr.ofString "since") = PyStr.ofString "since" := rfl
    rw [hsince', List.lookup_cons_self, Option.map_some, PyStr.text_ofString]
  · next hnone =>
    rw [hnone]
    rfl

end ZanovixCrm
