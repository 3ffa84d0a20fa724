import ZanovixCrm.Domain.PayloadSanitizer

/-!
# Snapshots and the sender

The snapshot of a public request has the address of its sender only as a salted hash. But the header
that carries the address is itself on the list of the headers that are kept, and kept as it is. So
two requests that differ in the sender alone have the same snapshot, the hash apart, exactly if they
have the same last `X-Forwarded-For`, or none (`snapshot_anonymous_iff`).

Snapshots are JSON objects: what counts is what they have under each name, not in which order.
-/

namespace ZanovixCrm

namespace PayloadSanitizer

/-! ### What is kept -/

theorem lookup_map_replace (d : List (String × String)) (kv : String × String) (k : String) :
    (d.map fun x ↦ if x.1 == kv.1 then kv else x).lookup k =
      if k = kv.1 then (d.lookup k).map fun _ ↦ kv.2 else d.lookup k := by
  induction d with
  | nil => simp
  | cons x d ih =>
    rw [List.map_cons, List.lookup_cons, ih, List.lookup_cons]
    grind

theorem lookup_append_singleton (d : List (String × String)) (kv : String × String) (k : String) :
    (d ++ [kv]).lookup k = (d.lookup k).or (if k = kv.1 then some kv.2 else none) := by
  induction d with
  | nil =>
    rw [List.nil_append, List.lookup_cons, List.lookup_nil, Option.none_or]
    grind
  | cons x d ih =>
    rw [List.cons_append, List.lookup_cons, ih, List.lookup_cons]
    grind

theorem any_fst_beq (d : List (String × String)) (k : String) :
    d.any (·.1 == k) = (d.lookup k).isSome := by
  induction d with
  | nil => rfl
  | cons x d ih =>
    rw [List.any_cons, ih, List.lookup_cons]
    grind

theorem lookup_setKey (d : List (String × String)) (kv : String × String) (k : String) :
    (setKey d kv).lookup k = if k = kv.1 then some kv.2 else d.lookup k := by
  rw [setKey, any_fst_beq]
  split
  · next hd =>
    obtain ⟨v, hv⟩ := Option.isSome_iff_exists.1 hd
    rw [lookup_map_replace]
    by_cases hk : k = kv.1
    · rw [if_pos hk, if_pos hk, hk, hv, Option.map_some]
    · rw [if_neg hk, if_neg hk]
  · next hd =>
    rw [lookup_append_singleton]
    by_cases hk : k = kv.1
    · rw [if_pos hk, if_pos hk, hk, Option.not_isSome_iff_eq_none.1 hd, Option.none_or]
    · rw [if_neg hk, if_neg hk, Option.or_none]

/-- The last value wins. -/
theorem lookup_foldl_setKey (kvs d : List (String × String)) (k : String) :
    (kvs.foldl setKey d).lookup k =
      ((kvs.filter fun kv ↦ kv.1 == k).getLast?.map Prod.snd).or (d.lookup k) := by
  induction kvs generalizing d with
  | nil => rfl
  | cons kv kvs ih =>
    rw [List.foldl_cons, ih, lookup_setKey, List.filter_cons]
    by_cases hk : kv.1 = k
    · rw [if_pos hk.symm, if_pos (beq_iff_eq.2 hk), List.getLast?_cons, Option.map_some,
        Option.some_or]
      generalize (kvs.filter fun kv ↦ kv.1 == k).getLast? = last
      cases last with
      | none => rfl
      | some last => rfl
    · rw [if_neg (Ne.symm hk), if_neg (by rwa [beq_iff_eq])]

/-- The last value of a header, by its name in lower case. -/
def lastHeader (r : Inbound) (k : String) : Option String :=
  (r.headers.filter fun h ↦ lower h.1 == k).getLast?.map Prod.snd

/-- A snapshot has the last value of every header on the list, and of no other. -/
theorem lookup_filteredHeaders (r : Inbound) (k : String) :
    (filteredHeaders r).lookup k = if k ∈ headerAllowlist then lastHeader r k else none := by
  rw [filteredHeaders, lookup_foldl_setKey, List.lookup_nil, Option.or_none, List.filter_map,
    List.getLast?_map, Option.map_map, List.filter_filter, lastHeader]
  split
  · next hk =>
    have hf : (fun h : String × String ↦ ((fun kv : String × String ↦ kv.1 == k) ∘
        fun h ↦ (lower h.1, h.2)) h && decide (lower h.1 ∈ headerAllowlist)) =
        fun h ↦ lower h.1 == k := by
      funext h
      show (lower h.1 == k && decide (lower h.1 ∈ headerAllowlist)) = (lower h.1 == k)
      by_cases hh : lower h.1 = k
      · simp [hh, hk]
      · simp [hh]
    rw [hf]
    rfl
  · next hk =>
    rw [List.filter_eq_nil_iff.2]
    · rfl
    · intro h _ hh
      rw [Bool.and_eq_true] at hh
      have hn : lower h.1 = k := beq_iff_eq.1 hh.1
      exact hk (hn ▸ of_decide_eq_true hh.2)

/-- Only headers on the list are kept. -/
theorem fst_mem_headerAllowlist {r : Inbound} {h : String × String} (hh : h ∈ filteredHeaders r) :
    h.1 ∈ headerAllowlist := by
  have hany : (filteredHeaders r).any (·.1 == h.1) = true :=
    List.any_eq_true.2 ⟨h, hh, beq_self_eq_true h.1⟩
  rw [any_fst_beq, lookup_filteredHeaders] at hany
  by_contra hn
  rw [if_neg hn] at hany
  exact absurd hany Bool.false_ne_true

/-! ### Two senders -/

/-- The headers but `X-Forwarded-For`. -/
def otherHeaders (r : Inbound) : List (String × String) :=
  r.headers.filter fun h ↦ lower h.1 != "x-forwarded-for"

theorem lastHeader_eq_of_otherHeaders {r r' : Inbound} (h : otherHeaders r = otherHeaders r')
    {k : String} (hk : k ≠ "x-forwarded-for") : lastHeader r k = lastHeader r' k := by
  have hf (r : Inbound) : r.headers.filter (fun h ↦ lower h.1 == k) =
      (otherHeaders r).filter fun h ↦ lower h.1 == k := by
    rw [otherHeaders, List.filter_filter]
    refine List.filter_congr fun h _ ↦ ?_
    by_cases hh : lower h.1 = k
    · simp [hh, hk]
    · simp [hh]
  rw [lastHeader, lastHeader, hf r, hf r', h]

/-- The snapshots agree in everything but the hash of the address. -/
def SameButHash (a b : RawPayload) : Prop :=
  (∀ k, a.headers.lookup k = b.headers.lookup k) ∧ a.body = b.body ∧ a.ingestedAt = b.ingestedAt

/-- **Snapshots and the sender.** The snapshots of two requests with the same body at the same
instant, with the same headers but `X-Forwarded-For` and from whatever peers, agree in everything
but the hash exactly if the last `X-Forwarded-For` is the same; and no snapshot has a header that is
not on the list. -/
theorem snapshot_anonymous_iff (p : Platform) (s : Settings) (now : Time) (body : LeadCreate)
    (r r' : Inbound) (hsame : otherHeaders r = otherHeaders r') :
    (SameButHash (buildRawPayload p s now r body) (buildRawPayload p s now r' body) ∧
      ∀ (q : Inbound), ∀ h ∈ (buildRawPayload p s now q body).headers, h.1 ∈ headerAllowlist) ↔
    lastHeader r "x-forwarded-for" = lastHeader r' "x-forwarded-for" := by
  constructor
  · rintro ⟨⟨hkept, -, -⟩, -⟩
    have hxff := hkept "x-forwarded-for"
    rwa [buildRawPayload, buildRawPayload, lookup_filteredHeaders, lookup_filteredHeaders,
      if_pos (by decide), if_pos (by decide)] at hxff
  · intro hxff
    refine ⟨⟨fun k ↦ ?_, rfl, rfl⟩, fun q h hh ↦ fst_mem_headerAllowlist hh⟩
    have hlast : lastHeader r k = lastHeader r' k := by
      by_cases hk : k = "x-forwarded-for"
      · rw [hk, hxff]
      · exact lastHeader_eq_of_otherHeaders hsame hk
    rw [buildRawPayload, buildRawPayload, lookup_filteredHeaders, lookup_filteredHeaders, hlast]

/-- A lead. -/
def adasLead : LeadCreate :=
  ⟨"Ada", "ada@example.com", none, none, .general, .webForm, none, none, none⟩

/-- A request that comes from somewhere, with `X-Forwarded-For` if its proxy says so. -/
def sentFrom (peer : String) (forwardedFor : Option String) : Inbound where
  headers := ("User-Agent", "curl/8.5.0") ::
    ("Cookie", "session=1") :: (forwardedFor.map fun ip ↦ ("X-Forwarded-For", ip)).toList
  peer := some peer

/-- Two peers, without a proxy. -/
theorem snapshot_anonymous_direct :
    SameButHash (buildRawPayload .sample .sample 0 (sentFrom "203.0.113.7" none) adasLead)
        (buildRawPayload .sample .sample 0 (sentFrom "198.51.100.9" none) adasLead) ∧
      ∀ (q : Inbound), ∀ h ∈ (buildRawPayload .sample .sample 0 q adasLead).headers,
        h.1 ∈ headerAllowlist :=
  (snapshot_anonymous_iff .sample .sample 0 adasLead (sentFrom "203.0.113.7" none)
    (sentFrom "198.51.100.9" none) (by decide)).2 (by decide)

/-- **Two senders behind a proxy** that says where the requests come from: each snapshot has the
address of its sender in clear. -/
theorem snapshot_names_sender :
    otherHeaders (sentFrom "10.0.0.1" (some "203.0.113.7")) =
        otherHeaders (sentFrom "10.0.0.1" (some "198.51.100.9")) ∧
      ¬SameButHash
        (buildRawPayload .sample .sample 0 (sentFrom "10.0.0.1" (some "203.0.113.7")) adasLead)
        (buildRawPayload .sample .sample 0 (sentFrom "10.0.0.1" (some "198.51.100.9")) adasLead) ∧
      (buildRawPayload .sample .sample 0 (sentFrom "10.0.0.1" (some "203.0.113.7"))
        adasLead).headers = [("user-agent", "curl/8.5.0"), ("x-forwarded-for", "203.0.113.7")] := by
  refine ⟨by decide, fun h ↦ ?_, by decide⟩
  exact absurd (h.1 "x-forwarded-for") (by decide)

end PayloadSanitizer

end ZanovixCrm
