import ZanovixCrm.AdminPanel.ChatPage
import ZanovixCrm.Library.Transitions

/-!
# The chat shows the thread

Three writers share one list and one cursor. Each of them appends what the server has sent and moves
the cursor to the end of it, as if nobody else had written in the meantime. Then a message that was
committed before one's own is passed over (`chat_passesOver`), and one that two requests have
fetched is shown twice.

What the page shows is right at a moment if it is a beginning of the thread (`Chat.shows_iff`). It
remains right as long as every answer, when it arrives, has what comes next (`Chat.InTurn`), and
from the first answer that has not it is not right (`chat_shows_iff`).
-/

namespace ZanovixCrm

namespace Chat

/-- **The page shows the thread**: no message twice, all in order, and none missing up to the
cursor. -/
structure Shows (c : Chat) : Prop where
  once : c.page.messages.Nodup
  ordered : c.page.messages.Pairwise fun a b ↦ a.createdAt ≤ b.createdAt
  complete : ∀ m ∈ c.thread, ∀ t, c.page.sinceRef = some t → m.createdAt ≤ t → m ∈ c.page.messages

/-- The messages of the thread that are ahead of the cursor. -/
def next (c : Chat) : List Message :=
  c.thread.filter (Reader.due Message.createdAt c.page.sinceRef)

/-- **What arrives is what comes next.** Of a fetch, only one call waits for it, and its items are
the first ones ahead of the cursor, unless the initial load replaces the list by them; of a message
that has been sent, it is the first one ahead of the cursor. -/
def InTurn (c : Chat) : ChatEvent → Prop
  | .deliverFetch i => ∀ f ∈ c.fetches[i]?, ∀ items ∈ f.answer,
      items = [] ∨ f.callers = 1 ∧ (f.initial = true ∨ items <+: c.next)
  | .deliverSend i => ∀ q ∈ c.sendings[i]?, ∀ m ∈ q.answer, [m] <+: c.next
  | _ => True

instance (c : Chat) : (e : ChatEvent) → Decidable (c.InTurn e)
  | .deliverFetch i => inferInstanceAs (Decidable (∀ f ∈ c.fetches[i]?, ∀ items ∈ f.answer,
      items = [] ∨ f.callers = 1 ∧ (f.initial = true ∨ items <+: c.next)))
  | .deliverSend i =>
    inferInstanceAs (Decidable (∀ q ∈ c.sendings[i]?, ∀ m ∈ q.answer, [m] <+: c.next))
  | .commit _ | .tick _ | .answerFetch _ | .failFetch _ | .send _ | .answerSend _ _ | .failSend _ =>
    isTrue trivial

/-- What holds at every moment, in turn or not. -/
structure Sound (c : Chat) : Prop where
  thread : c.thread.Pairwise fun a b ↦ a.createdAt < b.createdAt
  /-- The cursor is at the end of the list. -/
  cursor : c.page.sinceRef = c.page.messages.getLast?.map Message.createdAt
  shown : ∀ m ∈ c.page.messages, m ∈ c.thread
  /-- What has been fetched is still what came next then. -/
  fetched : ∀ f ∈ c.fetches, ∀ items ∈ f.answer,
    items <+: c.thread.filter (Reader.due Message.createdAt f.since)
  waiting : ∀ f ∈ c.fetches, if f.initial then f.since = none else 0 < f.polls
  sent : ∀ q ∈ c.sendings, ∀ m ∈ q.answer, m ∈ c.thread

section Receive

variable {page : ChatPage} {items : List Message}

@[simp] theorem receive_nil (initial : Bool) : page.receive initial [] = page := rfl

theorem receive_of_ne_nil (hne : items ≠ []) (initial : Bool) :
    page.receive initial items =
      ⟨if initial then items else page.messages ++ items,
        items.getLast?.map Message.createdAt⟩ := by
  rw [ChatPage.receive, List.getLast?_eq_some_getLast hne]
  rfl

theorem deliver_nil (f : Fetch) : f.deliver [] page = page := by
  have hid : ChatPage.receive false [] = id := rfl
  rw [Fetch.deliver, hid, Function.iterate_id, receive_nil, ite_self]
  rfl

theorem callers_of_initial {f : Fetch} (h : f.initial = true) : f.callers = 1 + f.polls := by
  rw [Fetch.callers, if_pos h]

theorem callers_of_poll {f : Fetch} (h : f.initial = false) : f.callers = f.polls := by
  rw [Fetch.callers, h]
  exact Nat.zero_add _

theorem deliver_initial {f : Fetch} (hne : items ≠ []) (hinitial : f.initial = true)
    (hpolls : f.polls = 0) :
    f.deliver items page = ⟨items, items.getLast?.map Message.createdAt⟩ := by
  rw [Fetch.deliver, hpolls, hinitial, if_pos rfl, receive_of_ne_nil hne]
  rfl

theorem deliver_poll {f : Fetch} (hne : items ≠ []) (hinitial : f.initial = false)
    (hpolls : f.polls = 1) :
    f.deliver items page = ⟨page.messages ++ items, items.getLast?.map Message.createdAt⟩ := by
  rw [Fetch.deliver, hpolls, hinitial]
  exact receive_of_ne_nil hne false

/-- The list after several polls. -/
theorem messages_iterate (hne : items ≠ []) (n : ℕ) :
    ((ChatPage.receive false items)^[n] page).messages =
      page.messages ++ (List.replicate n items).flatten := by
  induction n generalizing page with
  | zero => exact (List.append_nil _).symm
  | succ n ih =>
    rw [Function.iterate_succ_apply, ih, receive_of_ne_nil hne, List.replicate_succ,
      List.flatten_cons, ← List.append_assoc]
    rfl

/-- **Two calls that wait for the same items** show them twice. -/
theorem not_nodup_deliver {f : Fetch} (hne : items ≠ []) (hcallers : 1 < f.callers) :
    ¬(f.deliver items page).messages.Nodup := by
  obtain ⟨m, hm⟩ := List.exists_mem_of_ne_nil items hne
  have htwice : ∀ l : List Message, ¬(l ++ items ++ items).Nodup := fun l hnodup ↦
    (List.nodup_append.1 hnodup).2.2 m (List.mem_append_right l hm) m hm rfl
  rw [Fetch.deliver, messages_iterate hne]
  intro hnodup
  rcases hinitial : f.initial with - | -
  · rw [callers_of_poll hinitial] at hcallers
    obtain ⟨n, hn⟩ : ∃ n, f.polls = n + 2 := ⟨f.polls - 2, by omega⟩
    rw [hn, List.replicate_succ, List.replicate_succ, List.flatten_cons, List.flatten_cons,
      ← List.append_assoc, ← List.append_assoc] at hnodup
    exact htwice _ (List.nodup_append.1 hnodup).1
  · rw [callers_of_initial hinitial] at hcallers
    obtain ⟨n, hn⟩ : ∃ n, f.polls = n + 1 := ⟨f.polls - 1, by omega⟩
    rw [hn, List.replicate_succ, List.flatten_cons, ← List.append_assoc, if_pos hinitial,
      receive_of_ne_nil hne] at hnodup
    exact htwice [] (List.nodup_append.1 hnodup).1

end Receive

section Sound

variable {c : Chat}

/-- A cursor at the end of a beginning of the thread parts the thread there. -/
theorem thread_eq_append_next (h : c.Sound) (hshown : c.page.messages <+: c.thread) :
    c.thread = c.page.messages ++ c.next := by
  obtain ⟨rest, hrest⟩ := hshown
  obtain ⟨hshown, -, hlater⟩ := List.pairwise_append.1 (hrest.symm ▸ h.thread)
  have hnext : c.next = rest := by
    rw [next, ← hrest, h.cursor, List.filter_append]
    rcases List.eq_nil_or_concat' c.page.messages with hnil | ⟨l, last, hconcat⟩
    · rw [hnil]
      exact List.filter_eq_self.2 fun m _ ↦ Reader.due_none m
    · rw [hconcat, List.pairwise_append] at hshown
      rw [hconcat, List.getLast?_concat, Option.map_some]
      have hpassed : (l ++ [last]).filter
          (Reader.due Message.createdAt (some last.createdAt)) = [] := by
        refine List.filter_eq_nil_iff.2 fun m hm hdue ↦ ?_
        rw [Reader.due_some] at hdue
        rcases List.mem_append.1 hm with hm | hm
        · have hlt := hshown.2.2 m hm last (List.mem_singleton_self last)
          exact absurd hdue (lt_asymm hlt)
        · rw [List.mem_singleton.1 hm] at hdue
          exact lt_irrefl _ hdue
      have hahead : rest.filter (Reader.due Message.createdAt (some last.createdAt)) = rest :=
        List.filter_eq_self.2 fun m hm ↦
          Reader.due_some.2 (hlater last (hconcat ▸ List.mem_concat_self) m hm)
      rw [hpassed, hahead]
      rfl
  rw [hnext, hrest]

/-- **The page shows the thread if it shows a beginning of it**, and only then. -/
theorem shows_iff (h : c.Sound) : c.Shows ↔ c.page.messages <+: c.thread := by
  constructor
  · intro hs
    have hinj : ∀ a ∈ c.thread, ∀ b ∈ c.thread, a.createdAt = b.createdAt → a = b := by
      have hnodup : (c.thread.map Message.createdAt).Nodup :=
        List.pairwise_map.2 (h.thread.imp ne_of_lt)
      exact fun a ha b hb ↦ List.inj_on_of_nodup_map hnodup ha hb
    have hstrict : c.page.messages.Pairwise fun a b ↦ a.createdAt < b.createdAt := by
      refine (hs.ordered.and hs.once).imp_of_mem fun {a b} ha hb ⟨hle, hne⟩ ↦ ?_
      exact lt_of_le_of_ne hle fun heq ↦ hne (hinj a (h.shown a ha) b (h.shown b hb) heq)
    refine isPrefix_of_noGaps h.thread hstrict h.shown fun m hm x hx hlt ↦ ?_
    rcases List.eq_nil_or_concat' c.page.messages with hnil | ⟨l, last, hl⟩
    · rw [hnil] at hx
      exact nomatch hx
    · have hcursor : c.page.sinceRef = some last.createdAt := by
        rw [h.cursor, hl, List.getLast?_concat]
        rfl
      refine hs.complete m hm last.createdAt hcursor (hlt.le.trans ?_)
      have hordered := hs.ordered
      rw [hl] at hx hordered
      rcases List.mem_append.1 hx with hx | hx
      · exact (List.pairwise_append.1 hordered).2.2 x hx last (List.mem_singleton_self last)
      · rw [List.mem_singleton.1 hx]
  · intro hshown
    have hsorted := h.thread.sublist hshown.sublist
    refine ⟨hsorted.imp fun {a b} hlt heq ↦ ?_, hsorted.imp le_of_lt, fun m hm t ht hle ↦ ?_⟩
    · rw [heq] at hlt
      exact lt_irrefl _ hlt
    · rw [thread_eq_append_next h hshown, List.mem_append] at hm
      refine hm.resolve_right fun hnext ↦ ?_
      have hdue := (List.mem_filter.1 hnext).2
      rw [ht, Reader.due_some] at hdue
      exact absurd hdue (not_lt.2 hle)

/-! ### One event -/

/-- Another message at the end of the thread. -/
theorem Sound.commit (h : c.Sound) {m : Message} (hm : c.isNewest m = true)
    {sendings : List Sending}
    (hsent : ∀ q ∈ sendings, ∀ m' ∈ q.answer, m' ∈ c.thread ∨ m' = m) :
    Sound { c with thread := c.thread ++ [m], sendings := sendings } where
  thread := by
    refine List.pairwise_append.2 ⟨h.thread, List.pairwise_singleton _ _, fun x hx y hy ↦ ?_⟩
    rw [List.mem_singleton.1 hy]
    exact of_decide_eq_true (List.all_eq_true.1 hm x hx)
  cursor := h.cursor
  shown x hx := List.mem_append_left _ (h.shown x hx)
  fetched f hf items hitems := by
    rw [List.filter_append]
    exact (h.fetched f hf items hitems).trans (List.prefix_append _ _)
  waiting := h.waiting
  sent q hq m' hm' := by
    rcases hsent q hq m' hm' with hold | rfl
    · exact List.mem_append_left _ hold
    · exact List.mem_append_right _ (List.mem_singleton_self m')

/-- A fetch is started or joined. -/
theorem Sound.poll (h : c.Sound) : c.poll.Sound := by
  rw [Chat.poll]
  split
  · have hfetch : ∀ f ∈ c.fetches.map fun f ↦
        if f.since = c.page.sinceRef then { f with polls := f.polls + 1 } else f,
        ∃ f₀ ∈ c.fetches, f.since = f₀.since ∧ f.initial = f₀.initial ∧ f.answer = f₀.answer ∧
          f₀.polls ≤ f.polls := by
      intro f hf
      obtain ⟨f₀, hf₀, rfl⟩ := List.mem_map.1 hf
      refine ⟨f₀, hf₀, ?_⟩
      split
      · exact ⟨rfl, rfl, rfl, Nat.le_succ _⟩
      · exact ⟨rfl, rfl, rfl, le_rfl⟩
    refine { h with fetched := fun f hf items hitems ↦ ?_, waiting := fun f hf ↦ ?_ }
    · obtain ⟨f₀, hf₀, hsince, -, hanswer, -⟩ := hfetch f hf
      rw [hsince]
      exact h.fetched f₀ hf₀ items (hanswer ▸ hitems)
    · obtain ⟨f₀, hf₀, hsince, hinitial, -, hpolls⟩ := hfetch f hf
      have hwaiting := h.waiting f₀ hf₀
      rw [hinitial, hsince]
      split
      · next hi => rwa [if_pos hi] at hwaiting
      · next hi =>
        rw [if_neg hi] at hwaiting
        exact hwaiting.trans_le hpolls
  · refine { h with fetched := fun f hf items hitems ↦ ?_, waiting := fun f hf ↦ ?_ }
    · rcases List.mem_append.1 hf with hf | hf
      · exact h.fetched f hf items hitems
      · rw [List.mem_singleton.1 hf] at hitems
        exact nomatch hitems
    · rcases List.mem_append.1 hf with hf | hf
      · exact h.waiting f hf
      · rw [List.mem_singleton.1 hf]
        exact Nat.one_pos

/-- Requests may be dropped. -/
theorem Sound.drop (h : c.Sound) {fetches : List Fetch} {sendings : List Sending}
    (hf : ∀ f ∈ fetches, f ∈ c.fetches) (hq : ∀ q ∈ sendings, q ∈ c.sendings) :
    Sound { c with fetches := fetches, sendings := sendings } where
  thread := h.thread
  cursor := h.cursor
  shown := h.shown
  fetched f hf' := h.fetched f (hf f hf')
  waiting f hf' := h.waiting f (hf f hf')
  sent q hq' := h.sent q (hq q hq')

/-- The list is written. -/
theorem Sound.write (h : c.Sound) {page : ChatPage}
    (hcursor : page.sinceRef = page.messages.getLast?.map Message.createdAt)
    (hshown : ∀ m ∈ page.messages, m ∈ c.thread) : Sound { c with page := page } :=
  { h with cursor := hcursor, shown := hshown }

theorem items_subset (h : c.Sound) {f : Fetch} (hf : f ∈ c.fetches) {items : List Message}
    (hitems : items ∈ f.answer) : ∀ m ∈ items, m ∈ c.thread := fun _ hm ↦
  (List.mem_filter.1 ((h.fetched f hf items hitems).subset hm)).1

/-- What a page looks like after items of the thread have been received. -/
theorem receive_keeps {page : ChatPage} {items thread : List Message}
    (hitems : ∀ m ∈ items, m ∈ thread) (initial : Bool)
    (hcursor : page.sinceRef = page.messages.getLast?.map Message.createdAt)
    (hshown : ∀ m ∈ page.messages, m ∈ thread) :
    (page.receive initial items).sinceRef =
        (page.receive initial items).messages.getLast?.map Message.createdAt ∧
      ∀ m ∈ (page.receive initial items).messages, m ∈ thread := by
  by_cases hne : items = []
  · subst hne
    exact ⟨hcursor, hshown⟩
  · rw [receive_of_ne_nil hne]
    cases initial with
    | true => exact ⟨rfl, hitems⟩
    | false =>
      refine ⟨?_, fun m hm ↦ (List.mem_append.1 hm).elim (hshown m) (hitems m)⟩
      show _ = (page.messages ++ items).getLast?.map Message.createdAt
      rw [List.getLast?_append_of_ne_nil _ hne]

theorem deliver_keeps {page : ChatPage} {items thread : List Message} (f : Fetch)
    (hitems : ∀ m ∈ items, m ∈ thread)
    (hcursor : page.sinceRef = page.messages.getLast?.map Message.createdAt)
    (hshown : ∀ m ∈ page.messages, m ∈ thread) :
    (f.deliver items page).sinceRef =
        (f.deliver items page).messages.getLast?.map Message.createdAt ∧
      ∀ m ∈ (f.deliver items page).messages, m ∈ thread := by
  have hiterate : ∀ n (page : ChatPage),
      page.sinceRef = page.messages.getLast?.map Message.createdAt →
      (∀ m ∈ page.messages, m ∈ thread) →
      ((ChatPage.receive false items)^[n] page).sinceRef =
          ((ChatPage.receive false items)^[n] page).messages.getLast?.map Message.createdAt ∧
        ∀ m ∈ ((ChatPage.receive false items)^[n] page).messages, m ∈ thread := by
    intro n
    induction n with
    | zero => exact fun page hcursor hshown ↦ ⟨hcursor, hshown⟩
    | succ n ih =>
      intro page hcursor hshown
      obtain ⟨hcursor', hshown'⟩ := receive_keeps hitems false hcursor hshown
      exact ih _ hcursor' hshown'
  rw [Fetch.deliver]
  split
  · obtain ⟨hcursor', hshown'⟩ := receive_keeps hitems true hcursor hshown
    exact hiterate _ _ hcursor' hshown'
  · exact hiterate _ _ hcursor hshown

theorem Sound.step (h : c.Sound) (e : ChatEvent) : (c.step e).Sound := by
  cases e with
  | commit m =>
    rw [Chat.step]
    split
    · next hm => exact h.commit hm fun q hq m' hm' ↦ Or.inl (h.sent q hq m' hm')
    · exact h
  | tick visible =>
    rw [Chat.step]
    split
    · exact h.poll
    · exact h
  | answerFetch i =>
    have hmodify : ∀ f ∈ (c.step (.answerFetch i)).fetches, f ∈ c.fetches ∨
        ∃ f₀ ∈ c.fetches, f = { f₀ with answer := some (c.itemsSince f₀.since) } := by
      intro f hf
      obtain ⟨j, hj⟩ := List.mem_iff_getElem?.1 hf
      rw [Chat.step, List.getElem?_modify] at hj
      obtain ⟨f₀, hf₀, hj⟩ := Option.map_eq_some_iff.1 hj
      have hmem := List.mem_of_getElem? hf₀
      by_cases hanswer : i = j ∧ f₀.answer.isNone
      · rw [if_pos hanswer.1, if_pos hanswer.2] at hj
        exact Or.inr ⟨f₀, hmem, hj.symm⟩
      · have hsame : f₀ = f := by
          split at hj
          · next hi => rwa [if_neg fun hnone ↦ hanswer ⟨hi, hnone⟩] at hj
          · exact hj
        exact Or.inl (hsame ▸ hmem)
    refine { h with fetched := fun f hf items hitems ↦ ?_, waiting := fun f hf ↦ ?_ }
    · rcases hmodify f hf with hf | ⟨f₀, hf₀, rfl⟩
      · exact h.fetched f hf items hitems
      · obtain rfl := Option.some.inj hitems
        exact List.take_prefix _ _
    · rcases hmodify f hf with hf | ⟨f₀, hf₀, rfl⟩
      · exact h.waiting f hf
      · exact h.waiting f₀ hf₀
  | deliverFetch i =>
    rw [Chat.step]
    split
    · next f hf =>
      split
      · next items hitems =>
        have hf' := List.mem_of_getElem? hf
        obtain ⟨hcursor, hshown⟩ :=
          deliver_keeps f (items_subset h hf' hitems) h.cursor h.shown
        exact (h.write hcursor hshown).drop (fun f hf ↦ List.mem_of_mem_eraseIdx hf) fun _ ↦ id
      · exact h
    · exact h
  | failFetch i => exact h.drop (fun f hf ↦ List.mem_of_mem_eraseIdx hf) fun _ ↦ id
  | send trimmed =>
    rw [Chat.step]
    split
    · exact h
    · refine { h with sent := fun q hq m hm ↦ ?_ }
      rcases List.mem_append.1 hq with hq | hq
      · exact h.sent q hq m hm
      · rw [List.mem_singleton.1 hq] at hm
        exact nomatch hm
  | answerSend i m =>
    rw [Chat.step]
    split
    · next q hq =>
      split
      · next hnew =>
        simp only [Bool.and_eq_true] at hnew
        refine h.commit hnew.1.2 fun q' hq' m' hm' ↦ ?_
        rcases List.mem_or_eq_of_mem_set hq' with hq' | rfl
        · exact Or.inl (h.sent q' hq' m' hm')
        · exact Or.inr (Option.some.inj hm').symm
      · exact h
    · exact h
  | deliverSend i =>
    rw [Chat.step]
    split
    · next q hq =>
      split
      · next m hm =>
        have hm' := h.sent q (List.mem_of_getElem? hq) m hm
        have hpage : Sound { c with page := c.page.append m } := by
          refine h.write ?_ fun x hx ↦ ?_
          · rw [ChatPage.append, List.getLast?_concat]
            rfl
          · rcases List.mem_append.1 hx with hx | hx
            · exact h.shown x hx
            · exact List.mem_singleton.1 hx ▸ hm'
        exact hpage.drop (fun _ ↦ id) fun q hq ↦ List.mem_of_mem_eraseIdx hq
      · exact h
    · exact h
  | failSend i => exact h.drop (fun _ ↦ id) fun q hq ↦ List.mem_of_mem_eraseIdx hq

/-- Where the list and the thread stay as they are, or the thread grows, the page goes on
showing it. -/
theorem shows_of_page_eq {c' : Chat} (h : c.Sound) (h' : c'.Sound) (hs : c.Shows)
    (hpage : c'.page = c.page) (hthread : c.thread <+: c'.thread) : c'.Shows := by
  rw [shows_iff h', hpage]
  exact ((shows_iff h).1 hs).trans hthread

/-- **What is appended** has to be what comes next. -/
theorem shows_append_iff {c' : Chat} (h : c.Sound) (h' : c'.Sound) (hs : c.Shows)
    {items : List Message} (hpage : c'.page.messages = c.page.messages ++ items)
    (hthread : c'.thread = c.thread) : c'.Shows ↔ items <+: c.next := by
  rw [shows_iff h', hpage, hthread, thread_eq_append_next h ((shows_iff h).1 hs),
    List.prefix_append_right_inj]

theorem shows_deliver_iff (h : c.Sound) (hs : c.Shows) {i : ℕ} {f : Fetch}
    (hf : c.fetches[i]? = some f) {items : List Message} (hitems : f.answer = some items) :
    (c.step (.deliverFetch i)).Shows ↔
      items = [] ∨ f.callers = 1 ∧ (f.initial = true ∨ items <+: c.next) := by
  have h' := h.step (.deliverFetch i)
  have hpage : (c.step (.deliverFetch i)).page = f.deliver items c.page := by
    simp only [Chat.step, hf, hitems]
  have hthread : (c.step (.deliverFetch i)).thread = c.thread := by
    simp only [Chat.step, hf, hitems]
  by_cases hne : items = []
  · refine iff_of_true (shows_of_page_eq h h' hs ?_ (hthread ▸ List.prefix_rfl)) (Or.inl hne)
    rw [hpage, hne, deliver_nil]
  · have hwaiting := h.waiting f (List.mem_of_getElem? hf)
    by_cases hmany : 1 < f.callers
    · refine iff_of_false (fun hs' ↦ not_nodup_deliver hne hmany (hpage ▸ hs'.once)) ?_
      rintro (hnil | ⟨hcallers, -⟩)
      · exact hne hnil
      · omega
    · rcases hinitial : f.initial with - | -
      · rw [callers_of_poll hinitial] at hmany ⊢
        rw [hinitial] at hwaiting
        have hpolls : f.polls = 1 := Nat.le_antisymm (Nat.le_of_not_lt hmany) hwaiting
        have hmessages : (c.step (.deliverFetch i)).page.messages = c.page.messages ++ items := by
          rw [hpage, deliver_poll hne hinitial hpolls]
        rw [shows_append_iff h h' hs hmessages hthread]
        simp [hne, hpolls]
      · rw [callers_of_initial hinitial] at hmany ⊢
        rw [if_pos hinitial] at hwaiting
        have hpolls : f.polls = 0 := by omega
        refine iff_of_true ?_ (Or.inr ⟨by omega, Or.inl rfl⟩)
        have hfetched := h.fetched f (List.mem_of_getElem? hf) items hitems
        have hall : c.thread.filter (Reader.due Message.createdAt none) = c.thread :=
          List.filter_eq_self.2 fun m _ ↦ Reader.due_none m
        rw [hwaiting, hall] at hfetched
        rw [shows_iff h', hpage, hthread, deliver_initial hne hinitial hpolls]
        exact hfetched

/-- **One event** keeps what the page shows right if what arrives is what comes next, and
only then. -/
theorem shows_step_iff (h : c.Sound) (hs : c.Shows) (e : ChatEvent) :
    (c.step e).Shows ↔ c.InTurn e := by
  have h' := h.step e
  cases e with
  | deliverFetch i =>
    rcases hf : c.fetches[i]? with - | f
    · have hidle : c.step (.deliverFetch i) = c := by simp only [Chat.step, hf]
      exact iff_of_true (hidle.symm ▸ hs) fun f hf' ↦ nomatch hf.symm.trans hf'
    · rcases hitems : f.answer with - | items
      · have hidle : c.step (.deliverFetch i) = c := by simp only [Chat.step, hf, hitems]
        refine iff_of_true (hidle.symm ▸ hs) fun f' hf' items hitems' ↦ ?_
        obtain rfl := Option.some.inj (hf.symm.trans hf')
        exact nomatch hitems.symm.trans hitems'
      · rw [shows_deliver_iff h hs hf hitems, InTurn, hf]
        simp [hitems]
  | deliverSend i =>
    rcases hq : c.sendings[i]? with - | q
    · have hidle : c.step (.deliverSend i) = c := by simp only [Chat.step, hq]
      exact iff_of_true (hidle.symm ▸ hs) fun q hq' ↦ nomatch hq.symm.trans hq'
    · rcases hm : q.answer with - | m
      · have hidle : c.step (.deliverSend i) = c := by simp only [Chat.step, hq, hm]
        refine iff_of_true (hidle.symm ▸ hs) fun q' hq' m hm' ↦ ?_
        obtain rfl := Option.some.inj (hq.symm.trans hq')
        exact nomatch hm.symm.trans hm'
      · have hpage : (c.step (.deliverSend i)).page.messages = c.page.messages ++ [m] := by
          simp only [Chat.step, hq, hm, ChatPage.append]
        have hthread : (c.step (.deliverSend i)).thread = c.thread := by
          simp only [Chat.step, hq, hm]
        rw [shows_append_iff h h' hs hpage hthread, InTurn, hq]
        simp [hm]
  | commit m =>
    refine iff_of_true (shows_of_page_eq h h' hs ?_ ?_) trivial
    · rw [Chat.step]
      split <;> rfl
    · rw [Chat.step]
      split
      · exact List.prefix_append _ _
      · exact List.prefix_rfl
  | answerSend i m =>
    refine iff_of_true (shows_of_page_eq h h' hs ?_ ?_) trivial
    · rw [Chat.step]
      split
      · split <;> rfl
      · rfl
    · rw [Chat.step]
      split
      · split
        · exact List.prefix_append _ _
        · exact List.prefix_rfl
      · exact List.prefix_rfl
  | tick visible =>
    have hpoll : c.poll.page = c.page ∧ c.poll.thread = c.thread := by
      rw [Chat.poll]
      split <;> exact ⟨rfl, rfl⟩
    refine iff_of_true (shows_of_page_eq h h' hs ?_ ?_) trivial
    · rw [Chat.step]
      split
      · exact hpoll.1
      · rfl
    · rw [Chat.step]
      split
      · exact hpoll.2.symm ▸ List.prefix_rfl
      · exact List.prefix_rfl
  | send trimmed =>
    refine iff_of_true (shows_of_page_eq h h' hs ?_ ?_) trivial
    · rw [Chat.step]
      split <;> rfl
    · rw [Chat.step]
      split <;> exact List.prefix_rfl
  | answerFetch i | failFetch i | failSend i =>
    exact iff_of_true (shows_of_page_eq h h' hs rfl List.prefix_rfl) trivial

/-- A page that has just been mounted. -/
theorem sound_mounted {thread : List Message}
    (hthread : thread.Pairwise fun a b ↦ a.createdAt < b.createdAt) : (mounted thread).Sound where
  thread := hthread
  cursor := rfl
  shown _ hm := nomatch hm
  fetched f hf items hitems := by
    rw [List.mem_singleton.1 hf] at hitems
    exact nomatch hitems
  waiting f hf := by
    rw [List.mem_singleton.1 hf]
    rfl
  sent _ hq := nomatch hq

theorem shows_mounted (thread : List Message) : (mounted thread).Shows where
  once := List.nodup_nil
  ordered := List.Pairwise.nil
  complete _ _ _ ht := nomatch ht

end Sound

end Chat

/-- **The chat shows the thread** at every moment of a run, if and only if everything that arrives
is what comes next. -/
theorem chat_shows_iff (thread : List Message)
    (hthread : thread.Pairwise fun a b ↦ a.createdAt < b.createdAt) (events : List ChatEvent) :
    EveryMoment Chat.step Chat.Shows (Chat.mounted thread) events ↔
      EveryStep Chat.step Chat.InTurn (Chat.mounted thread) events :=
  everyMoment_iff (Chat.sound_mounted hthread) (fun _ e h ↦ h.step e) (Chat.shows_mounted thread)
    (fun _ e h hs ↦ Chat.shows_step_iff h hs e) events

/-! ### A client and an operator -/

/-- The `n`-th message of a thread. -/
def chatMessage (n : ℕ) (body : Text) : Message where
  id := n
  clientId := 20
  senderUserId := some 1
  body := body
  attachmentsJson := []
  createdAt := n

/-- The client reads a message, gets another one by polling, and answers. -/
def conversation : List ChatEvent :=
  [.answerFetch 0, .deliverFetch 0, .commit (chatMessage 2 (.lit "Hello")), .tick true,
    .answerFetch 0, .deliverFetch 0, .send "Hi", .answerSend 0 (chatMessage 3 (.lit "Hi")),
    .deliverSend 0]

theorem chat_conversation :
    EveryMoment Chat.step Chat.Shows (Chat.mounted [chatMessage 1 (.lit "Welcome")]) conversation :=
  (chat_shows_iff [chatMessage 1 (.lit "Welcome")] (by decide) conversation).2 (by decide)

/-- The client writes just after the operator has, and before the next poll. -/
def overtaken : List ChatEvent :=
  [.answerFetch 0, .deliverFetch 0, .commit (chatMessage 1 (.lit "Hello")), .send "Hi",
    .answerSend 0 (chatMessage 2 (.lit "Hi")), .deliverSend 0]

/-- **A message is passed over**: the client does not get to see what the operator has written. -/
theorem chat_passesOver :
    ¬∀ (thread : List Message), thread.Pairwise (fun a b ↦ a.createdAt < b.createdAt) →
      ∀ events : List ChatEvent, EveryMoment Chat.step Chat.Shows (Chat.mounted thread) events := by
  intro hall
  have hshows := (hall [] List.Pairwise.nil overtaken).last
  have hmem := hshows.complete (chatMessage 1 (.lit "Hello")) (by decide) 2 (by decide) (by decide)
  exact absurd hmem (by decide)

end ZanovixCrm
