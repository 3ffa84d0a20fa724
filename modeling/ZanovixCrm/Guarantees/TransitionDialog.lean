import Mathlib.Data.List.Chain
import Mathlib.Data.List.InsertIdx
import Mathlib.Data.List.Nodup
import ZanovixCrm.AdminPanel.TransitionDialog
import ZanovixCrm.Guarantees.Rejections
import ZanovixCrm.Library.Transitions

/-!
# The transition dialogs and the server

A dialog may offer what the server refuses: because the row has changed since the page was loaded,
because the table of the panel has a transition that the server does not have, or because the list
of an earlier refusal is still there after a success. The server then names what it permits, and the
dialog offers just that. So a dialog is not refused twice in a row from the same value
(`no_second_refusal`), whoever else changes the row meanwhile, whatever the user does, and whenever
the page loads again.
-/

namespace ZanovixCrm

variable {α : Type} [TextEnum α] {p : Platform} {settings : Settings} {w : Wire}
  {statusText : String} {api : TransitionApi α} {successors : α → List α}

/-! ### What the server answers -/

/-- The texts of the permitted targets, as the server lists them. -/
def permitted (successors : α → List α) (a : α) : List String :=
  sorted ((successors a).map TextEnum.text)

/-- If the answer is a refused transition, it lists what is permitted, and the target of the call is
none of that. -/
def Response.Truthful (successors : α → List α) (target : JsonValue) (resp : Response) : Prop :=
  ∀ source t allowed, resp.body = .invalidTransition source t allowed →
    resp.status = 409 ∧ ∃ a, source = TextEnum.text a ∧ allowed = permitted successors a ∧
      ∀ x ∈ allowed, target ≠ .str x

/-- The server answers the calls of a dialog truthfully. -/
def TransitionApi.Truthful (p : Platform) (settings : Settings) (api : TransitionApi α)
    (successors : α → List α) : Prop :=
  ∀ env db (session : Except String String) target,
    (handle p settings env db (session.mapError unauthorized) (api.patch target)).1.Truthful
      successors target

section Server

variable {env : Env} {db : Db} {u : User} {session : Except String String} {target : JsonValue}

theorem truthful_of_body {resp : Response}
    (h : ∀ source t allowed, resp.body ≠ .invalidTransition source t allowed) :
    resp.Truthful successors target :=
  fun source t allowed hbody ↦ absurd hbody (h source t allowed)

theorem truthful_http (status : ErrorStatus) (detail : Detail) :
    (Fault.http status detail).response.Truthful successors target :=
  truthful_of_body fun _ _ _ h ↦ nomatch h

theorem truthful_db (e : DbError) : (Fault.db e).response.Truthful successors target :=
  truthful_of_body fun _ _ _ h ↦ nomatch h

theorem truthful_unhandled : Fault.unhandled.response.Truthful successors target :=
  truthful_of_body fun _ _ _ h ↦ nomatch h

/-- The exception of a machine that does not permit the target. -/
theorem truthful_invalidTransition {a : α} {target : String}
    (h : permits (successors a) target = false) :
    (Fault.invalidTransition (TextEnum.text a) target
      ((successors a).map TextEnum.text)).response.Truthful successors (.str target) := by
  rintro source t allowed hbody
  obtain ⟨rfl, rfl, rfl⟩ := Body.invalidTransition.inj hbody
  refine ⟨rfl, a, rfl, rfl, fun x hx heq ↦ ?_⟩
  obtain rfl := JsonValue.str.inj heq
  obtain ⟨b, hb, htext⟩ := List.mem_map.1 (mem_sortOn.1 hx)
  rw [permits_iff.2 ⟨b, hb, htext⟩] at h
  cases h

/-- Who has no session is told so, and not of transitions. -/
theorem truthful_currentUser {f : Fault}
    (h : currentUser db (session.mapError unauthorized) = .error f) :
    f.response.Truthful successors target := by
  rcases session with reason | email
  · obtain rfl := Except.error.inj h
    exact truthful_http _ _
  · simp only [Except.mapError, currentUser, Except.bind] at h
    split at h
    · obtain rfl := Except.error.inj h
      exact truthful_http _ _
    · split at h
      · cases h
      · obtain rfl := Except.error.inj h
        exact truthful_http _ _
    · obtain rfl := Except.error.inj h
      exact truthful_unhandled

/-- Nor does who lacks the role. -/
theorem truthful_guard {h : Handler} {f : Fault}
    (hh : (∃ m, h = .currentUser m) ∨ ∃ roles m, h = .requireRole roles m)
    (hg : h.guard (currentUser db (session.mapError unauthorized)) = .error f) :
    f.response.Truthful successors target := by
  rcases huser : currentUser db (session.mapError unauthorized) with g | u
  · rw [huser] at hg
    obtain rfl : g = f := by
      rcases hh with ⟨m, rfl⟩ | ⟨roles, m, rfl⟩
      · exact Except.error.inj hg
      · exact Except.error.inj hg
    exact truthful_currentUser huser
  · rw [huser] at hg
    rcases hh with ⟨m, rfl⟩ | ⟨roles, m, rfl⟩
    · cases hg
    · replace hg : (if u.role ∈ roles then .ok (m u) else .error (Handler.forbidden roles) :
          Except Fault (Tx Response)) = .error f := hg
      split at hg
      · cases hg
      · obtain rfl := Except.error.inj hg
        exact truthful_http _ _

/-- A request of the internal panel is answered truthfully if its transaction is. -/
theorem truthful_handle {r : Request} (hportal : r.needsPortal = false)
    (hvalid : r.validate? p = some r)
    (hh : (∃ m, route p settings env r = .currentUser m) ∨
      ∃ roles m, route p settings env r = .requireRole roles m)
    (hok : ∀ m u, (route p settings env r).guard (.ok u) = .ok m →
      m.Ensures db fun resp _ ↦ resp.Truthful successors target)
    (herr : ∀ m u, (route p settings env r).guard (.ok u) = .ok m →
      m.Refuses db fun f ↦ f.response.Truthful successors target) :
    (handle p settings env db (session.mapError unauthorized) (.bound r)).1.Truthful successors
      target := by
  have hmounted : mounted settings r = true := by
    rw [mounted, hportal, Bool.not_false, Bool.or_true]
  rcases hg : (route p settings env r).guard (currentUser db (session.mapError unauthorized))
    with f | m
  · rw [handle_of_refused hmounted hvalid hg]
    exact truthful_guard hh hg
  · rw [handle_of_admitted hmounted hvalid hg]
    rcases huser : currentUser db (session.mapError unauthorized) with g | u
    · rcases hh with ⟨m', hm⟩ | ⟨roles, m', hm⟩ <;> rw [hm, huser] at hg <;> cases hg
    · rw [huser] at hg
      rcases respond_cases m db with ⟨resp, db', hrun, hresp⟩ | ⟨f, hrun, hresp⟩
      · rw [hresp]
        exact hok m u hg resp db' hrun
      · rw [hresp]
        exact herr m u hg f hrun

/-- A call that cannot be read is refused as such, or by its guard. -/
theorem truthful_malformed {r : Request}
    (hh : (∃ m, route p settings env r = .currentUser m) ∨
      ∃ roles m, route p settings env r = .requireRole roles m) :
    (handle p settings env db (session.mapError unauthorized) (.malformed r)).1.Truthful successors
      target := by
  rw [handle]
  split
  · rcases hg : (route p settings env r).guard (currentUser db (session.mapError unauthorized))
      with f | m
    · rw [reject, hg]
      exact truthful_guard hh hg
    · rw [reject, hg]
      exact truthful_of_body fun _ _ _ h ↦ Body.noConfusion h
  · exact truthful_of_body fun _ _ _ h ↦ Body.noConfusion h

/-- A lookup that fails names what is missing; the rest of a transaction that begins with one runs
with the row. -/
theorem refuses_lookup {ρ β : Type} {q : Db → Option ρ} {f : Fault} {m : ρ → Tx β}
    {P : Fault → Prop} (hf : P f) (hm : ∀ x, (m x).Refuses db P) :
    ((.query q >>= fun found ↦ .demand found f : Tx ρ) >>= m).Refuses db P := by
  refine Prog.refuses_bind.2 ⟨?_, ?_⟩
  · exact .bind Prog.refuses_query fun _ _ ↦ Prog.refuses_demand.2 fun _ ↦ hf
  · exact Prog.ensures_bind.2 (Prog.ensures_query.2 (Prog.ensures_demand.2 fun x _ ↦ hm x))

theorem refuses_changeStage (clientId : UUID) (stage : String) :
    (ClientService.changeStage env u clientId stage false).Refuses db fun f ↦
      f.response.Truthful ClientStageMachine.validTransitions (.str stage) := by
  refine refuses_lookup (truthful_of_body fun _ _ _ h ↦ nomatch h) fun c ↦ .bind ?_ fun _ _ ↦ ?_
  · exact Prog.refuses_require.2 fun h ↦ truthful_invalidTransition h
  · exact .bind (Session.refuses_flush truthful_db) fun _ _ ↦
      .bind (Session.refuses_add truthful_db) fun _ _ ↦
        Session.refuses_refresh truthful_unhandled

theorem refuses_changeState (serviceId : UUID) (state : String) :
    (ServiceService.changeState env u serviceId state).Refuses db fun f ↦
      f.response.Truthful ServiceStateMachine.validTransitions (.str state) := by
  refine refuses_lookup (truthful_of_body fun _ _ _ h ↦ nomatch h) fun s ↦ .bind ?_ fun _ _ ↦ ?_
  · exact Prog.refuses_require.2 fun h ↦ truthful_invalidTransition h
  · exact .bind (Session.refuses_flush truthful_db) fun _ _ ↦
      .bind (Session.refuses_add truthful_db) fun _ _ ↦
        .bind (Session.refuses_refresh truthful_unhandled) fun _ _ ↦ Prog.refuses_query

end Server

/-- The stage of a client is refused with what the machine permits. -/
theorem stageTransition_truthful (clientId : UUID) :
    (stageTransition clientId).Truthful p settings ClientStageMachine.validTransitions := by
  intro env db session target
  cases target with
  | str stage =>
    refine truthful_handle rfl rfl (Or.inr ⟨_, _, rfl⟩) ?_ ?_
    · intro m u hm
      obtain ⟨v, -, -, rfl⟩ := Handler.guard_requireRole.1 hm
      exact Prog.ensures_bind.2 fun c db' _ ↦
        Prog.ensures_ret.2 (truthful_of_body fun _ _ _ h ↦ nomatch h)
    · intro m u hm
      obtain ⟨v, -, -, rfl⟩ := Handler.guard_requireRole.1 hm
      exact .bind (refuses_changeStage clientId stage) fun _ _ ↦ Prog.refuses_ret
  | _ => exact truthful_malformed (Or.inr ⟨_, _, rfl⟩)

/-- So is the state of a service. -/
theorem serviceStateTransition_truthful (serviceId : UUID) :
    (serviceStateTransition serviceId).Truthful p settings
      ServiceStateMachine.validTransitions := by
  intro env db session target
  cases target with
  | str state =>
    refine truthful_handle rfl rfl (Or.inl ⟨_, rfl⟩) ?_ ?_
    · intro m u hm
      obtain ⟨v, -, rfl⟩ := Handler.guard_currentUser.1 hm
      refine Prog.ensures_bind.2 fun sm db' _ ↦ Prog.ensures_ret.2 ?_
      rw [serviceAnswer]
      split <;> exact truthful_of_body fun _ _ _ h ↦ nomatch h
    · intro m u hm
      obtain ⟨v, -, rfl⟩ := Handler.guard_currentUser.1 hm
      exact .bind (refuses_changeState serviceId state) fun _ _ ↦ Prog.refuses_ret
  | _ => exact truthful_malformed (Or.inl ⟨_, rfl⟩)

/-! ### What the dialogs are told -/

namespace Told

/-- The refused transition that the dialog is told: the value that it was refused from, and what is
permitted. -/
def refusal? : Told → Option (String × List String)
  | .answered resp =>
    match resp.body with
    | .invalidTransition source _ allowed => some (source, allowed)
    | _ => none
  | .failed => none
  | .dismissed => none

/-- A refusal lists what is permitted. -/
def Honest (successors : α → List α) (t : Told) : Prop :=
  ∀ x ∈ t.refusal?, ∃ a, x = (TextEnum.text a, permitted successors a)

/-- The two are not refusals from one value. -/
def NotAgain (t t' : Told) : Prop := ∀ x ∈ t.refusal?, ∀ y ∈ t'.refusal?, y.1 ≠ x.1

theorem refusal?_answered {resp : Response} {x : String × List String}
    (h : x ∈ (answered resp).refusal?) : ∃ t, resp.body = .invalidTransition x.1 t x.2 := by
  replace h : (match resp.body with
    | .invalidTransition source _ allowed => some (source, allowed)
    | _ => none) = some x := h
  split at h
  · next source t allowed hbody =>
    obtain rfl := Option.some.inj h
    exact ⟨t, hbody⟩
  · cases h

end Told

namespace TransitionPage

variable {s : TransitionPage α}

/-- What a dialog has been told, oldest first. -/
def notes (s : TransitionPage α) (number : ℕ) : List Told :=
  (s.history.filter fun n ↦ decide (n.1 = number)).map Prod.snd

omit [TextEnum α] in
theorem notes_self {s' : TransitionPage α} {number : ℕ} {t : Told}
    (h : s'.history = s.history ++ [(number, t)]) :
    s'.notes number = s.notes number ++ [t] := by
  simp [notes, h]

omit [TextEnum α] in
theorem notes_of_ne {s' : TransitionPage α} {number number' : ℕ} {t : Told}
    (h : s'.history = s.history ++ [(number, t)]) (hne : number' ≠ number) :
    s'.notes number' = s.notes number' := by
  simp [notes, h, hne.symm]

/-- The texts, as the options of a dialog. -/
def asOptions (texts : List String) : List JsonValue := texts.map .str

/-- The last thing that the dialog was told is a refusal with this list. -/
def LastRefused (s : TransitionPage α) (number : ℕ) (allowed : List String) : Prop :=
  ∃ t ∈ (s.notes number).getLast?, ∃ source, t.refusal? = some (source, allowed)

omit [TextEnum α] in
theorem lastRefused_self {s' : TransitionPage α} {number : ℕ} {t : Told} {allowed : List String}
    (h : s'.history = s.history ++ [(number, t)]) :
    s'.LastRefused number allowed ↔ ∃ source, t.refusal? = some (source, allowed) := by
  simp [LastRefused, notes_self h]

omit [TextEnum α] in
theorem lastRefused_of_ne {s' : TransitionPage α} {number number' : ℕ} {t : Told}
    {allowed : List String} (h : s'.history = s.history ++ [(number, t)])
    (hne : number' ≠ number) :
    s'.LastRefused number' allowed ↔ s.LastRefused number' allowed := by
  rw [LastRefused, notes_of_ne h hne, LastRefused]

/-- **The state of the page.** -/
structure Inv (successors : α → List α) (s : TransitionPage α) : Prop where
  told : ∀ n ∈ s.history, n.1 < s.dialogs ∧ n.2.Honest successors
  called : ∀ c ∈ s.calls, c.dialog < s.dialogs ∧
    ∀ resp ∈ c.answer, resp.Truthful successors c.target
  mounted : ∀ d ∈ s.dialog, d.number < s.dialogs
  /-- A dialog awaits one call at a time. -/
  one : (s.calls.map TransitionCall.dialog).Nodup
  saving : ∀ d ∈ s.dialog, d.isSaving = false → ∀ c ∈ s.calls, c.dialog ≠ d.number
  /-- After a refusal the dialog offers what is permitted, and has chosen nothing else. -/
  narrowed : ∀ d ∈ s.dialog, ∀ allowed, s.LastRefused d.number allowed →
    d.serverAllowed = some (asOptions allowed) ∧ ∀ t ∈ d.target, t ∈ asOptions allowed
  /-- Nor has it sent anything else. -/
  sent : ∀ c ∈ s.calls, ∀ allowed, s.LastRefused c.dialog allowed → c.target ∈ asOptions allowed
  chain : ∀ number, (s.notes number).IsChain Told.NotAgain

/-! ### What one event does -/

namespace Inv

variable (h : s.Inv successors)
include h

/-- Another dialog, or the same after a click. -/
theorem withDialog {d d' : TransitionDialog} (hd : s.dialog = some d)
    (hnumber : d'.number = d.number) (hsaving : d'.isSaving = d.isSaving)
    (hnarrowed : ∀ allowed, s.LastRefused d.number allowed →
      d'.serverAllowed = some (asOptions allowed) ∧ ∀ t ∈ d'.target, t ∈ asOptions allowed) :
    { s with dialog := some d' }.Inv successors where
  told := h.told
  called := h.called
  mounted := by
    rintro _ ⟨⟩
    exact hnumber ▸ h.mounted d hd
  one := h.one
  saving := by
    rintro _ ⟨⟩ hnot
    exact hnumber ▸ h.saving d hd (hsaving ▸ hnot)
  narrowed := by
    rintro _ ⟨⟩ allowed hlast
    exact hnarrowed allowed (hnumber ▸ hlast)
  sent := h.sent
  chain := h.chain

theorem unmount : { s with dialog := none }.Inv successors where
  told := h.told
  called := h.called
  mounted := fun _ hd ↦ nomatch hd
  one := h.one
  saving := fun _ hd ↦ nomatch hd
  narrowed := fun _ hd ↦ nomatch hd
  sent := h.sent
  chain := h.chain

/-- A dialog with a new number has been told nothing. -/
theorem not_lastRefused {number : ℕ} (hnumber : s.dialogs ≤ number) (allowed : List String) :
    ¬s.LastRefused number allowed := by
  rintro ⟨t, ht, -⟩
  obtain ⟨n, hn, -⟩ := List.mem_map.1 (List.mem_of_mem_getLast? ht)
  obtain ⟨hmem, heq⟩ := List.mem_filter.1 hn
  have hlt := (h.told n hmem).1
  have heq' := of_decide_eq_true heq
  omega

theorem mount :
    { s with dialog := some (.mount s.dialogs), dialogs := s.dialogs + 1 }.Inv successors where
  told n hn := ⟨Nat.lt_succ_of_lt (h.told n hn).1, (h.told n hn).2⟩
  called c hc := ⟨Nat.lt_succ_of_lt (h.called c hc).1, (h.called c hc).2⟩
  mounted := by
    rintro _ ⟨⟩
    exact Nat.lt_succ_self _
  one := h.one
  saving := by
    rintro _ ⟨⟩ - c hc
    exact (h.called c hc).1.ne
  narrowed := by
    rintro _ ⟨⟩ allowed hlast
    exact absurd hlast (h.not_lastRefused le_rfl allowed)
  sent := h.sent
  chain := h.chain

/-- The dialog sends its target. -/
theorem confirm {d : TransitionDialog} {target : JsonValue} (hd : s.dialog = some d)
    (htarget : d.target = some target) (hsaving : d.isSaving = false) :
    { s with
      dialog := some { d with isSaving := true }
      calls := s.calls ++ [TransitionCall.mk d.number target none] }.Inv successors where
  told := h.told
  called := by
    intro c hc
    rcases List.mem_append.1 hc with hc | hc
    · exact h.called c hc
    · obtain rfl := List.mem_singleton.1 hc
      exact ⟨h.mounted d hd, fun _ hresp ↦ nomatch hresp⟩
  mounted := by
    rintro _ ⟨⟩
    exact h.mounted d hd
  one := by
    rw [List.map_append, List.nodup_append]
    refine ⟨h.one, List.nodup_singleton _, ?_⟩
    intro n hn n' hn' heq
    obtain ⟨c, hc, hnumber⟩ := List.mem_map.1 hn
    exact h.saving d hd hsaving c hc
      (hnumber.trans (heq.trans (List.mem_singleton.1 hn')))
  saving := by
    rintro _ ⟨⟩ hnot
    cases hnot
  narrowed := by
    rintro _ ⟨⟩
    exact h.narrowed d hd
  sent := by
    intro c hc allowed hlast
    rcases List.mem_append.1 hc with hc | hc
    · exact h.sent c hc allowed hlast
    · obtain rfl := List.mem_singleton.1 hc
      exact (h.narrowed d hd allowed hlast).2 target htarget
  chain := h.chain

/-- The server answers a call. -/
theorem serve {i : ℕ} {c : TransitionCall} {resp : Response} {db : Db} (hc : s.calls[i]? = some c)
    (hresp : resp.Truthful successors c.target) :
    { s with db, calls := s.calls.set i { c with answer := some resp } }.Inv successors := by
  have hmem := List.mem_of_getElem? hc
  have hdialogs : (s.calls.set i { c with answer := some resp }).map TransitionCall.dialog =
      s.calls.map TransitionCall.dialog := by
    obtain ⟨hi, heq⟩ := List.getElem?_eq_some_iff.1 hc
    have hself : (s.calls.map TransitionCall.dialog).set i (s.calls[i]).dialog =
        s.calls.map TransitionCall.dialog := by
      rw [← List.map_set, List.set_getElem_self]
    rw [heq] at hself
    rwa [List.map_set]
  have hset : ∀ c' ∈ s.calls.set i { c with answer := some resp }, c' ∈ s.calls ∨
      c' = { c with answer := some resp } := fun c' hc' ↦ List.mem_or_eq_of_mem_set hc'
  exact {
    told := h.told
    called := by
      intro c' hc'
      rcases hset c' hc' with hc' | rfl
      · exact h.called c' hc'
      · refine ⟨(h.called c hmem).1, ?_⟩
        rintro _ ⟨⟩
        exact hresp
    mounted := h.mounted
    one := hdialogs ▸ h.one
    saving := by
      intro d hd hnot c' hc'
      rcases hset c' hc' with hc' | rfl
      · exact h.saving d hd hnot c' hc'
      · exact h.saving d hd hnot c hmem
    narrowed := h.narrowed
    sent := by
      intro c' hc' allowed hlast
      rcases hset c' hc' with hc' | rfl
      · exact h.sent c' hc' allowed hlast
      · exact h.sent c hmem allowed hlast
    chain := h.chain }

/-- A dialog is told something, and then does `f`. If it is told of a refusal then it awaits
nothing, and offers what is permitted. -/
theorem of_tell {s' : TransitionPage α} {number : ℕ} {t : Told}
    {f : TransitionDialog → TransitionDialog} (hhistory : s'.history = s.history ++ [(number, t)])
    (hdialogs : s'.dialogs = s.dialogs) (hcalls : s'.calls.Sublist s.calls)
    (hdialog : s'.dialog = s.dialog.map fun d ↦ if d.number = number then f d else d)
    (hnumber : number < s.dialogs) (hhonest : t.Honest successors)
    (hchain : ∀ t₀ ∈ (s.notes number).getLast?, t₀.NotAgain t)
    (hquiet : ∀ x ∈ t.refusal?, ∀ c ∈ s'.calls, c.dialog ≠ number)
    (hf : ∀ d ∈ s.dialog, d.number = number → (f d).number = number ∧
      ((f d).isSaving = false → ∀ c ∈ s'.calls, c.dialog ≠ number) ∧
      ∀ x ∈ t.refusal?, (f d).serverAllowed = some (asOptions x.2) ∧
        ∀ u ∈ (f d).target, u ∈ asOptions x.2) : s'.Inv successors := by
  have hcases : ∀ d' ∈ s'.dialog, (d'.number ≠ number ∧ d' ∈ s.dialog) ∨
      ∃ d ∈ s.dialog, d.number = number ∧ d' = f d := by
    intro d' hd'
    rw [hdialog] at hd'
    obtain ⟨d, hd, rfl⟩ := Option.mem_map.1 hd'
    by_cases hown : d.number = number
    · rw [if_pos hown]
      exact Or.inr ⟨d, hd, hown, rfl⟩
    · rw [if_neg hown]
      exact Or.inl ⟨hown, hd⟩
  constructor
  case told =>
    intro n hn
    rw [hhistory] at hn
    rw [hdialogs]
    rcases List.mem_append.1 hn with hn | hn
    · exact h.told n hn
    · obtain rfl := List.mem_singleton.1 hn
      exact ⟨hnumber, hhonest⟩
  case called =>
    intro c hc
    rw [hdialogs]
    exact h.called c (hcalls.subset hc)
  case mounted =>
    intro d' hd'
    rw [hdialogs]
    rcases hcases d' hd' with ⟨-, hd⟩ | ⟨d, hd, hown, rfl⟩
    · exact h.mounted d' hd
    · exact (hf d hd hown).1 ▸ hnumber
  case one => exact h.one.sublist (hcalls.map _)
  case saving =>
    intro d' hd' hnot
    rcases hcases d' hd' with ⟨-, hd⟩ | ⟨d, hd, hown, rfl⟩
    · exact fun c hc ↦ h.saving d' hd hnot c (hcalls.subset hc)
    · exact (hf d hd hown).1 ▸ (hf d hd hown).2.1 hnot
  case narrowed =>
    intro d' hd' allowed hlast
    rcases hcases d' hd' with ⟨hother, hd⟩ | ⟨d, hd, hown, rfl⟩
    · exact h.narrowed d' hd allowed ((lastRefused_of_ne hhistory hother).1 hlast)
    · rw [(hf d hd hown).1] at hlast
      obtain ⟨source, hx⟩ := (lastRefused_self hhistory).1 hlast
      exact (hf d hd hown).2.2 _ hx
  case sent =>
    intro c hc allowed hlast
    by_cases hown : c.dialog = number
    · rw [hown] at hlast
      obtain ⟨source, hx⟩ := (lastRefused_self hhistory).1 hlast
      exact absurd hown (hquiet _ hx c hc)
    · exact h.sent c (hcalls.subset hc) allowed ((lastRefused_of_ne hhistory hown).1 hlast)
  case chain =>
    intro number'
    by_cases hown : number' = number
    · subst hown
      rw [notes_self hhistory, List.isChain_append]
      refine ⟨h.chain number', List.isChain_singleton _, fun t₀ ht₀ t' ht' ↦ ?_⟩
      obtain rfl := Option.some.inj ht'
      exact hchain t₀ ht₀
    · rw [notes_of_ne hhistory hown]
      exact h.chain number'

end Inv

section Answer

variable {i : ℕ} {c : TransitionCall}

/-- Once a call is no longer awaited, its dialog awaits none. -/
theorem not_awaited (h : s.Inv successors) (hc : s.calls[i]? = some c) :
    ∀ c' ∈ (s.drop i).calls, c'.dialog ≠ c.dialog := by
  intro c' hc' heq
  obtain ⟨hi, hget⟩ := List.getElem?_eq_some_iff.1 hc
  have hlength : i < (s.calls.map TransitionCall.dialog).length := by rwa [List.length_map]
  have hmem : c.dialog ∈ (s.calls.map TransitionCall.dialog).eraseIdx i := by
    rw [List.eraseIdx_map, ← heq]
    exact List.mem_map_of_mem hc'
  rw [← h.one.erase_getElem i hlength, List.getElem_map, hget] at hmem
  exact h.one.not_mem_erase hmem

theorem JsonValue.eq_of_same_str {v : JsonValue} {x : String}
    (h : v.same (.str x) = true) : v = .str x := by
  cases v with
  | str y => exact congrArg JsonValue.str (beq_iff_eq.1 h)
  | _ => cases h

theorem settle_number {d : TransitionDialog} {target : JsonValue} {err : Option ApiError} :
    (d.settle target err).number = d.number := by
  rw [TransitionDialog.settle]
  split <;> rfl

/-- A refusal narrows the options to what is permitted, and unsets a target. -/
theorem settle_of_refusal {resp : Response} {x : String × List String} {d : TransitionDialog}
    (hresp : resp.Truthful successors c.target) (hx : x ∈ (Told.answered resp).refusal?) :
    let d' := d.settle c.target
      (ApiError.ofResponse statusText resp.status (resp.json settings w))
    d'.serverAllowed = some (asOptions x.2) ∧ ∀ u ∈ d'.target, u ∈ asOptions x.2 := by
  intro d'
  obtain ⟨t, hbody⟩ := Told.refusal?_answered hx
  obtain ⟨hstatus, a, -, -, hnone⟩ := hresp _ _ _ hbody
  obtain ⟨status, body⟩ := resp
  dsimp only at hbody hstatus
  subst hbody hstatus
  obtain ⟨e, he, hstatus, -, hallowed⟩ := apiError_invalidTransition settings w statusText x.1 t x.2
  have hnarrowed : (ApiError.ofResponse statusText 409 (Response.json settings w
      ⟨409, .invalidTransition x.1 t x.2⟩)).bind ApiError.narrowed? = some (asOptions x.2) := by
    replace he : ApiError.ofResponse statusText 409 (Response.json settings w
      ⟨409, .invalidTransition x.1 t x.2⟩) = some e := he
    rw [he, Option.bind_some, ApiError.narrowed?, if_pos hstatus, hallowed]
    rfl
  have hany : (asOptions x.2).any c.target.same = false := by
    refine List.any_eq_false.2 fun v hv hsame ↦ ?_
    obtain ⟨y, hy, rfl⟩ := List.mem_map.1 hv
    exact hnone y hy (JsonValue.eq_of_same_str hsame)
  simp only [d', TransitionDialog.settle, hnarrowed, hany]
  exact ⟨trivial, fun _ hu ↦ nomatch hu⟩

/-- The last thing that the dialog of a call was told, and the answer, are not refusals from one
value. -/
theorem notAgain_answer (h : s.Inv successors) (hc : c ∈ s.calls) {resp : Response}
    (hresp : c.answer = some resp) :
    ∀ t₀ ∈ (s.notes c.dialog).getLast?, t₀.NotAgain (.answered resp) := by
  intro t₀ ht₀ x hx y hy heq
  obtain ⟨n, hn, rfl⟩ := List.mem_map.1 (List.mem_of_mem_getLast? ht₀)
  obtain ⟨a, ha⟩ := (h.told n (List.mem_of_mem_filter hn)).2 x hx
  have hsent := h.sent c hc x.2 ⟨n.2, ht₀, x.1, hx⟩
  obtain ⟨t, hbody⟩ := Told.refusal?_answered hy
  obtain ⟨-, b, hsource, hallowed, hnone⟩ := (h.called c hc).2 resp hresp _ _ _ hbody
  have hab : a = b := by
    refine TextEnum.text_injective ?_
    rw [← hsource, heq, ha]
  obtain ⟨u, hu, htarget⟩ := List.mem_map.1 hsent
  have hmem : u ∈ y.2 := by
    rw [hallowed, ← hab]
    rwa [ha] at hu
  exact hnone u hmem htarget.symm

/-- The answer to a call is honest. -/
theorem honest_answer {resp : Response} (hresp : resp.Truthful successors c.target) :
    (Told.answered resp).Honest successors := by
  intro x hx
  obtain ⟨t, hbody⟩ := Told.refusal?_answered hx
  obtain ⟨-, a, hsource, hallowed, -⟩ := hresp _ _ _ hbody
  exact ⟨a, Prod.ext hsource hallowed⟩

/-- The answer arrives. -/
theorem Inv.deliver (h : s.Inv successors) (hc : s.calls[i]? = some c) {resp : Response}
    (hresp : c.answer = some resp) :
    (((s.drop i).receive settings w statusText api c resp).tell c.dialog
      (.answered resp)).Inv successors := by
  have hmem := List.mem_of_getElem? hc
  have htruthful := (h.called c hmem).2 resp hresp
  have hawaited := not_awaited h hc
  have hlast := notAgain_answer h hmem hresp
  rw [receive]
  split
  · next hok =>
    refine h.of_tell rfl rfl (List.eraseIdx_sublist _ _) rfl (h.called c hmem).1
      (honest_answer htruthful) hlast (fun _ _ ↦ hawaited)
      fun d _ hown ↦ ⟨hown, fun _ ↦ hawaited, fun x hx ↦ ?_⟩
    obtain ⟨t, hbody⟩ := Told.refusal?_answered hx
    have hstatus := (htruthful _ _ _ hbody).1
    rw [Response.isOk, hstatus] at hok
    cases hok
  · exact h.of_tell rfl rfl (List.eraseIdx_sublist _ _) rfl (h.called c hmem).1
      (honest_answer htruthful) hlast (fun _ _ ↦ hawaited)
      fun d _ hown ↦ ⟨settle_number.trans hown, fun _ ↦ hawaited,
        fun x hx ↦ settle_of_refusal htruthful hx⟩

/-- There is no answer. -/
theorem Inv.fail (h : s.Inv successors) (hc : s.calls[i]? = some c) :
    (((s.drop i).update c fun d ↦ d.settle c.target none).tell c.dialog .failed).Inv
      successors := by
  have hawaited := not_awaited h hc
  exact h.of_tell rfl rfl (List.eraseIdx_sublist _ _) rfl (h.called c (List.mem_of_getElem? hc)).1
    (fun _ hx ↦ nomatch hx) (fun _ _ _ _ _ hy ↦ nomatch hy) (fun _ hx ↦ nomatch hx)
    fun d _ hown ↦ ⟨hown, fun _ ↦ hawaited, fun _ hx ↦ nomatch hx⟩

end Answer

/-- **One event keeps the state of the page.** -/
theorem Inv.step (hapi : api.Truthful p settings successors) (h : s.Inv successors)
    (e : TransitionEvent α) : (s.step p settings w statusText api e).Inv successors := by
  cases e with
  | openChange isOpen =>
    rw [TransitionPage.step]
    split
    · exact h
    next d hd =>
    cases isOpen with
    | true => exact h.withDialog hd rfl rfl (h.narrowed d hd)
    | false =>
      refine h.of_tell (t := .dismissed) (f := fun d ↦ d.handleOpen false) rfl rfl
        (List.Sublist.refl _) ?_ (h.mounted d hd) (fun _ hx ↦ nomatch hx)
        (fun _ _ _ _ _ hy ↦ nomatch hy) (fun _ hx ↦ nomatch hx) fun d' hd' hown ↦
          ⟨hown, fun hnot ↦ hown ▸ h.saving d' hd' hnot, fun _ hx ↦ nomatch hx⟩
      rw [hd, Option.map_some, if_pos rfl]
      rfl
  | cancel =>
    rw [TransitionPage.step]
    split
    · exact h
    next d hd =>
    split
    · exact h
    · exact h.withDialog hd rfl rfl (h.narrowed d hd)
  | choose i =>
    rw [TransitionPage.step]
    split
    · exact h
    next d hd =>
    split
    · exact h
    next option hoption =>
    split
    · refine h.withDialog hd rfl rfl fun allowed hlast ↦ ?_
      have hallowed := (h.narrowed d hd allowed hlast).1
      rw [TransitionDialog.options, hallowed] at hoption
      refine ⟨hallowed, ?_⟩
      rintro _ ⟨⟩
      exact List.mem_of_getElem? hoption
    · exact h
  | confirm =>
    rw [TransitionPage.step]
    split
    · exact h
    next d hd =>
    split
    · exact h
    next target htarget =>
    split
    · next hcan =>
      rw [Bool.and_eq_true, Bool.and_eq_true, Bool.not_eq_true'] at hcan
      exact h.confirm hd htarget hcan.1.2
    · exact h
  | serve i env session =>
    rw [TransitionPage.step]
    split
    · exact h
    next c hc =>
    split
    · exact h
    · exact h.serve hc (hapi env s.db session c.target)
  | deliver i =>
    rw [TransitionPage.step]
    split
    · exact h
    next c hc =>
    split
    · exact h
    next resp hresp => exact h.deliver hc hresp
  | fail i =>
    rw [TransitionPage.step]
    split
    · exact h
    next c hc => exact h.fail hc
  | fetch => exact h.unmount
  | fetched current =>
    rw [TransitionPage.step]
    dsimp only
    split
    · exact ⟨h.told, h.called, h.mounted, h.one, h.saving, h.narrowed, h.sent, h.chain⟩
    · have hmount := h.mount
      exact ⟨hmount.told, hmount.called, hmount.mounted, hmount.one, hmount.saving,
        hmount.narrowed, hmount.sent, hmount.chain⟩
  | act a => exact ⟨h.told, h.called, h.mounted, h.one, h.saving, h.narrowed, h.sent, h.chain⟩

theorem inv_loading (db : Db) (current : α) : (loading db current).Inv successors where
  told := fun _ hn ↦ nomatch hn
  called := fun _ hc ↦ nomatch hc
  mounted := fun _ hd ↦ nomatch hd
  one := List.nodup_nil
  saving := fun _ hd ↦ nomatch hd
  narrowed := fun _ hd ↦ nomatch hd
  sent := fun _ hc ↦ nomatch hc
  chain := fun _ ↦ List.isChain_nil

/-- **The dialogs of the page settle with the server.** None of them is refused twice in a row from
one value; and while the last thing that the mounted one was told is a refusal, it offers what the
server permits from there. -/
structure Settles (successors : α → List α) (api : TransitionApi α) (s : TransitionPage α) :
    Prop where
  never_again : ∀ number, (s.notes number).IsChain Told.NotAgain
  offers : ∀ d ∈ s.dialog, ∀ t ∈ (s.notes d.number).getLast?, ∀ x ∈ t.refusal?,
    ∃ a, x.1 = TextEnum.text a ∧ d.options api s.current = asOptions (permitted successors a)

theorem Inv.settles (h : s.Inv successors) : s.Settles successors api where
  never_again := h.chain
  offers := by
    intro d hd t ht x hx
    obtain ⟨n, hn, rfl⟩ := List.mem_map.1 (List.mem_of_mem_getLast? ht)
    obtain ⟨a, rfl⟩ := (h.told n (List.mem_of_mem_filter hn)).2 x hx
    refine ⟨a, rfl, ?_⟩
    rw [TransitionDialog.options, (h.narrowed d hd _ ⟨n.2, ht, _, hx⟩).1, Option.getD_some]

/-- The page after a run. -/
def runFrom (p : Platform) (settings : Settings) (w : Wire) (statusText : String)
    (api : TransitionApi α) (db : Db) (current : α) (events : List (TransitionEvent α)) :
    TransitionPage α :=
  events.foldl (TransitionPage.step p settings w statusText api) (loading db current)

theorem settles_runFrom (hapi : api.Truthful p settings successors) (db : Db) (current : α)
    (events : List (TransitionEvent α)) :
    (runFrom p settings w statusText api db current events).Settles successors api :=
  (foldl_invariant (inv_loading db current) (fun _ e h ↦ h.step hapi e) events).settles

end TransitionPage

/-- **A transition dialog is not refused twice in a row from the same value**, in any run of its
page, its user, the server and everyone else. -/
theorem no_second_refusal (p : Platform) (settings : Settings) (w : Wire) (statusText : String)
    (db : Db) :
    (∀ clientId current events, (TransitionPage.runFrom p settings w statusText
      (stageTransition clientId) db current events).Settles ClientStageMachine.validTransitions
        (stageTransition clientId)) ∧
    ∀ serviceId current events, (TransitionPage.runFrom p settings w statusText
      (serviceStateTransition serviceId) db current events).Settles
        ServiceStateMachine.validTransitions (serviceStateTransition serviceId) :=
  ⟨fun clientId current events ↦
      TransitionPage.settles_runFrom (stageTransition_truthful clientId) db current events,
    fun serviceId current events ↦
      TransitionPage.settles_runFrom (serviceStateTransition_truthful serviceId) db current events⟩

/-- A page that shows an old stage offers what the server refuses, and then what it permits. -/
example :
    let api := stageTransition 20
    let page := TransitionPage.runFrom .sample .sample .sample "Conflict" api newcomers
      .discoveryDone [.fetched none, .openChange true, .choose 0, .confirm,
        .serve 0 (.sample 40) (.ok "root@example.com"), .deliver 0]
    page.dialog.any fun d ↦ decide ((d.options api page.current).map
      (fun o ↦ JsonValue.textOf (some o)) = ["discovery_scheduled", "lost"]) := by
  decide +kernel

end ZanovixCrm
