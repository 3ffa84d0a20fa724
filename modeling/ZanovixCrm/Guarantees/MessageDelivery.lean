import ZanovixCrm.Shared.RedisClient

/-!
# Messages are handed out in order, once, and not forgotten

What holds of `redis_client` at every moment of every run: any number of calls, by any workers, with
their commands interleaved in any order, executed more than once, or not answered.

* `received_nodup`: two calls of `read_from_stream` never return the same message.
* `delivered_in_order`: where one call has returned before another is made, messages come in the
  order in which they were put in, and within a call they do as well.
* `pending_reported`: `get_pending_messages` reports what has been handed out and not acknowledged.
* `pending_until_settled`: a message that has been handed out stays pending until a worker has
  acknowledged it, or until a copy of it is in the dead letter stream.
* `delivered_or_waiting`: nothing is lost as long as fewer messages wait than a stream holds at
  most. Otherwise the trimming of a stream takes messages that no one has read.
* `received_is_sent`: what is read is what was sent.

All of them rest on the accounts of the server (`Accounts`). Beyond these, one needs to know where
each call is (`Follows`), what it may send there (`sentBy_of_follows`), and which part of what the
server has executed a call can have seen (`exists_later`). Of two calls that overlap either may get
the older messages.
-/

namespace ZanovixCrm

open ClientProgram

variable {env : RedisEnv} {log : List (RedisCommand × RedisAnswer)}
  {q : RedisProgram RedisResult}

/-! ### Where a call can be -/

/-- A call has ended with an exception. -/
def IsRaise (q : RedisProgram RedisResult) : Prop := ∃ e, q = .raise e

theorem follows_raise {e : RedisRaised}
    (h : Follows log (.raise e : RedisProgram RedisResult) q) : IsRaise q := ⟨e, h.eq_of_raise⟩

/-- `addToStream` sends one `XADD`. -/
theorem follows_addToStream {stream : String} {message : PyJson} {maxLen : ℤ}
    (h : Follows log (RedisCall.program env (.addToStream stream message maxLen)) q) :
    (∃ text, PyJson.dumps message = .ok text ∧
      ((∃ k, q = .send (.xadd stream [(dataKey, text)] maxLen.toNat) k) ∨
        ∃ id, q = .ret (.messageId id) ∧
          (.xadd stream [(dataKey, text)] maxLen.toNat, .added id) ∈ log)) ∨ IsRaise q := by
  rw [RedisCall.program, ZanovixCrm.addToStream] at h
  rcases hdumps : PyJson.dumps message with e | text
  · rw [hdumps] at h
    exact Or.inr (follows_raise h)
  rw [hdumps] at h
  dsimp only at h
  split at h
  · exact Or.inr (follows_raise h)
  rcases h.of_send with rfl | ⟨r, hmem, hrest⟩ | ⟨e, hrest⟩
  · exact Or.inl ⟨text, rfl, Or.inl ⟨_, rfl⟩⟩
  · cases r with
    | added id => exact Or.inl ⟨text, rfl, Or.inr ⟨id, hrest.eq_of_ret, hmem⟩⟩
    | _ => exact Or.inr (follows_raise hrest)
  · cases e with
    | connectionError t => exact Or.inr (follows_raise hrest)
    | other t => exact Or.inr (follows_raise hrest)

/-- `createConsumerGroup` sends one `XGROUP CREATE`. -/
theorem follows_createConsumerGroup {stream group : String} {startId : Option StreamId}
    {f : Bool → RedisResult}
    (h : Follows log ((createConsumerGroup stream group startId).map f) q) :
    q = (createConsumerGroup stream group startId).map f ∨ (∃ b, q = .ret (f b)) ∨ IsRaise q := by
  rcases h.of_send with rfl | ⟨r, -, hrest⟩ | ⟨e, hrest⟩
  · exact Or.inl rfl
  · cases r with
    | created start => exact Or.inr (Or.inl ⟨true, hrest.eq_of_ret⟩)
    | busyGroup => exact Or.inr (Or.inl ⟨false, hrest.eq_of_ret⟩)
    | _ => exact Or.inr (Or.inr (follows_raise hrest))
  · cases e with
    | connectionError t => exact Or.inr (Or.inr (follows_raise hrest))
    | other t => exact Or.inr (Or.inr (follows_raise hrest))

/-- `acknowledgeMessage` sends one `XACK`. -/
theorem follows_acknowledgeMessage {stream group : String} {id : StreamId}
    (h : Follows log (RedisCall.program env (.acknowledgeMessage stream group id)) q) :
    (∃ k, q = .send (.xack stream group id) k) ∨ (∃ n, q = .ret (.ackCount n)) ∨ IsRaise q := by
  rcases h.of_send with rfl | ⟨r, -, hrest⟩ | ⟨e, hrest⟩
  · exact Or.inl ⟨_, rfl⟩
  · cases r with
    | acked n => exact Or.inr (Or.inl ⟨n, hrest.eq_of_ret⟩)
    | _ => exact Or.inr (Or.inr (follows_raise hrest))
  · exact Or.inr (Or.inr (follows_raise hrest))

/-- `moveToDeadLetter` sends an `XADD`, and an `XACK` when it has been answered. -/
theorem follows_moveToDeadLetter {stream group : String} {id : StreamId} {messageData : PyJson}
    {error failedAt : PyStr}
    (h : Follows log (RedisCall.program env
      (.moveToDeadLetter stream group id messageData error failedAt)) q) :
    (∃ data, PyJson.dumps messageData = .ok data ∧
      let xadd : RedisCommand := .xadd deadLetterStream
        (deadLetterFields stream group id data error failedAt) streamMaxLen
      (∃ k, q = .send xadd k) ∨ ∃ dlqId, (xadd, .added dlqId) ∈ log ∧
        ((∃ k, q = .send (.xack stream group id) k) ∨ q = .ret (.deadLetterId dlqId))) ∨
    IsRaise q := by
  rw [RedisCall.program, ZanovixCrm.moveToDeadLetter] at h
  rcases hdumps : PyJson.dumps messageData with e | data
  · rw [hdumps] at h
    exact Or.inr (follows_raise h)
  rw [hdumps] at h
  dsimp only at h
  split at h
  swap
  · exact Or.inr (follows_raise h)
  rcases h.of_send with rfl | ⟨r, hmem, hrest⟩ | ⟨e, hrest⟩
  · exact Or.inl ⟨data, rfl, Or.inl ⟨_, rfl⟩⟩
  · cases r with
    | added dlqId =>
      rcases hrest.of_send with rfl | ⟨r', -, hrest'⟩ | ⟨e', hrest'⟩
      · exact Or.inl ⟨data, rfl, Or.inr ⟨dlqId, hmem, Or.inl ⟨_, rfl⟩⟩⟩
      · exact Or.inl ⟨data, rfl, Or.inr ⟨dlqId, hmem, Or.inr hrest'.eq_of_ret⟩⟩
      · exact Or.inr (follows_raise hrest')
    | _ => exact Or.inr (follows_raise hrest)
  · exact Or.inr (follows_raise hrest)

/-- `readFromStream` sends one `XREADGROUP`, and creates the group if there is none. -/
theorem follows_readFromStream {stream group consumer : String} {count blockMs : ℤ}
    (h : Follows log (RedisCall.program env
      (.readFromStream stream group consumer count blockMs)) q) :
    q = RedisCall.program env (.readFromStream stream group consumer count blockMs) ∨
    q = (createConsumerGroup stream group).map (fun _ ↦ .messages []) ∨
    q = .ret (.messages []) ∨
    (∃ batch received, batch.mapM (parseEntry env) = .ok received ∧
      q = .ret (.messages received) ∧
      (.xreadgroup stream group consumer count.toNat, .entries batch) ∈ log) ∨
    IsRaise q := by
  rw [RedisCall.program, ZanovixCrm.readFromStream] at h ⊢
  split at h
  · next harg =>
    rw [if_pos harg]
    exact Or.inl h.eq_of_raise
  next harg =>
  rw [if_neg harg]
  rcases h.of_send with rfl | ⟨r, hmem, hrest⟩ | ⟨e, hrest⟩
  · exact Or.inl rfl
  · cases r with
    | entries batch =>
      dsimp only [ClientProgram.map] at hrest
      rcases hparse : batch.mapM (parseEntry env) with e | received
      · rw [hparse] at hrest
        exact Or.inr (Or.inr (Or.inr (Or.inr (follows_raise hrest))))
      · rw [hparse] at hrest
        exact Or.inr (Or.inr (Or.inr (Or.inl ⟨batch, received, hparse, hrest.eq_of_ret, hmem⟩)))
    | noGroup =>
      have hcreate : Follows log
          ((createConsumerGroup stream group).map fun _ ↦ RedisResult.messages []) q := by
        dsimp only [ClientProgram.map] at hrest
        rw [bind_assoc] at hrest
        exact hrest
      rcases follows_createConsumerGroup hcreate with heq | ⟨-, heq⟩ | hraise
      · exact Or.inr (Or.inl heq)
      · exact Or.inr (Or.inr (Or.inl heq))
      · exact Or.inr (Or.inr (Or.inr (Or.inr hraise)))
    | _ => exact Or.inr (Or.inr (Or.inr (Or.inr (follows_raise hrest))))
  · exact Or.inr (Or.inr (Or.inr (Or.inr (follows_raise hrest))))

/-- The call puts the message into the stream, in an entry with these fields. -/
def RedisCall.Writes (stream : String) (message : PyJson) (fields : RedisFields) (c : RedisCall) :
    Prop :=
  (∃ maxLen text, c = .addToStream stream message maxLen ∧
    PyJson.dumps message = .ok text ∧ fields = [(dataKey, text)]) ∨
  stream = deadLetterStream ∧ ∃ sourceStream group id error failedAt data,
    c = .moveToDeadLetter sourceStream group id message error failedAt ∧
    PyJson.dumps message = .ok data ∧
    fields = deadLetterFields sourceStream group id data error failedAt

/-- What the commands that write and acknowledge say of the call that sends them. -/
def SentBy (log : List (RedisCommand × RedisAnswer)) (c : RedisCall) : RedisCommand → Prop
  | .xadd stream fields _ => ∃ message, c.Writes stream message fields
  | .xack stream group id => c = .acknowledgeMessage stream group id ∨
    ∃ messageData error failedAt data dlqId,
      c = .moveToDeadLetter stream group id messageData error failedAt ∧
      PyJson.dumps messageData = .ok data ∧
      (.xadd deadLetterStream (deadLetterFields stream group id data error failedAt) streamMaxLen,
        .added dlqId) ∈ log
  | _ => True

/-- **What a call may send.** -/
theorem sentBy_of_follows {c : RedisCall} {cmd : RedisCommand}
    {k : Except RedisException RedisAnswer → RedisProgram RedisResult}
    (h : Follows log (RedisCall.program env c) (.send cmd k)) : SentBy log c cmd := by
  cases c with
  | addToStream stream message maxLen =>
    rcases follows_addToStream h with ⟨text, htext, ⟨_, heq⟩ | ⟨_, heq, -⟩⟩ | ⟨_, heq⟩ <;> cases heq
    exact ⟨message, Or.inl ⟨maxLen, text, rfl, htext, rfl⟩⟩
  | createConsumerGroup stream group startId =>
    rcases follows_createConsumerGroup h with heq | ⟨_, heq⟩ | ⟨_, heq⟩ <;> cases heq
    trivial
  | readFromStream stream group consumer count blockMs =>
    rcases follows_readFromStream h with heq | heq | heq | ⟨_, _, _, heq, -⟩ | ⟨_, heq⟩
    · rw [RedisCall.program, ZanovixCrm.readFromStream] at heq
      split at heq <;> cases heq
      trivial
    all_goals cases heq
    trivial
  | acknowledgeMessage stream group id =>
    rcases follows_acknowledgeMessage h with ⟨_, heq⟩ | ⟨_, heq⟩ | ⟨_, heq⟩ <;> cases heq
    exact Or.inl rfl
  | moveToDeadLetter sourceStream group id messageData error failedAt =>
    rcases follows_moveToDeadLetter h with
      ⟨data, hdata, ⟨_, heq⟩ | ⟨dlqId, hmem, ⟨_, heq⟩ | heq⟩⟩ | ⟨_, heq⟩ <;> cases heq
    · exact ⟨messageData, Or.inr ⟨rfl, _, _, _, _, _, data, rfl, hdata, rfl⟩⟩
    · exact Or.inr ⟨messageData, error, failedAt, data, dlqId, rfl, hdata, hmem⟩

namespace RedisSystem

variable {stream group : String}

/-! ### In order, and once -/

/-- The server keeps its accounts, whatever the calls do. -/
theorem accounts (env : RedisEnv) (events : List RedisEvent) (stream group : String) :
    Accounts stream group (run env events).log (run env events).server := by
  refine foldl_invariant (I := fun s : RedisSystem ↦ Accounts stream group s.log s.server)
    (accounts_empty stream group) (fun s e h ↦ ?_) events
  obtain heq | ⟨c, heq⟩ | ⟨i, c, cmd, k, m, -, heq | heq⟩ | ⟨i, c, cmd, k, d, -, heq⟩ :=
    ClientSystem.step_cases Streams.exec (RedisCall.program env) s e
  all_goals rw [heq]
  · exact h
  · exact h
  · exact h.exec m cmd
  · exact h.exec m cmd
  · exact h

/-- Where the calls are. -/
theorem reached (env : RedisEnv) (events : List RedisEvent) :
    ClientSystem.Reached (RedisCall.program env) (run env events) :=
  ClientSystem.reached_run Streams.empty events

/-- What was handed out, and then what waits, is what was put in. -/
theorem fifo (env : RedisEnv) (events : List RedisEvent) (stream group : String) :
    (((run env events).deliveries stream group).map Prod.fst ++
      (run env events).waiting stream group).Sublist ((run env events).added stream) := by
  have h := accounts env events stream group
  rcases hgr : (run env events).server.group? stream group with - | gr
  · rw [waiting, hgr, deliveries, (h.absent hgr).2.1]
    exact h.kept.sublist
  · obtain ⟨start, hG⟩ := h.present gr hgr
    rw [waiting, hgr]
    exact hG.fifo.trans List.filter_sublist

/-- What the server hands out has increasing identifiers. -/
theorem increasing_deliveries (env : RedisEnv) (events : List RedisEvent)
    (stream group : String) :
    (((run env events).deliveries stream group).map fun d ↦ d.1.id).Pairwise (· < ·) := by
  have hsub := (List.sublist_append_left _ _).trans (fifo env events stream group)
  have hdelivered := (accounts env events stream group).increasing.sublist hsub
  rw [List.pairwise_map] at hdelivered
  rw [List.pairwise_map]
  exact hdelivered

/-- **What `get_pending_messages` reports** is what was handed out and has not been acknowledged,
oldest first. -/
theorem pending_reported (env : RedisEnv) (events : List RedisEvent) (stream group : String)
    (now count : ℕ) :
    let s := run env events
    (getPendingMessages (.ok (now, s.server)) stream group count).map
        (fun p ↦ (p.messageId, p.consumer, p.deliveryCount)) =
      (((s.deliveries stream group).filter
        fun d ↦ decide (d.1.id ∉ s.acknowledged stream group)).map
          fun d ↦ (d.1.id, d.2, 1)).take count := by
  intro s
  have h := accounts env events stream group
  have hcount : ¬(count : ℤ) < 0 := by omega
  rw [getPendingMessages, if_neg hcount, Streams.xpendingRange, Int.toNat_natCast]
  rcases hgr : s.server.group? stream group with - | gr
  · rw [deliveries, (h.absent hgr).2.1]
    exact List.take_nil.symm
  · obtain ⟨start, hG⟩ := h.present gr hgr
    have hpending := congrArg (List.take count) hG.pending
    rw [← List.map_take] at hpending
    change List.map _ (List.map _ (gr.pending.take count)) = _
    rw [List.map_map]
    exact hpending

/-- What a call has returned so far, on behalf of the group. -/
def receivedBy (stream group : String) (c : RedisCall) (q : RedisProgram RedisResult) :
    List StreamId :=
  ClientSystem.yieldOf (receivedIds stream group) (c, q)

theorem receivedBy_nil (c : RedisCall) : receivedBy stream group c (.ret (.messages [])) = [] := by
  cases c with
  | readFromStream => exact ite_self []
  | _ => rfl

theorem parseEntry_id {e : StreamEntry RedisFields} {m : StreamId × PyJson}
    (h : parseEntry env e = .ok m) : m.1 = e.id := by
  unfold parseEntry at h
  dsimp only at h
  split at h
  · cases h
    rfl
  · cases h
    rfl
  · cases h

/-- The entries of a batch are parsed one by one. -/
theorem forall₂_of_mapM {α β ε : Type} {f : α → Except ε β} {as : List α} {bs : List β}
    (h : as.mapM f = .ok bs) : List.Forall₂ (fun a b ↦ f a = .ok b) as bs := by
  induction as generalizing bs with
  | nil =>
    cases h
    exact .nil
  | cons a as ih =>
    rw [List.mapM_cons] at h
    rcases ha : f a with e | b
    · rw [ha] at h
      cases h
    rcases hrest : as.mapM f with e | bs'
    · rw [ha, hrest] at h
      cases h
    rw [ha, hrest] at h
    cases h
    exact .cons ha (ih hrest)

theorem exists_of_forall₂ {α β : Type} {R : α → β → Prop} {as : List α} {bs : List β}
    (h : List.Forall₂ R as bs) {b : β} (hb : b ∈ bs) : ∃ a ∈ as, R a b := by
  induction h with
  | nil => cases hb
  | @cons a b' as bs hab _ ih =>
    rcases List.mem_cons.1 hb with rfl | hb
    · exact ⟨a, List.mem_cons_self, hab⟩
    · obtain ⟨a', ha', hR⟩ := ih hb
      exact ⟨a', List.mem_cons_of_mem a ha', hR⟩

/-- The identifiers of a batch survive its parsing. -/
theorem map_fst_of_mapM {batch : List (StreamEntry RedisFields)}
    {received : List (StreamId × PyJson)} (h : batch.mapM (parseEntry env) = .ok received) :
    received.map Prod.fst = batch.map StreamEntry.id := by
  have hparsed := forall₂_of_mapM h
  clear h
  induction hparsed with
  | nil => rfl
  | cons hparse _ ih => rw [List.map_cons, List.map_cons, parseEntry_id hparse, ih]

/-- An answer to `createConsumerGroup` brings no messages. -/
theorem receivedBy_created {c : RedisCall} {cmd : RedisCommand}
    {k : Except RedisException RedisAnswer → RedisProgram RedisResult} {stream' group' : String}
    (h : .send cmd k = (createConsumerGroup stream' group').map fun _ ↦ RedisResult.messages [])
    (r : Except RedisException RedisAnswer) : receivedBy stream group c (k r) = [] := by
  cases h
  rcases r with e | r
  · cases e <;> rfl
  · cases r with
    | created start => exact receivedBy_nil c
    | busyGroup => exact receivedBy_nil c
    | _ => rfl

/-- An answer to `readFromStream` brings the messages of the batch, or none. -/
theorem receivedBy_read {stream' group' consumer : String} {count blockMs : ℤ}
    {cmd : RedisCommand} {k : Except RedisException RedisAnswer → RedisProgram RedisResult}
    (h : .send cmd k =
      RedisCall.program env (.readFromStream stream' group' consumer count blockMs)) :
    (∀ r, (receivedBy stream group (.readFromStream stream' group' consumer count blockMs)
      (k (.ok r))).Sublist ((StreamEvent.delivered stream group (cmd, r)).map fun d ↦ d.1.id)) ∧
    ∀ e, receivedBy stream group (.readFromStream stream' group' consumer count blockMs)
      (k (.error e)) = [] := by
  rw [RedisCall.program, ZanovixCrm.readFromStream] at h
  split at h
  · cases h
  cases h
  refine ⟨fun r ↦ ?_, fun e ↦ rfl⟩
  cases r with
  | entries batch =>
    dsimp only
    rcases hparse : batch.mapM (parseEntry env) with e | received
    · exact List.nil_sublist _
    · change (if stream' = stream ∧ group' = group then received.map Prod.fst else []).Sublist
        ((if stream' = stream ∧ group' = group then batch.map (·, consumer) else []).map _)
      split
      · rw [map_fst_of_mapM hparse, List.map_map]
        exact List.Sublist.refl _
      · exact List.nil_sublist _
  | noGroup => exact List.nil_sublist _
  | _ => exact List.nil_sublist _

/-- A call of `readFromStream` returns what the server has handed to it. -/
theorem yieldsAnswers (env : RedisEnv) (stream group : String) :
    ClientSystem.YieldsAnswers (receivedIds stream group)
      (fun x : RedisCommand × RedisAnswer ↦
        (StreamEvent.delivered stream group x).map fun d ↦ d.1.id) (RedisCall.program env) := by
  -- Other calls return no messages.
  have hother : ∀ (c : RedisCall) (q : RedisProgram RedisResult),
      receivedBy stream group c q = [] ∨
        ∃ stream' group' consumer count blockMs,
          c = .readFromStream stream' group' consumer count blockMs := by
    intro c q
    cases c with
    | readFromStream stream' group' consumer count blockMs => exact Or.inr ⟨_, _, _, _, _, rfl⟩
    | _ => cases q <;> exact Or.inl rfl
  refine ⟨fun c ↦ ?_, fun {c log cmd k} r h ↦ ?_, fun {c log cmd k} e h ↦ ?_⟩
  · rcases hother c (RedisCall.program env c) with hnil | ⟨_, _, _, _, _, rfl⟩
    · exact hnil
    · rw [RedisCall.program, ZanovixCrm.readFromStream]
      split <;> rfl
  · rcases hother c (k (.ok r)) with hnil | ⟨_, _, _, _, _, rfl⟩
    · change (receivedBy stream group c (k (.ok r))).Sublist _
      rw [hnil]
      exact List.nil_sublist _
    rcases follows_readFromStream h with heq | heq | heq | ⟨_, _, _, heq, -⟩ | ⟨_, heq⟩
    · exact (receivedBy_read heq).1 r
    · change (receivedBy stream group _ (k (.ok r))).Sublist _
      rw [receivedBy_created heq]
      exact List.nil_sublist _
    · cases heq
    · cases heq
    · cases heq
  · rcases hother c (k (.error e)) with hnil | ⟨_, _, _, _, _, rfl⟩
    · exact hnil
    rcases follows_readFromStream h with heq | heq | heq | ⟨_, _, _, heq, -⟩ | ⟨_, heq⟩
    · exact (receivedBy_read heq).2 e
    · exact receivedBy_created heq _
    · cases heq
    · cases heq
    · cases heq

/-- **No message is returned twice** to the workers of a group, however many calls of
`read_from_stream` there are at a time, and whatever is lost on the way. -/
theorem received_nodup (env : RedisEnv) (events : List RedisEvent) (stream group : String) :
    ((run env events).received stream group).Nodup := by
  have hids : (((run env events).deliveries stream group).map fun d ↦ d.1.id).Nodup :=
    (increasing_deliveries env events stream group).imp fun hlt ↦ hlt.ne
  obtain ⟨ids, hperm, hsub⟩ := ClientSystem.yielded_run Streams.exec
    (yieldsAnswers env stream group) Streams.empty events
  refine hperm.nodup_iff.1 (List.Nodup.sublist ?_ hids)
  rw [ClientSystem.handed] at hsub
  rw [deliveries, StreamTrace.delivered, List.map_flatMap]
  exact hsub

/-! ### One after the other -/

/-- The identifier that `addToStream` returns is that of an entry with its message. -/
theorem added_of_follows {message : PyJson} {maxLen : ℤ} {id : StreamId}
    (h : Follows log (RedisCall.program env (.addToStream stream message maxLen))
      (.ret (.messageId id))) :
    ∃ text, PyJson.dumps message = .ok text ∧
      (⟨id, [(dataKey, text)]⟩ : StreamEntry RedisFields) ∈ StreamTrace.added log stream := by
  rcases follows_addToStream h with ⟨text, htext, ⟨_, heq⟩ | ⟨id', heq, hmem⟩⟩ | ⟨_, heq⟩ <;>
    cases heq
  exact ⟨text, htext, StreamTrace.mem_added hmem⟩

/-- What `readFromStream` returns is a stretch of what the server has handed out. -/
theorem sublist_of_follows {consumer : String} {count blockMs : ℤ}
    {received : List (StreamId × PyJson)}
    (h : Follows log (RedisCall.program env (.readFromStream stream group consumer count blockMs))
      (.ret (.messages received))) :
    (received.map Prod.fst).Sublist
      ((StreamTrace.delivered log stream group).map fun d ↦ d.1.id) := by
  rcases follows_readFromStream h with heq | heq | heq | ⟨batch, _, hparse, heq, hmem⟩ | ⟨_, heq⟩
  · rw [RedisCall.program, ZanovixCrm.readFromStream] at heq
    split at heq <;> cases heq
  · cases heq
  · cases heq
    exact List.nil_sublist _
  · cases heq
    have hbatch := (StreamTrace.sublist_delivered hmem).map fun d ↦ d.1.id
    rw [map_fst_of_mapM hparse]
    rwa [List.map_map] at hbatch
  · cases heq

/-- What happens later, and the calls that are made later. -/
theorem exists_later (env : RedisEnv) (earlier later : List RedisEvent) :
    ∃ rest, (run env (earlier ++ later)).log = (run env earlier).log ++ rest ∧
      ∀ c ∈ (run env (earlier ++ later)).calls.drop (run env earlier).calls.length,
        Follows rest (RedisCall.program env c.1) c.2 := by
  have hrun : run env (earlier ++ later) =
      later.foldl (ClientSystem.step Streams.exec (RedisCall.program env)) (run env earlier) :=
    List.foldl_append
  rw [hrun]
  exact ClientSystem.follows_later Streams.exec (RedisCall.program env) (run env earlier) later

/-- **Messages are returned in the order in which they were put in**, whatever other calls are under
way. Where one call has returned before the other is made, by whichever worker: of two calls of
`add_to_stream` the second returns the larger identifier, and of two calls of `read_from_stream` for
a group the second returns larger identifiers only. Within a call they increase. -/
theorem delivered_in_order (env : RedisEnv) (earlier later : List RedisEvent)
    (stream group : String) :
    let s := run env earlier
    let s' := run env (earlier ++ later)
    (∀ message maxLen id message' maxLen' id',
      (RedisCall.addToStream stream message maxLen, .ret (.messageId id)) ∈ s.calls →
      (RedisCall.addToStream stream message' maxLen', .ret (.messageId id')) ∈
        s'.calls.drop s.calls.length → id < id') ∧
    ∀ consumer count blockMs received,
      (RedisCall.readFromStream stream group consumer count blockMs,
        .ret (.messages received)) ∈ s.calls →
      (received.map Prod.fst).Pairwise (· < ·) ∧
      ∀ consumer' count' blockMs' received',
        (RedisCall.readFromStream stream group consumer' count' blockMs',
          .ret (.messages received')) ∈ s'.calls.drop s.calls.length →
        ∀ m ∈ received, ∀ m' ∈ received', m.1 < m'.1 := by
  intro s s'
  obtain ⟨rest, hlog, hlater⟩ := exists_later env earlier later
  have hcalls := (reached env earlier).calls
  refine ⟨fun message maxLen id message' maxLen' id' hc hc' ↦ ?_,
    fun consumer count blockMs received hc ↦ ⟨?_, ?_⟩⟩
  · obtain ⟨text, -, hadded⟩ := added_of_follows (hcalls _ hc)
    obtain ⟨text', -, hadded'⟩ := added_of_follows (hlater _ hc')
    have hincreasing := (accounts env (earlier ++ later) stream group).increasing
    rw [hlog, StreamTrace.added, List.flatMap_append] at hincreasing
    exact (List.pairwise_append.1 hincreasing).2.2 _ hadded _ hadded'
  · exact (increasing_deliveries env earlier stream group).sublist
      (sublist_of_follows (hcalls _ hc))
  · intro consumer' count' blockMs' received' hc' m hm m' hm'
    have hreturned := (sublist_of_follows (hcalls _ hc)).subset (List.mem_map_of_mem hm)
    have hreturned' := (sublist_of_follows (hlater _ hc')).subset (List.mem_map_of_mem hm')
    have hincreasing := increasing_deliveries env (earlier ++ later) stream group
    rw [deliveries, hlog, StreamTrace.delivered, List.flatMap_append, List.map_append]
      at hincreasing
    exact (List.pairwise_append.1 hincreasing).2.2 _ hreturned _ hreturned'

/-- What the interpreter does, in a run without floating-point numbers and exceptions. -/
def exampleEnv : RedisEnv := ⟨id, fun _ ↦ ""⟩

/-- A message is put in under a group and read. -/
def firstRead : List RedisEvent :=
  [.start (.createConsumerGroup incomingStream consumerGroup (some (toLex (0, 0)))),
    .execute 0 ⟨5, 0⟩ true,
    .start (.addToStream incomingStream (.int 1) streamMaxLen), .execute 1 ⟨7, 0⟩ true,
    .start (.readFromStream incomingStream consumerGroup "worker" 5 5000), .execute 2 ⟨9, 0⟩ true]

/-- Another one is put in, and another worker reads. -/
def secondRead : List RedisEvent :=
  [.start (.addToStream incomingStream (.int 2) streamMaxLen), .execute 3 ⟨9, 0⟩ true,
    .start (.readFromStream incomingStream consumerGroup "other" 5 5000), .execute 4 ⟨9, 0⟩ true]

theorem delivered_in_order_example :
    (run exampleEnv (firstRead ++ secondRead)).received incomingStream consumerGroup =
      [toLex (7, 0), toLex (9, 0)] ∧
    ∀ m ∈ [(toLex (7, 0), PyJson.int 1)], ∀ m' ∈ [(toLex (9, 0), PyJson.int 2)],
      (m.1 : StreamId) < m'.1 :=
  ⟨rfl, ((delivered_in_order exampleEnv firstRead secondRead incomingStream consumerGroup).2
    "worker" 5 5000 _ (List.mem_of_getElem? (i := 2) rfl)).2
      "other" 5 5000 _ (List.mem_of_getElem? (i := 1) rfl)⟩

/-! ### Where entries and acknowledgements come from -/

/-- An entry of a stream was put there by a call, and this is what it says. -/
theorem added_by (env : RedisEnv) (events : List RedisEvent) {stream : String}
    {e : StreamEntry RedisFields} (h : e ∈ (run env events).added stream) :
    ∃ c ∈ (run env events).calls, ∃ message, c.1.Writes stream message e.fields := by
  obtain ⟨⟨cmd, ans⟩, hx, he⟩ := List.mem_flatMap.1 h
  obtain ⟨c, hc, k, hk⟩ := (reached env events).commands _ hx
  have hsent := sentBy_of_follows hk
  unfold StreamEvent.added at he
  split at he
  swap
  · cases he
  next key fields maxlen id heq =>
  obtain ⟨rfl, rfl⟩ := Prod.mk.inj heq
  split at he
  swap
  · cases he
  next hkey =>
  subst hkey
  rw [List.mem_singleton.1 he]
  exact ⟨c, hc, hsent⟩

/-- Why a message has been acknowledged: a worker has done so, or a copy of it has been put into the
dead letter stream. -/
def Settled (s : RedisSystem) (stream group : String) (id : StreamId) : Prop :=
  (∃ p, (RedisCall.acknowledgeMessage stream group id, p) ∈ s.calls) ∨
    ∃ messageData error failedAt p data dlqId,
      (RedisCall.moveToDeadLetter stream group id messageData error failedAt, p) ∈ s.calls ∧
        PyJson.dumps messageData = .ok data ∧
        ⟨dlqId, deadLetterFields stream group id data error failedAt⟩ ∈ s.added deadLetterStream

theorem settled_of_acknowledged (env : RedisEnv) (events : List RedisEvent) {stream group : String}
    {id : StreamId} (h : id ∈ (run env events).acknowledged stream group) :
    (run env events).Settled stream group id := by
  obtain ⟨⟨cmd, ans⟩, hx, hid⟩ := List.mem_flatMap.1 h
  obtain ⟨⟨c, p⟩, hc, k, hk⟩ := (reached env events).commands _ hx
  have hsent := sentBy_of_follows hk
  unfold StreamEvent.acknowledged at hid
  split at hid
  swap
  · cases hid
  next key group' id' count heq =>
  obtain ⟨rfl, rfl⟩ := Prod.mk.inj heq
  split at hid
  swap
  · cases hid
  next hkey =>
  obtain ⟨rfl, rfl, -⟩ := hkey
  obtain rfl := List.mem_singleton.1 hid
  rcases hsent with heq | ⟨messageData, error, failedAt, data, dlqId, heq, hdata, hmem⟩
  · obtain rfl : c = _ := heq
    exact Or.inl ⟨p, hc⟩
  · obtain rfl : c = _ := heq
    exact Or.inr ⟨messageData, error, failedAt, p, data, dlqId, hc, hdata,
      StreamTrace.mem_added hmem⟩

/-- **No message is forgotten.** What a worker has been handed stays pending for that worker until
it has been acknowledged, or until a copy of it is in the dead letter stream. -/
theorem pending_until_settled (env : RedisEnv) (events : List RedisEvent) (stream group : String) :
    let s := run env events
    ∀ d ∈ s.deliveries stream group,
      (∃ gr, s.server.group? stream group = some gr ∧
        ∃ e ∈ gr.pending, e.id = d.1.id ∧ e.consumer = d.2) ∨
      s.Settled stream group d.1.id := by
  intro s d hd
  by_cases hack : d.1.id ∈ s.acknowledged stream group
  · exact Or.inr (settled_of_acknowledged env events hack)
  left
  have h := accounts env events stream group
  rcases hgr : s.server.group? stream group with - | gr
  · rw [deliveries, (h.absent hgr).2.1] at hd
    cases hd
  obtain ⟨start, hG⟩ := h.present gr hgr
  have hmem : (d.1.id, d.2, 1) ∈
      gr.pending.map fun e ↦ (e.id, e.consumer, e.timesDelivered) := by
    rw [hG.pending]
    exact List.mem_map.2 ⟨d, List.mem_filter.2 ⟨hd, decide_eq_true hack⟩, rfl⟩
  obtain ⟨e, he, heq⟩ := List.mem_map.1 hmem
  obtain ⟨hid, hconsumer⟩ := Prod.mk.inj heq
  exact ⟨gr, rfl, e, he, hid, (Prod.mk.inj hconsumer).1⟩

/-- A group is created. A message is put in twice, because the first answer is lost. A worker reads
both. -/
def exampleEvents : List RedisEvent :=
  [.start (.createConsumerGroup incomingStream consumerGroup (some (toLex (0, 0)))),
    .execute 0 ⟨5, 0⟩ true,
    .start (.addToStream incomingStream (.dict [([0x61], .int 1)]) streamMaxLen),
    .execute 1 ⟨7, 0⟩ false, .execute 1 ⟨7, 0⟩ true,
    .start (.readFromStream incomingStream consumerGroup "worker" 5 5000),
    .execute 2 ⟨9, 0⟩ true]

example : (run exampleEnv exampleEvents).received incomingStream consumerGroup =
    [toLex (7, 0), toLex (7, 1)] := rfl

/-! ### Without loss -/

/-- The server loses nothing while there is room. -/
theorem lossless {events : List RedisEvent}
    (h : EveryStep (step env) (HasRoom stream group) (ClientSystem.init Streams.empty) events) :
    Lossless stream group (run env events).log (run env events).server := by
  have hboth : Accounts stream group (run env events).log (run env events).server ∧
      Lossless stream group (run env events).log (run env events).server := by
    refine foldl_invariant_of (I := fun s : RedisSystem ↦
        Accounts stream group s.log s.server ∧ Lossless stream group s.log s.server)
      ⟨accounts_empty stream group, lossless_empty stream group⟩ (fun s e hI hroom ↦ ?_) h
    cases e with
    | start c => exact hI
    | execute i m heard =>
      rcases hi : s.calls[i]? with - | ⟨c, p⟩
      · simp only [ClientSystem.step, hi]
        exact hI
      cases p with
      | send cmd k =>
        simp only [HasRoom, hi] at hroom
        simp only [ClientSystem.step, hi]
        exact ⟨hI.1.exec m cmd, hI.2.exec hI.1 m cmd hroom⟩
      | _ =>
        simp only [ClientSystem.step, hi]
        exact hI
    | fail i d =>
      rw [ClientSystem.step]
      split <;> exact hI
  exact hboth.2

/-- **Nothing is lost** if a stream never takes a message while its maximum of them wait: what the
group has been handed, and then what waits for it, is all that was put in since the group began. So
no message is lost that `add_to_stream` has returned an identifier for. -/
theorem delivered_or_waiting (env : RedisEnv) (events : List RedisEvent) (stream group : String)
    (h : EveryStep (step env) (HasRoom stream group) (ClientSystem.init Streams.empty) events) :
    let s := run env events
    ∀ start ∈ StreamTrace.starts s.log stream group,
      (s.deliveries stream group).map Prod.fst ++ s.waiting stream group =
        (s.added stream).filter (fun e ↦ decide (start < e.id)) ∧
      ∀ message maxLen id,
        (RedisCall.addToStream stream message maxLen, .ret (.messageId id)) ∈ s.calls →
        start < id → ∃ text, PyJson.dumps message = .ok text ∧
          (⟨id, [(dataKey, text)]⟩ : StreamEntry RedisFields) ∈
            (s.deliveries stream group).map Prod.fst ++ s.waiting stream group := by
  intro s start hstart
  have hlossless := lossless h
  have hacc := accounts env events stream group
  have hall : (s.deliveries stream group).map Prod.fst ++ s.waiting stream group =
      (s.added stream).filter fun e ↦ decide (start < e.id) := by
    rcases hgr : s.server.group? stream group with - | gr
    · rw [(hacc.absent hgr).1] at hstart
      cases hstart
    · obtain ⟨start', hC⟩ := hlossless.present gr hgr
      rw [hC.created] at hstart
      obtain rfl := List.mem_singleton.1 hstart
      rw [waiting, hgr]
      exact hC.fifo
  refine ⟨hall, fun message maxLen id hc hlt ↦ ?_⟩
  obtain ⟨text, htext, hadded⟩ := added_of_follows ((reached env events).calls _ hc)
  refine ⟨text, htext, ?_⟩
  rw [hall]
  exact List.mem_filter.2 ⟨hadded, decide_eq_true hlt⟩

theorem delivered_or_waiting_example :
    toLex (7, 0) ∈ ((run exampleEnv exampleEvents).deliveries incomingStream consumerGroup).map
      (fun d ↦ d.1.id) ∧
    ((run exampleEnv exampleEvents).deliveries incomingStream consumerGroup).map Prod.fst ++
        (run exampleEnv exampleEvents).waiting incomingStream consumerGroup =
      ((run exampleEnv exampleEvents).added incomingStream).filter
        fun e ↦ decide (toLex (0, 0) < e.id) :=
  ⟨by decide, (delivered_or_waiting exampleEnv exampleEvents incomingStream consumerGroup
    ⟨trivial, trivial, trivial, fun _ ↦ by decide, fun _ ↦ by decide, trivial, trivial, trivial⟩
    (toLex (0, 0)) (by decide)).1⟩

/-! ### What is read -/

/-- An entry that a call has written is read as the message of that call. -/
theorem parseEntry_of_writes {stream : String} {message : PyJson} {e : StreamEntry RedisFields}
    {c : RedisCall} (hdata : c.IsData env.canon) (h : c.Writes stream message e.fields) :
    parseEntry env e = .ok (e.id, message) := by
  have hparse : ∀ text, e.fields.reverse.lookup dataKey = some text →
      PyJson.loads env.canon text = .ok message → parseEntry env e = .ok (e.id, message) := by
    intro text hlookup hloads
    rw [parseEntry, hlookup, Option.getD_some, hloads]
  rcases h with ⟨maxLen, text, rfl, htext, hfields⟩ | ⟨-, _, _, _, _, _, data, rfl, htext, hfields⟩
  · refine hparse text ?_ (PyJson.loads_dumps hdata htext)
    rw [hfields]
    rfl
  · refine hparse data ?_ (PyJson.loads_dumps hdata htext)
    rw [hfields]
    rfl

/-- **What `read_from_stream` returns is what `add_to_stream` was given**, or `move_to_dead_letter`:
under the identifier of an entry, the message of the call that has put it into the stream. -/
theorem received_is_sent (env : RedisEnv) (events : List RedisEvent)
    (hdata : ∀ c ∈ (run env events).calls, c.1.IsData env.canon) :
    let s := run env events
    ∀ stream group consumer count blockMs received,
      (RedisCall.readFromStream stream group consumer count blockMs,
        .ret (.messages received)) ∈ s.calls →
      ∀ m ∈ received, ∃ e ∈ s.added stream, e.id = m.1 ∧
        (e, consumer) ∈ s.deliveries stream group ∧
        ∃ c ∈ s.calls, c.1.Writes stream m.2 e.fields := by
  intro s stream group consumer count blockMs received hc m hm
  have hfollows := (reached env events).calls _ hc
  rcases follows_readFromStream hfollows with heq | heq | heq | ⟨batch, _, hparse, heq, hmem⟩ |
    ⟨_, heq⟩
  · rw [RedisCall.program, ZanovixCrm.readFromStream] at heq
    split at heq <;> cases heq
  · cases heq
  · cases heq
    cases hm
  · cases heq
    obtain ⟨e, he, hem⟩ := exists_of_forall₂ (forall₂_of_mapM hparse) hm
    have hdelivered : (e, consumer) ∈ s.deliveries stream group :=
      (StreamTrace.sublist_delivered hmem).subset (List.mem_map_of_mem he)
    have hadded : e ∈ s.added stream :=
      ((List.sublist_append_left _ _).trans (fifo env events stream group)).subset
        (List.mem_map_of_mem hdelivered)
    obtain ⟨c, hc', message, hwrites⟩ := added_by env events hadded
    obtain rfl : (e.id, message) = m :=
      Except.ok.inj ((parseEntry_of_writes (hdata c hc') hwrites).symm.trans hem)
    exact ⟨e, hadded, rfl, hdelivered, c, hc', hwrites⟩
  · cases heq

theorem received_is_sent_example :
    ∃ c ∈ (run exampleEnv exampleEvents).calls, ∃ e : StreamEntry RedisFields,
      e.id = toLex (7, 1) ∧ c.1.Writes incomingStream (.dict [([0x61], .int 1)]) e.fields := by
  have hdata : ∀ c ∈ (run exampleEnv exampleEvents).calls, c.1.IsData exampleEnv.canon := by
    have hcalls : ∀ c ∈ (run exampleEnv exampleEvents).calls.map Prod.fst,
        c.IsData exampleEnv.canon := by
      refine List.forall_mem_cons.2 ⟨trivial, List.forall_mem_cons.2 ⟨?_, List.forall_mem_cons.2
        ⟨trivial, fun _ h ↦ absurd h List.not_mem_nil⟩⟩⟩
      exact ⟨List.nodup_singleton _, ⟨by decide, List.isChain_singleton _⟩, trivial, trivial⟩
    exact fun c hc ↦ hcalls c.1 (List.mem_map_of_mem hc)
  obtain ⟨e, -, hid, -, c, hc, hwrites⟩ := received_is_sent exampleEnv exampleEvents hdata
    incomingStream consumerGroup "worker" 5 5000
    [(toLex (7, 0), .dict [([0x61], .int 1)]), (toLex (7, 1), .dict [([0x61], .int 1)])]
    (List.mem_of_getElem? (i := 2) rfl) (toLex (7, 1), .dict [([0x61], .int 1)])
    (List.mem_of_getElem? (i := 1) rfl)
  exact ⟨c, hc, e, hid, hwrites⟩

end RedisSystem

end ZanovixCrm
