import Mathlib.Data.List.Nodup
import Mathlib.Data.Prod.Lex
import Mathlib.Order.Lex

/-!
# Streams with consumer groups

The commands `XADD`, `XGROUP CREATE`, `XREADGROUP`, `XACK` and `XPENDING` of a Redis server, as
functions on its state. A stream is a log of entries with increasing identifiers, of which the
oldest may be trimmed. A group of consumers reads it through one cursor: what is read under `>` is
what the cursor has not passed, and it is pending for its consumer until it is acknowledged.

`StreamTrace` is what the server has executed, with its answers. `Accounts` says how the state
follows from them: **what has been delivered, and then what waits in the stream, is what was added,
in order**, up to what trimming took (`GroupAccounts.fifo`); and what is pending is what was
delivered and not acknowledged. So nothing is delivered twice. It holds of a server without streams
(`accounts_empty`), and one more command keeps it (`Accounts.exec`), whoever sends it; so it does
along the runs of any system that has the server execute its commands. `Lossless` is the like for
servers where every added entry finds room.

Consumers that take over what is pending for others (`XCLAIM`, `XAUTOCLAIM`), the removal of streams
and groups, and reads of what is already pending have no place here.
-/

namespace ZanovixCrm

/-- The identifier of an entry: milliseconds, and a number within the millisecond. -/
abbrev StreamId : Type := ℕ ×ₗ ℕ

/-- An entry of a stream. -/
structure StreamEntry (φ : Type) where
  id : StreamId
  fields : φ
deriving DecidableEq

/-- An entry that a consumer has got and has not acknowledged. -/
structure PendingEntry (χ : Type) where
  id : StreamId
  consumer : χ
  deliveredAt : ℕ
  timesDelivered : ℕ
deriving DecidableEq

/-- A group of consumers. -/
structure ConsumerGroup (χ : Type) where
  lastDelivered : StreamId
  pending : List (PendingEntry χ)

/-- A stream, with its groups. -/
structure RedisStream (γ χ φ : Type) where
  entries : List (StreamEntry φ)
  lastId : StreamId
  groups : γ → Option (ConsumerGroup χ)

/-- The streams of a server. -/
def Streams (κ γ χ φ : Type) : Type := κ → Option (RedisStream γ χ φ)

/-- When a command is executed, in milliseconds, and how many of the entries beyond the maximum
length an approximate trimming takes off. -/
structure Moment where
  now : ℕ
  trims : ℕ
deriving DecidableEq

/-- A command. -/
inductive StreamCommand (κ γ χ φ : Type) where
  /-- `XADD key MAXLEN ~ maxlen * fields`. -/
  | xadd (key : κ) (fields : φ) (maxlen : ℕ)
  /-- `XGROUP CREATE key group start MKSTREAM`; without a start, `$`. -/
  | xgroupCreate (key : κ) (group : γ) (start : Option StreamId)
  /-- `XREADGROUP GROUP group consumer COUNT count STREAMS key >`. -/
  | xreadgroup (key : κ) (group : γ) (consumer : χ) (count : ℕ)
  /-- `XACK key group id`. -/
  | xack (key : κ) (group : γ) (id : StreamId)
deriving DecidableEq

/-- An answer. -/
inductive StreamAnswer (φ : Type) where
  | added (id : StreamId)
  /-- The group is there now, and reads on from this identifier. -/
  | created (start : StreamId)
  | busyGroup
  | entries (batch : List (StreamEntry φ))
  | noGroup
  | acked (count : ℕ)
deriving DecidableEq

/-! ### The commands -/

section Commands

variable {κ γ χ φ : Type}

namespace RedisStream

/-- A stream without entries and groups. -/
def empty : RedisStream γ χ φ := ⟨[], toLex (0, 0), fun _ ↦ none⟩

/-- The identifier of the next entry: the clock, unless it is behind. -/
def nextId (last : StreamId) (now : ℕ) : StreamId :=
  if (ofLex last).1 < now then toLex (now, 0) else toLex ((ofLex last).1, (ofLex last).2 + 1)

/-- Take the oldest entries off, as many as the trimming likes among those beyond the length. -/
def trimmed (entries : List (StreamEntry φ)) (maxlen trims : ℕ) : List (StreamEntry φ) :=
  entries.drop (min trims (entries.length - maxlen))

def xadd (st : RedisStream γ χ φ) (fields : φ) (maxlen : ℕ) (m : Moment) : RedisStream γ χ φ :=
  { st with
    entries := trimmed (st.entries ++ [⟨nextId st.lastId m.now, fields⟩]) maxlen m.trims
    lastId := nextId st.lastId m.now }

/-- What a group that has read up to there has not got. -/
def waiting (st : RedisStream γ χ φ) (last : StreamId) : List (StreamEntry φ) :=
  st.entries.filter fun e ↦ decide (last < e.id)

variable [DecidableEq γ]

def setGroup (st : RedisStream γ χ φ) (g : γ) (gr : ConsumerGroup χ) : RedisStream γ χ φ :=
  { st with groups := Function.update st.groups g (some gr) }

end RedisStream

/-- The group after it has got a batch. -/
def ConsumerGroup.deliver (gr : ConsumerGroup χ) (consumer : χ) (now : ℕ)
    (batch : List (StreamEntry φ)) : ConsumerGroup χ where
  lastDelivered := (batch.getLast?.map StreamEntry.id).getD gr.lastDelivered
  pending := gr.pending ++ batch.map fun e ↦ ⟨e.id, consumer, now, 1⟩

/-- The group without a pending entry. -/
def ConsumerGroup.ack (gr : ConsumerGroup χ) (id : StreamId) : ConsumerGroup χ :=
  { gr with pending := gr.pending.filter fun e ↦ decide (e.id ≠ id) }

namespace Streams

/-- No stream. -/
def empty : Streams κ γ χ φ := fun _ ↦ none

/-- The stream under a key. -/
def stream (s : Streams κ γ χ φ) (k : κ) : RedisStream γ χ φ := (s k).getD .empty

/-- The group, if there is one. -/
def group? (s : Streams κ γ χ φ) (k : κ) (g : γ) : Option (ConsumerGroup χ) :=
  (s.stream k).groups g

/-- `XPENDING key group - + count`, or `none` if there is no such group. -/
def xpendingRange (s : Streams κ γ χ φ) (k : κ) (g : γ) (count : ℕ) :
    Option (List (PendingEntry χ)) :=
  (s.group? k g).map fun gr ↦ gr.pending.take count

variable [DecidableEq κ]

def put (s : Streams κ γ χ φ) (k : κ) (st : RedisStream γ χ φ) : Streams κ γ χ φ :=
  fun k' ↦ if k' = k then some st else s k'

variable [DecidableEq γ]

/-- **What a command does**, and its answer. -/
def exec (s : Streams κ γ χ φ) (m : Moment) :
    StreamCommand κ γ χ φ → StreamAnswer φ × Streams κ γ χ φ
  | .xadd k fields maxlen =>
    (.added (RedisStream.nextId (s.stream k).lastId m.now),
      s.put k ((s.stream k).xadd fields maxlen m))
  | .xgroupCreate k g start =>
    match s.group? k g with
    | some _ => (.busyGroup, s)
    | none =>
      (.created (start.getD (s.stream k).lastId),
        s.put k ((s.stream k).setGroup g ⟨start.getD (s.stream k).lastId, []⟩))
  | .xreadgroup k g consumer count =>
    match s.group? k g with
    | none => (.noGroup, s)
    | some gr =>
      let batch := ((s.stream k).waiting gr.lastDelivered).take count
      (.entries batch, s.put k ((s.stream k).setGroup g (gr.deliver consumer m.now batch)))
  | .xack k g id =>
    match s.group? k g with
    | none => (.acked 0, s)
    | some gr =>
      if gr.pending.any fun e ↦ decide (e.id = id) then
        (.acked 1, s.put k ((s.stream k).setGroup g (gr.ack id)))
      else (.acked 0, s)

end Streams

end Commands

/-! ### What has been executed -/

/-- A command that has been executed, with its answer. -/
abbrev StreamEvent (κ γ χ φ : Type) : Type := StreamCommand κ γ χ φ × StreamAnswer φ

section StreamTrace

variable {κ γ χ φ : Type} [DecidableEq κ] [DecidableEq γ]

namespace StreamEvent

/-- The entry that the command has added under the key. -/
def added (k : κ) : StreamEvent κ γ χ φ → List (StreamEntry φ)
  | ⟨.xadd key fields _, .added id⟩ => if key = k then [⟨id, fields⟩] else []
  | _ => []

/-- What the command has delivered to the group, and to whom. -/
def delivered (k : κ) (g : γ) : StreamEvent κ γ χ φ → List (StreamEntry φ × χ)
  | ⟨.xreadgroup key group consumer _, .entries batch⟩ =>
    if key = k ∧ group = g then batch.map (·, consumer) else []
  | _ => []

/-- What the command has acknowledged. -/
def acknowledged (k : κ) (g : γ) : StreamEvent κ γ χ φ → List StreamId
  | ⟨.xack key group id, .acked count⟩ => if key = k ∧ group = g ∧ count = 1 then [id] else []
  | _ => []

/-- Where the group that the command has created begins. -/
def starts (k : κ) (g : γ) : StreamEvent κ γ χ φ → List StreamId
  | ⟨.xgroupCreate key group _, .created start⟩ => if key = k ∧ group = g then [start] else []
  | _ => []

end StreamEvent

/-- What the server has executed, oldest first. -/
abbrev StreamTrace (κ γ χ φ : Type) : Type := List (StreamEvent κ γ χ φ)

namespace StreamTrace

/-- All entries that have ever been added under the key. -/
def added (t : StreamTrace κ γ χ φ) (k : κ) : List (StreamEntry φ) :=
  t.flatMap (StreamEvent.added k)

omit [DecidableEq γ] in
theorem mem_added {t : StreamTrace κ γ χ φ} {k : κ} {fields : φ} {maxlen : ℕ} {id : StreamId}
    (h : (.xadd k fields maxlen, .added id) ∈ t) : ⟨id, fields⟩ ∈ t.added k := by
  refine List.mem_flatMap.2 ⟨_, h, ?_⟩
  rw [StreamEvent.added, if_pos rfl]
  exact List.mem_singleton_self _

/-- All deliveries to the group. -/
def delivered (t : StreamTrace κ γ χ φ) (k : κ) (g : γ) : List (StreamEntry φ × χ) :=
  t.flatMap (StreamEvent.delivered k g)

/-- A batch is a stretch of all deliveries. -/
theorem sublist_delivered {t : StreamTrace κ γ χ φ} {k : κ} {g : γ} {consumer : χ} {count : ℕ}
    {batch : List (StreamEntry φ)} (h : (.xreadgroup k g consumer count, .entries batch) ∈ t) :
    (batch.map (·, consumer)).Sublist (t.delivered k g) := by
  obtain ⟨t₁, t₂, rfl⟩ := List.append_of_mem h
  have hbatch : StreamEvent.delivered k g
      (⟨.xreadgroup k g consumer count, .entries batch⟩ : StreamEvent κ γ χ φ) =
        batch.map (·, consumer) := if_pos ⟨rfl, rfl⟩
  rw [delivered, List.flatMap_append, List.flatMap_cons, hbatch]
  exact (List.sublist_append_left _ _).trans (List.sublist_append_right _ _)

/-- All acknowledgements by the group. -/
def acknowledged (t : StreamTrace κ γ χ φ) (k : κ) (g : γ) : List StreamId :=
  t.flatMap (StreamEvent.acknowledged k g)

/-- Where the group begins, once it has been created. -/
def starts (t : StreamTrace κ γ χ φ) (k : κ) (g : γ) : List StreamId :=
  t.flatMap (StreamEvent.starts k g)

/-- What was delivered and has not been acknowledged. -/
def unsettled (t : StreamTrace κ γ χ φ) (k : κ) (g : γ) : List (StreamEntry φ × χ) :=
  (t.delivered k g).filter fun d ↦ decide (d.1.id ∉ t.acknowledged k g)

end StreamTrace

end StreamTrace

/-! ### Accounts -/

section Accounts

variable {κ γ χ φ : Type} [DecidableEq κ] [DecidableEq γ]

/-- The entries of a stream are the last ones that were added. -/
structure StreamAccounts (k : κ) (t : StreamTrace κ γ χ φ) (s : Streams κ γ χ φ) : Prop where
  increasing : (t.added k).Pairwise fun a b ↦ a.id < b.id
  bounded : ∀ e ∈ t.added k, e.id ≤ (s.stream k).lastId
  kept : (s.stream k).entries <:+ t.added k

/-- What a group that begins at `start` has got, and what it has left. -/
structure GroupAccounts (k : κ) (g : γ) (t : StreamTrace κ γ χ φ) (st : RedisStream γ χ φ)
    (gr : ConsumerGroup χ) (start : StreamId) : Prop where
  created : t.starts k g = [start]
  start_le : start ≤ gr.lastDelivered
  passed : ∀ d ∈ t.delivered k g, d.1.id ≤ gr.lastDelivered
  /-- **What was delivered, and then what waits, is what was added**, in order, up to what has been
  trimmed before it was delivered. -/
  fifo : ((t.delivered k g).map Prod.fst ++ st.waiting gr.lastDelivered).Sublist
    ((t.added k).filter fun e ↦ decide (start < e.id))
  /-- What is pending was delivered once, and has not been acknowledged. -/
  pending : gr.pending.map (fun e ↦ (e.id, e.consumer, e.timesDelivered)) =
    (t.unsettled k g).map fun d ↦ (d.1.id, d.2, 1)
  acknowledged : ∀ id ∈ t.acknowledged k g, ∃ d ∈ t.delivered k g, d.1.id = id

/-- **The state follows from what has been executed.** -/
structure Accounts (k : κ) (g : γ) (t : StreamTrace κ γ χ φ) (s : Streams κ γ χ φ) : Prop
    extends StreamAccounts k t s where
  absent : s.group? k g = none →
    t.starts k g = [] ∧ t.delivered k g = [] ∧ t.acknowledged k g = []
  present : ∀ gr, s.group? k g = some gr →
    ∃ start, GroupAccounts k g t (s.stream k) gr start

theorem RedisStream.lt_nextId (last : StreamId) (now : ℕ) : last < nextId last now := by
  rw [nextId, ← toLex_ofLex last]
  split
  · next h => exact Prod.Lex.toLex_lt_toLex.2 (Or.inl h)
  · exact Prod.Lex.toLex_lt_toLex.2 (Or.inr ⟨rfl, Nat.lt_succ_self _⟩)

/-- **A batch, and then what waits after it**, is what waited before. -/
theorem take_append_filter {α τ : Type} [LinearOrder τ] {f : α → τ} {l : List α}
    (hsorted : l.Pairwise fun a b ↦ f a < f b) (last : τ) (count : ℕ) :
    let waiting := l.filter fun a ↦ decide (last < f a)
    let batch := waiting.take count
    batch ++ l.filter (fun a ↦ decide ((batch.getLast?.map f).getD last < f a)) = waiting := by
  intro waiting batch
  rcases hbatch : batch.getLast? with - | b
  · rw [List.getLast?_eq_none_iff.1 hbatch]
    rfl
  obtain ⟨init, hinit⟩ := List.getLast?_eq_some_iff.1 hbatch
  have hsplit : waiting = init ++ b :: waiting.drop count := by
    rw [List.append_cons, ← hinit, List.take_append_drop]
  have hpairs : (init ++ b :: waiting.drop count).Pairwise fun a b ↦ f a < f b :=
    hsplit ▸ hsorted.filter _
  obtain ⟨-, hafter, hcross⟩ := List.pairwise_append.1 hpairs
  have hlast : last < f b := by
    have hb : b ∈ waiting := by
      rw [hsplit]
      exact List.mem_append_right _ List.mem_cons_self
    exact of_decide_eq_true (List.mem_filter.1 hb).2
  have hrest : l.filter (fun a ↦ decide (f b < f a)) = waiting.drop count := by
    have hwaiting : l.filter (fun a ↦ decide (f b < f a)) =
        waiting.filter fun a ↦ decide (f b < f a) := by
      rw [List.filter_filter]
      refine List.filter_congr fun a _ ↦ ?_
      rw [Bool.eq_iff_iff, Bool.and_eq_true, decide_eq_true_iff, decide_eq_true_iff]
      exact ⟨fun h ↦ ⟨h, hlast.trans h⟩, And.left⟩
    have hinit' : init.filter (fun a ↦ decide (f b < f a)) = [] := by
      refine List.filter_eq_nil_iff.2 fun a ha ↦ ?_
      rw [decide_eq_true_iff]
      exact (hcross a ha b List.mem_cons_self).not_gt
    have hdrop : (waiting.drop count).filter (fun a ↦ decide (f b < f a)) = waiting.drop count :=
      List.filter_eq_self.2 fun a ha ↦ decide_eq_true ((List.pairwise_cons.1 hafter).1 a ha)
    rw [hwaiting, hsplit, List.filter_append, hinit', List.nil_append,
      List.filter_cons_of_neg (by simp), ← hsplit, hdrop]
  rw [Option.map_some, Option.getD_some, hrest, List.take_append_drop]

section Step

variable {k : κ} {g : γ} {t : StreamTrace κ γ χ φ} {s s' : Streams κ γ χ φ}
  {x : StreamEvent κ γ χ φ}

omit [DecidableEq γ] in
theorem Streams.stream_put_self (s : Streams κ γ χ φ) (k : κ) (st : RedisStream γ χ φ) :
    (s.put k st).stream k = st := by
  rw [stream, put, if_pos rfl]
  rfl

omit [DecidableEq γ] in
theorem Streams.stream_put_of_ne (s : Streams κ γ χ φ) {k k' : κ} (h : k ≠ k')
    (st : RedisStream γ χ φ) : (s.put k' st).stream k = s.stream k := by
  rw [stream, put, if_neg h]
  rfl

theorem Streams.group?_setGroup_self (s : Streams κ γ χ φ) (k : κ) (g : γ)
    (gr : ConsumerGroup χ) :
    (s.put k ((s.stream k).setGroup g gr)).group? k g = some gr := by
  rw [group?, stream_put_self]
  exact Function.update_self g _ _

theorem Streams.group?_setGroup_of_ne (s : Streams κ γ χ φ) (k : κ) {g g' : γ} (h : g ≠ g')
    (gr : ConsumerGroup χ) :
    (s.put k ((s.stream k).setGroup g' gr)).group? k g = s.group? k g := by
  rw [group?, stream_put_self]
  exact Function.update_of_ne h _ _

omit [DecidableEq γ] in
theorem Streams.group?_put_of_ne (s : Streams κ γ χ φ) {k k' : κ} (h : k ≠ k')
    (st : RedisStream γ χ φ) (g : γ) : (s.put k' st).group? k g = s.group? k g := by
  rw [group?, stream_put_of_ne s h]
  rfl

namespace StreamTrace

omit [DecidableEq γ] in
theorem added_concat (t : StreamTrace κ γ χ φ) (x : StreamEvent κ γ χ φ) (k : κ) :
    added (t ++ [x]) k = t.added k ++ x.added k := by
  simp [added]

theorem delivered_concat (t : StreamTrace κ γ χ φ) (x : StreamEvent κ γ χ φ) (k : κ) (g : γ) :
    delivered (t ++ [x]) k g = t.delivered k g ++ x.delivered k g := by
  simp [delivered]

theorem acknowledged_concat (t : StreamTrace κ γ χ φ) (x : StreamEvent κ γ χ φ) (k : κ) (g : γ) :
    acknowledged (t ++ [x]) k g = t.acknowledged k g ++ x.acknowledged k g := by
  simp [acknowledged]

theorem starts_concat (t : StreamTrace κ γ χ φ) (x : StreamEvent κ γ χ φ) (k : κ) (g : γ) :
    starts (t ++ [x]) k g = t.starts k g ++ x.starts k g := by
  simp [starts]

omit [DecidableEq γ] in
theorem added_concat_of_nil (h : x.added k = []) : added (t ++ [x]) k = t.added k := by
  rw [added_concat, h, List.append_nil]

theorem delivered_concat_of_nil (h : x.delivered k g = []) :
    delivered (t ++ [x]) k g = t.delivered k g := by
  rw [delivered_concat, h, List.append_nil]

theorem acknowledged_concat_of_nil (h : x.acknowledged k g = []) :
    acknowledged (t ++ [x]) k g = t.acknowledged k g := by
  rw [acknowledged_concat, h, List.append_nil]

theorem starts_concat_of_nil (h : x.starts k g = []) :
    starts (t ++ [x]) k g = t.starts k g := by
  rw [starts_concat, h, List.append_nil]

theorem unsettled_concat_of_nil (hdelivered : x.delivered k g = [])
    (hack : x.acknowledged k g = []) : unsettled (t ++ [x]) k g = t.unsettled k g := by
  rw [unsettled, delivered_concat_of_nil hdelivered, acknowledged_concat_of_nil hack, unsettled]

end StreamTrace

/-- **What has nothing to do with the stream and the group** leaves their accounts alone. -/
theorem Accounts.frame (h : Accounts k g t s) (hadded : x.added k = [])
    (hdelivered : x.delivered k g = []) (hack : x.acknowledged k g = [])
    (hstarts : x.starts k g = []) (hentries : (s'.stream k).entries = (s.stream k).entries)
    (hlast : (s'.stream k).lastId = (s.stream k).lastId) (hgroup : s'.group? k g = s.group? k g) :
    Accounts k g (t ++ [x]) s' := by
  have hdelivered' := StreamTrace.delivered_concat_of_nil (t := t) hdelivered
  have hack' := StreamTrace.acknowledged_concat_of_nil (t := t) hack
  have hadded' := StreamTrace.added_concat_of_nil (t := t) hadded
  have hstarts' := StreamTrace.starts_concat_of_nil (t := t) hstarts
  refine ⟨⟨?_, ?_, ?_⟩, ?_, ?_⟩
  · rw [hadded']
    exact h.increasing
  · rw [hadded', hlast]
    exact h.bounded
  · rw [hadded', hentries]
    exact h.kept
  · rw [hgroup, hstarts', hdelivered', hack']
    exact h.absent
  · intro gr hgr
    obtain ⟨start, hG⟩ := h.present gr (hgroup ▸ hgr)
    have hwaiting : (s'.stream k).waiting gr.lastDelivered =
        (s.stream k).waiting gr.lastDelivered := by
      rw [RedisStream.waiting, hentries]
      rfl
    refine ⟨start, hstarts' ▸ hG.created, hG.start_le, hdelivered' ▸ hG.passed, ?_, ?_, ?_⟩
    · rw [hdelivered', hadded', hwaiting]
      exact hG.fifo
    · rw [StreamTrace.unsettled_concat_of_nil hdelivered hack]
      exact hG.pending
    · rw [hack', hdelivered']
      exact hG.acknowledged

omit [DecidableEq γ] in
/-- An added entry is newer than all others, and nothing else enters the stream. -/
theorem StreamAccounts.xadd (h : StreamAccounts k t s) (fields : φ) (maxlen : ℕ) (m : Moment) :
    StreamAccounts k
      (t ++ [⟨.xadd k fields maxlen, .added (RedisStream.nextId (s.stream k).lastId m.now)⟩])
      (s.put k ((s.stream k).xadd fields maxlen m)) := by
  have hnext := RedisStream.lt_nextId (s.stream k).lastId m.now
  refine ⟨?_, ?_, ?_⟩ <;>
    simp only [StreamTrace.added_concat, StreamEvent.added, if_true, Streams.stream_put_self,
      RedisStream.xadd]
  · refine List.pairwise_append.2 ⟨h.increasing, List.pairwise_singleton _ _, ?_⟩
    intro a ha b hb
    rw [List.mem_singleton.1 hb]
    exact (h.bounded a ha).trans_lt hnext
  · intro e he
    rcases List.mem_append.1 he with he | he
    · exact (h.bounded e he).trans hnext.le
    · rw [List.mem_singleton.1 he]
  · exact (List.drop_suffix _ _).trans (List.suffix_append_self_iff.2 h.kept)

/-- The group after an entry has been added. -/
theorem GroupAccounts.xadd {gr : ConsumerGroup χ} {start : StreamId}
    (h : GroupAccounts k g t (s.stream k) gr start) (fields : φ) (maxlen : ℕ) (m : Moment) :
    GroupAccounts k g
      (t ++ [⟨.xadd k fields maxlen, .added (RedisStream.nextId (s.stream k).lastId m.now)⟩])
      ((s.stream k).xadd fields maxlen m) gr start := by
  set e : StreamEntry φ := ⟨RedisStream.nextId (s.stream k).lastId m.now, fields⟩
  have hdelivered := StreamTrace.delivered_concat_of_nil (t := t) (k := k) (g := g)
    (x := ⟨.xadd k fields maxlen, .added e.id⟩) rfl
  have hack := StreamTrace.acknowledged_concat_of_nil (t := t) (k := k) (g := g)
    (x := ⟨.xadd k fields maxlen, .added e.id⟩) rfl
  refine ⟨?_, h.start_le, hdelivered ▸ h.passed, ?_, ?_, ?_⟩
  · rw [StreamTrace.starts_concat_of_nil rfl]
    exact h.created
  · rw [hdelivered, StreamTrace.added_concat, List.filter_append, StreamEvent.added, if_pos rfl]
    have hwaiting : (((s.stream k).xadd fields maxlen m).waiting gr.lastDelivered).Sublist
        ((s.stream k).waiting gr.lastDelivered ++
          [e].filter fun e ↦ decide (gr.lastDelivered < e.id)) := by
      rw [RedisStream.waiting, RedisStream.waiting, ← List.filter_append]
      exact (List.drop_sublist _ _).filter _
    have hnew : ([e].filter fun e ↦ decide (gr.lastDelivered < e.id)).Sublist
        ([e].filter fun e ↦ decide (start < e.id)) := by
      refine List.monotone_filter_right _ fun a ha ↦ ?_
      exact decide_eq_true (h.start_le.trans_lt (of_decide_eq_true ha))
    exact ((List.Sublist.refl _).append hwaiting).trans
      ((List.append_assoc _ _ _).symm ▸ h.fifo.append hnew)
  · rw [StreamTrace.unsettled_concat_of_nil rfl rfl]
    exact h.pending
  · rw [hack, hdelivered]
    exact h.acknowledged

theorem Accounts.xadd (h : Accounts k g t s) (fields : φ) (maxlen : ℕ) (m : Moment) :
    Accounts k g
      (t ++ [⟨.xadd k fields maxlen, .added (RedisStream.nextId (s.stream k).lastId m.now)⟩])
      (s.put k ((s.stream k).xadd fields maxlen m)) := by
  have hgroup : (s.put k ((s.stream k).xadd fields maxlen m)).group? k g = s.group? k g := by
    rw [Streams.group?, Streams.stream_put_self]
    rfl
  refine ⟨h.toStreamAccounts.xadd fields maxlen m, fun hnone ↦ ?_, fun gr hgr ↦ ?_⟩
  · obtain ⟨hstarts, hdelivered, hack⟩ := h.absent (hgroup ▸ hnone)
    rw [StreamTrace.starts_concat_of_nil rfl, StreamTrace.delivered_concat_of_nil rfl,
      StreamTrace.acknowledged_concat_of_nil rfl]
    exact ⟨hstarts, hdelivered, hack⟩
  · obtain ⟨start, hG⟩ := h.present gr (hgroup ▸ hgr)
    rw [Streams.stream_put_self]
    exact ⟨start, hG.xadd fields maxlen m⟩

/-- A new group has everything in front of it that is behind its start. -/
theorem Accounts.xgroupCreate (h : Accounts k g t s) (hnone : s.group? k g = none)
    (command : Option StreamId) (start : StreamId) :
    Accounts k g (t ++ [⟨.xgroupCreate k g command, .created start⟩])
      (s.put k ((s.stream k).setGroup g ⟨start, []⟩)) := by
  obtain ⟨hstarts, hdelivered, hack⟩ := h.absent hnone
  have hadded' := StreamTrace.added_concat_of_nil (t := t) (k := k)
    (x := ⟨.xgroupCreate k g command, .created start⟩) rfl
  have hdelivered' := StreamTrace.delivered_concat_of_nil (t := t) (k := k) (g := g)
    (x := ⟨.xgroupCreate k g command, .created start⟩) rfl
  have hack' := StreamTrace.acknowledged_concat_of_nil (t := t) (k := k) (g := g)
    (x := ⟨.xgroupCreate k g command, .created start⟩) rfl
  rw [hdelivered] at hdelivered'
  rw [hack] at hack'
  have hgroup := s.group?_setGroup_self k g ⟨start, []⟩
  refine ⟨⟨hadded' ▸ h.increasing, ?_, ?_⟩, fun hnone' ↦ ?_, fun gr hgr ↦ ⟨start, ?_⟩⟩
  · rw [hadded', Streams.stream_put_self]
    exact h.bounded
  · rw [hadded', Streams.stream_put_self]
    exact h.kept
  · rw [hgroup] at hnone'
    cases hnone'
  · rw [hgroup] at hgr
    cases hgr
    rw [Streams.stream_put_self]
    refine ⟨?_, le_rfl, ?_, ?_, ?_, ?_⟩
    · rw [StreamTrace.starts_concat, hstarts, StreamEvent.starts, if_pos ⟨rfl, rfl⟩]
      rfl
    · rw [hdelivered']
      exact fun d hd ↦ absurd hd List.not_mem_nil
    · rw [hdelivered', hadded']
      exact h.kept.sublist.filter _
    · rw [StreamTrace.unsettled, hdelivered']
      rfl
    · rw [hack']
      exact fun id hid ↦ absurd hid List.not_mem_nil

omit [DecidableEq κ] [DecidableEq γ] in
/-- The cursor does not go back, and passes the batch. -/
theorem ConsumerGroup.lastDelivered_deliver (gr : ConsumerGroup χ) (consumer : χ) (now : ℕ)
    {batch : List (StreamEntry φ)} (hsorted : batch.Pairwise fun a b ↦ a.id < b.id)
    (hnew : ∀ e ∈ batch, gr.lastDelivered < e.id) :
    gr.lastDelivered ≤ (gr.deliver consumer now batch).lastDelivered ∧
      ∀ e ∈ batch, e.id ≤ (gr.deliver consumer now batch).lastDelivered := by
  rw [deliver]
  rcases hlast : batch.getLast? with - | b
  · rw [List.getLast?_eq_none_iff.1 hlast]
    exact ⟨le_rfl, fun e he ↦ absurd he List.not_mem_nil⟩
  · obtain ⟨init, rfl⟩ := List.getLast?_eq_some_iff.1 hlast
    refine ⟨(hnew b (by simp)).le, fun e he ↦ ?_⟩
    rcases List.mem_append.1 he with he | he
    · exact ((List.pairwise_append.1 hsorted).2.2 e he b (List.mem_singleton_self b)).le
    · rw [List.mem_singleton.1 he]
      exact le_rfl

/-- The group after a batch has been delivered to one of its consumers. -/
theorem GroupAccounts.xreadgroup {gr : ConsumerGroup χ} {start : StreamId}
    (hs : StreamAccounts k t s) (h : GroupAccounts k g t (s.stream k) gr start) (consumer : χ)
    (count now : ℕ) :
    let batch := ((s.stream k).waiting gr.lastDelivered).take count
    GroupAccounts k g (t ++ [⟨.xreadgroup k g consumer count, .entries batch⟩])
      ((s.stream k).setGroup g (gr.deliver consumer now batch)) (gr.deliver consumer now batch)
      start := by
  intro batch
  set x : StreamEvent κ γ χ φ := ⟨.xreadgroup k g consumer count, .entries batch⟩
  have hsorted : (s.stream k).entries.Pairwise fun a b ↦ a.id < b.id :=
    hs.increasing.sublist hs.kept.sublist
  have hnew : ∀ e ∈ batch, gr.lastDelivered < e.id := fun e he ↦
    of_decide_eq_true (List.mem_filter.1 (List.mem_of_mem_take he)).2
  have hbatch : x.delivered k g = batch.map (·, consumer) := if_pos ⟨rfl, rfl⟩
  have hdelivered : StreamTrace.delivered (t ++ [x]) k g =
      t.delivered k g ++ batch.map (·, consumer) := by
    rw [StreamTrace.delivered_concat, hbatch]
  have hack : StreamTrace.acknowledged (t ++ [x]) k g = t.acknowledged k g :=
    StreamTrace.acknowledged_concat_of_nil rfl
  obtain ⟨hlast, hpassed⟩ := gr.lastDelivered_deliver consumer now
    ((hsorted.filter _).sublist (List.take_sublist count _)) hnew
  refine ⟨?_, h.start_le.trans hlast, ?_, ?_, ?_, ?_⟩
  · rw [StreamTrace.starts_concat_of_nil rfl]
    exact h.created
  · rw [hdelivered]
    intro d hd
    rcases List.mem_append.1 hd with hd | hd
    · exact (h.passed d hd).trans hlast
    · obtain ⟨e, he, rfl⟩ := List.mem_map.1 hd
      exact hpassed e he
  · rw [hdelivered, StreamTrace.added_concat_of_nil rfl, List.map_append, List.map_map,
      List.append_assoc]
    have hsplit : batch.map (Prod.fst ∘ (·, consumer)) ++
        ((s.stream k).setGroup g (gr.deliver consumer now batch)).waiting
          (gr.deliver consumer now batch).lastDelivered =
        (s.stream k).waiting gr.lastDelivered := by
      rw [show Prod.fst ∘ (fun e : StreamEntry φ ↦ (e, consumer)) = id from rfl, List.map_id]
      exact take_append_filter hsorted gr.lastDelivered count
    rw [hsplit]
    exact h.fifo
  · -- What is acknowledged has been delivered before.
    have hfresh : (batch.map (·, consumer)).filter
        (fun d ↦ decide (d.1.id ∉ t.acknowledged k g)) = batch.map (·, consumer) := by
      refine List.filter_eq_self.2 fun d hd ↦ decide_eq_true fun hmem ↦ ?_
      obtain ⟨e, he, rfl⟩ := List.mem_map.1 hd
      obtain ⟨d', hd', hid⟩ := h.acknowledged _ hmem
      exact absurd (hnew e he) (not_lt.2 (hid ▸ h.passed d' hd'))
    have hunsettled : StreamTrace.unsettled (t ++ [x]) k g =
        t.unsettled k g ++ batch.map (·, consumer) := by
      rw [StreamTrace.unsettled, hdelivered, hack, List.filter_append, hfresh,
        StreamTrace.unsettled]
    rw [hunsettled, List.map_append, ← h.pending, ConsumerGroup.deliver, List.map_append,
      List.map_map, List.map_map]
    rfl
  · rw [hack, hdelivered]
    intro id hid
    obtain ⟨d, hd, hid⟩ := h.acknowledged id hid
    exact ⟨d, List.mem_append_left _ hd, hid⟩

/-- The group after a pending entry has been acknowledged. -/
theorem GroupAccounts.xack {gr : ConsumerGroup χ} {start id : StreamId}
    (h : GroupAccounts k g t (s.stream k) gr start)
    (hid : gr.pending.any (fun e ↦ decide (e.id = id)) = true) :
    GroupAccounts k g (t ++ [⟨.xack k g id, .acked 1⟩]) ((s.stream k).setGroup g (gr.ack id))
      (gr.ack id) start := by
  set x : StreamEvent κ γ χ φ := ⟨.xack k g id, .acked 1⟩
  have hdelivered : StreamTrace.delivered (t ++ [x]) k g = t.delivered k g :=
    StreamTrace.delivered_concat_of_nil rfl
  have hack : StreamTrace.acknowledged (t ++ [x]) k g = t.acknowledged k g ++ [id] := by
    rw [StreamTrace.acknowledged_concat]
    exact congrArg _ (if_pos ⟨rfl, rfl, rfl⟩)
  refine ⟨?_, h.start_le, hdelivered ▸ h.passed, ?_, ?_, ?_⟩
  · rw [StreamTrace.starts_concat_of_nil rfl]
    exact h.created
  · rw [hdelivered, StreamTrace.added_concat_of_nil rfl]
    exact h.fifo
  · have hunsettled : StreamTrace.unsettled (t ++ [x]) k g =
        (t.unsettled k g).filter fun d ↦ decide (d.1.id ≠ id) := by
      rw [StreamTrace.unsettled, hdelivered, hack, StreamTrace.unsettled, List.filter_filter]
      refine List.filter_congr fun d _ ↦ ?_
      rw [Bool.eq_iff_iff, Bool.and_eq_true]
      simp only [decide_eq_true_iff, List.mem_append, List.mem_singleton, not_or]
      exact and_comm
    have hkeep : ∀ l : List (StreamId × χ × ℕ), ∀ l' : List (StreamEntry φ × χ),
        l = l'.map (fun d ↦ (d.1.id, d.2, 1)) →
        l.filter (fun t ↦ decide (t.1 ≠ id)) =
          (l'.filter fun d ↦ decide (d.1.id ≠ id)).map fun d ↦ (d.1.id, d.2, 1) := by
      rintro _ l' rfl
      rw [List.filter_map]
      rfl
    rw [hunsettled, ← hkeep _ _ h.pending, ConsumerGroup.ack, List.filter_map]
    rfl
  · rw [hack, hdelivered]
    intro i hi
    rcases List.mem_append.1 hi with hi | hi
    · exact h.acknowledged i hi
    · rw [List.mem_singleton.1 hi]
      obtain ⟨e, he, heq⟩ := List.any_eq_true.1 hid
      have hmem : (e.id, e.consumer, e.timesDelivered) ∈
          (t.unsettled k g).map fun d ↦ (d.1.id, d.2, 1) :=
        h.pending ▸ List.mem_map_of_mem he
      obtain ⟨d, hd, hde⟩ := List.mem_map.1 hmem
      exact ⟨d, (List.mem_filter.1 hd).1, (congrArg Prod.fst hde).trans (of_decide_eq_true heq)⟩

/-- A group that has changed, with its accounts. -/
theorem Accounts.setGroup (h : Accounts k g t s) {gr : ConsumerGroup χ} {start : StreamId}
    (hadded : x.added k = [])
    (hG : GroupAccounts k g (t ++ [x]) ((s.stream k).setGroup g gr) gr start) :
    Accounts k g (t ++ [x]) (s.put k ((s.stream k).setGroup g gr)) := by
  have hadded' := StreamTrace.added_concat_of_nil (t := t) hadded
  have hgroup := s.group?_setGroup_self k g gr
  refine ⟨⟨hadded' ▸ h.increasing, ?_, ?_⟩, fun hnone ↦ ?_, fun gr' hgr' ↦ ⟨start, ?_⟩⟩
  · rw [hadded', Streams.stream_put_self]
    exact h.bounded
  · rw [hadded', Streams.stream_put_self]
    exact h.kept
  · rw [hgroup] at hnone
    cases hnone
  · rw [hgroup] at hgr'
    cases hgr'
    rw [Streams.stream_put_self]
    exact hG

/-- A group that is another one, or belongs to another stream. -/
theorem Accounts.setGroup_of_ne (h : Accounts k g t s) {k' : κ} {g' : γ} (hne : ¬(k' = k ∧ g' = g))
    (gr : ConsumerGroup χ) (hadded : x.added k = []) (hdelivered : x.delivered k g = [])
    (hack : x.acknowledged k g = []) (hstarts : x.starts k g = []) :
    Accounts k g (t ++ [x]) (s.put k' ((s.stream k').setGroup g' gr)) := by
  by_cases hk : k = k'
  · subst hk
    have hg : g ≠ g' := fun hg ↦ hne ⟨rfl, hg.symm⟩
    refine h.frame hadded hdelivered hack hstarts ?_ ?_ (s.group?_setGroup_of_ne k hg gr) <;>
      rw [Streams.stream_put_self] <;> rfl
  · refine h.frame hadded hdelivered hack hstarts ?_ ?_ (s.group?_put_of_ne hk _ g) <;>
      rw [Streams.stream_put_of_ne s hk]

/-- **Every command keeps the accounts** of every stream and group. -/
theorem Accounts.exec (h : Accounts k g t s) (m : Moment) (c : StreamCommand κ γ χ φ) :
    Accounts k g (t ++ [⟨c, (s.exec m c).1⟩]) (s.exec m c).2 := by
  cases c with
  | xadd k' fields maxlen =>
    by_cases hk : k = k'
    · subst hk
      exact h.xadd fields maxlen m
    · refine h.frame (if_neg (Ne.symm hk)) rfl rfl rfl ?_ ?_ (s.group?_put_of_ne hk _ g) <;>
        exact congrArg _ (s.stream_put_of_ne hk _)
  | xgroupCreate k' g' command =>
    rw [Streams.exec]
    rcases hgr : s.group? k' g' with - | gr
    swap
    · exact h.frame rfl rfl rfl rfl rfl rfl rfl
    by_cases hkg : k' = k ∧ g' = g
    · obtain ⟨rfl, rfl⟩ := hkg
      exact h.xgroupCreate hgr command _
    · exact h.setGroup_of_ne hkg _ rfl rfl rfl (if_neg hkg)
  | xreadgroup k' g' consumer count =>
    rw [Streams.exec]
    rcases hgr : s.group? k' g' with - | gr
    · exact h.frame rfl rfl rfl rfl rfl rfl rfl
    by_cases hkg : k' = k ∧ g' = g
    · obtain ⟨rfl, rfl⟩ := hkg
      obtain ⟨start, hG⟩ := h.present gr hgr
      exact h.setGroup rfl (hG.xreadgroup h.toStreamAccounts consumer count m.now)
    · exact h.setGroup_of_ne hkg _ rfl (if_neg hkg) rfl rfl
  | xack k' g' id =>
    rw [Streams.exec]
    rcases hgr : s.group? k' g' with - | gr
    · exact h.frame rfl rfl (if_neg fun h ↦ nomatch h.2.2) rfl rfl rfl rfl
    dsimp only
    split
    · next hid =>
      by_cases hkg : k' = k ∧ g' = g
      · obtain ⟨rfl, rfl⟩ := hkg
        obtain ⟨start, hG⟩ := h.present gr hgr
        exact h.setGroup rfl (hG.xack hid)
      · exact h.setGroup_of_ne hkg _ rfl rfl (if_neg fun h ↦ hkg ⟨h.1, h.2.1⟩) rfl
    · exact h.frame rfl rfl (if_neg fun h ↦ nomatch h.2.2) rfl rfl rfl rfl

end Step

theorem accounts_empty (k : κ) (g : γ) : Accounts k g [] (Streams.empty : Streams κ γ χ φ) where
  increasing := List.Pairwise.nil
  bounded _ he := absurd he List.not_mem_nil
  kept := List.suffix_refl _
  absent _ := ⟨rfl, rfl, rfl⟩
  present _ hgr := nomatch hgr

end Accounts

/-! ### Without loss -/

section Lossless

variable {κ γ χ φ : Type} [DecidableEq κ] [DecidableEq γ]

/-- How many entries the group has in front of it; all of them, before it has been created. -/
def Streams.backlog (s : Streams κ γ χ φ) (k : κ) (g : γ) : ℕ :=
  match s.group? k g with
  | some gr => ((s.stream k).waiting gr.lastDelivered).length
  | none => (s.stream k).entries.length

/-- The command does not add an entry to a backlog that has reached the maximum length. -/
def Streams.HasRoom (k : κ) (g : γ) (s : Streams κ γ χ φ) : StreamCommand κ γ χ φ → Prop
  | .xadd k' _ maxlen => k' = k → s.backlog k g < maxlen
  | _ => True

/-- What a group that begins at `start` has got, and then what waits, is all that was added. -/
structure GroupComplete (k : κ) (g : γ) (t : StreamTrace κ γ χ φ) (st : RedisStream γ χ φ)
    (gr : ConsumerGroup χ) (start : StreamId) : Prop where
  created : t.starts k g = [start]
  cursor : gr.lastDelivered = start ∨ gr.lastDelivered ≤ st.lastId
  fifo : (t.delivered k g).map Prod.fst ++ st.waiting gr.lastDelivered =
    (t.added k).filter fun e ↦ decide (start < e.id)

/-- **Nothing has been trimmed that the group has not got.** -/
structure Lossless (k : κ) (g : γ) (t : StreamTrace κ γ χ φ) (s : Streams κ γ χ φ) : Prop where
  absent : s.group? k g = none → (s.stream k).entries = t.added k
  present : ∀ gr, s.group? k g = some gr → ∃ start, GroupComplete k g t (s.stream k) gr start

/-- The oldest of a sorted list can go without a loss of those that are newer than a mark, if that
leaves room for them. -/
theorem filter_drop_of_room {α τ : Type} [LinearOrder τ] {f : α → τ} {l : List α}
    (hsorted : l.Pairwise fun a b ↦ f a < f b) {mark : τ} {n : ℕ}
    (hroom : n + (l.filter fun a ↦ decide (mark < f a)).length ≤ l.length) :
    (l.drop n).filter (fun a ↦ decide (mark < f a)) = l.filter fun a ↦ decide (mark < f a) := by
  have hsplit : l.filter (fun a ↦ decide (mark < f a)) =
      (l.take n).filter (fun a ↦ decide (mark < f a)) ++
        (l.drop n).filter fun a ↦ decide (mark < f a) := by
    rw [← List.filter_append, List.take_append_drop]
  by_contra hne
  -- Otherwise one of the dropped ones is newer than the mark, and then so are all that remain.
  have hold : ∃ a ∈ l.take n, mark < f a := by
    by_contra hnone
    have hnil : (l.take n).filter (fun a ↦ decide (mark < f a)) = [] :=
      List.filter_eq_nil_iff.2 fun a ha h ↦ hnone ⟨a, ha, of_decide_eq_true h⟩
    rw [hnil, List.nil_append] at hsplit
    exact hne hsplit.symm
  obtain ⟨a, ha, hmark⟩ := hold
  have hall : (l.drop n).filter (fun b ↦ decide (mark < f b)) = l.drop n := by
    refine List.filter_eq_self.2 fun b hb ↦ decide_eq_true (hmark.trans ?_)
    rw [← List.take_append_drop n l] at hsorted
    exact (List.pairwise_append.1 hsorted).2.2 a ha b hb
  have hpos : 0 < ((l.take n).filter fun a ↦ decide (mark < f a)).length :=
    List.length_pos_of_mem (List.mem_filter.2 ⟨ha, decide_eq_true hmark⟩)
  rw [hsplit, hall, List.length_append, List.length_drop] at hroom
  have hn : n ≤ l.length := by omega
  omega

section Step

variable {k : κ} {g : γ} {t : StreamTrace κ γ χ φ} {s s' : Streams κ γ χ φ}
  {x : StreamEvent κ γ χ φ}

omit [DecidableEq κ] [DecidableEq γ] in
theorem Streams.backlog_of_none (h : s.group? k g = none) :
    s.backlog k g = (s.stream k).entries.length := by
  rw [backlog, h]

omit [DecidableEq κ] [DecidableEq γ] in
theorem Streams.backlog_of_some {gr : ConsumerGroup χ} (h : s.group? k g = some gr) :
    s.backlog k g = ((s.stream k).waiting gr.lastDelivered).length := by
  rw [backlog, h]

theorem Lossless.frame (h : Lossless k g t s) (hadded : x.added k = [])
    (hdelivered : x.delivered k g = []) (hstarts : x.starts k g = [])
    (hentries : (s'.stream k).entries = (s.stream k).entries)
    (hlast : (s'.stream k).lastId = (s.stream k).lastId)
    (hgroup : s'.group? k g = s.group? k g) : Lossless k g (t ++ [x]) s' := by
  have hadded' := StreamTrace.added_concat_of_nil (t := t) hadded
  refine ⟨fun hnone ↦ ?_, fun gr hgr ↦ ?_⟩
  · rw [hadded', hentries]
    exact h.absent (hgroup ▸ hnone)
  · obtain ⟨start, hC⟩ := h.present gr (hgroup ▸ hgr)
    have hwaiting : (s'.stream k).waiting gr.lastDelivered =
        (s.stream k).waiting gr.lastDelivered := by
      rw [RedisStream.waiting, hentries]
      rfl
    have hcreated : StreamTrace.starts (t ++ [x]) k g = [start] := by
      rw [StreamTrace.starts_concat_of_nil hstarts]
      exact hC.created
    refine ⟨start, hcreated, hlast ▸ hC.cursor, ?_⟩
    rw [StreamTrace.delivered_concat_of_nil hdelivered, hadded', hwaiting]
    exact hC.fifo

/-- With room for the backlog, what is trimmed has been delivered. -/
theorem GroupComplete.xadd {gr : ConsumerGroup χ} {start : StreamId} (hs : StreamAccounts k t s)
    (hG : GroupAccounts k g t (s.stream k) gr start)
    (h : GroupComplete k g t (s.stream k) gr start) (fields : φ) {maxlen : ℕ} (m : Moment)
    (hroom : ((s.stream k).waiting gr.lastDelivered).length < maxlen) :
    GroupComplete k g
      (t ++ [⟨.xadd k fields maxlen, .added (RedisStream.nextId (s.stream k).lastId m.now)⟩])
      ((s.stream k).xadd fields maxlen m) gr start := by
  have hnext := RedisStream.lt_nextId (s.stream k).lastId m.now
  set e : StreamEntry φ := ⟨RedisStream.nextId (s.stream k).lastId m.now, fields⟩
  refine ⟨?_, h.cursor.imp_right fun hle ↦ hle.trans hnext.le, ?_⟩
  · rw [StreamTrace.starts_concat_of_nil rfl]
    exact h.created
  have hsorted : ((s.stream k).entries ++ [e]).Pairwise fun a b ↦ a.id < b.id := by
    refine List.pairwise_append.2 ⟨hs.increasing.sublist hs.kept.sublist,
      List.pairwise_singleton _ _, fun a ha b hb ↦ ?_⟩
    rw [List.mem_singleton.1 hb]
    exact (hs.bounded a (hs.kept.subset ha)).trans_lt hnext
  have hwaiting : ((s.stream k).xadd fields maxlen m).waiting gr.lastDelivered =
      (s.stream k).waiting gr.lastDelivered ++
        [e].filter fun e ↦ decide (gr.lastDelivered < e.id) := by
    rw [RedisStream.waiting, RedisStream.waiting, ← List.filter_append]
    refine filter_drop_of_room hsorted ?_
    change min m.trims (((s.stream k).entries ++ [e]).length - maxlen) + _ ≤ _
    have hbacklog : (((s.stream k).entries ++ [e]).filter
        fun e ↦ decide (gr.lastDelivered < e.id)).length ≤ maxlen := by
      rw [List.filter_append, List.length_append]
      have hone : ([e].filter fun e ↦ decide (gr.lastDelivered < e.id)).length ≤ 1 :=
        List.length_filter_le _ [e]
      rw [RedisStream.waiting] at hroom
      omega
    have hle := List.length_filter_le (fun e ↦ decide (gr.lastDelivered < e.id))
      ((s.stream k).entries ++ [e])
    have htrims := min_le_right m.trims (((s.stream k).entries ++ [e]).length - maxlen)
    omega
  have hsame : ([e].filter fun e ↦ decide (gr.lastDelivered < e.id)) =
      [e].filter fun e ↦ decide (start < e.id) := by
    refine List.filter_congr fun a ha ↦ ?_
    rw [List.mem_singleton.1 ha]
    rcases h.cursor with heq | hle
    · rw [heq]
    · have hlt : gr.lastDelivered < e.id := hle.trans_lt hnext
      rw [decide_eq_true hlt, decide_eq_true (hG.start_le.trans_lt hlt)]
  rw [StreamTrace.delivered_concat_of_nil rfl, StreamTrace.added_concat, List.filter_append,
    StreamEvent.added, if_pos rfl, hwaiting, ← List.append_assoc, h.fifo, hsame]

theorem GroupComplete.xreadgroup {gr : ConsumerGroup χ} {start : StreamId}
    (hs : StreamAccounts k t s) (h : GroupComplete k g t (s.stream k) gr start) (consumer : χ)
    (count now : ℕ) :
    let batch := ((s.stream k).waiting gr.lastDelivered).take count
    GroupComplete k g (t ++ [⟨.xreadgroup k g consumer count, .entries batch⟩])
      ((s.stream k).setGroup g (gr.deliver consumer now batch)) (gr.deliver consumer now batch)
      start := by
  intro batch
  have hsorted : (s.stream k).entries.Pairwise fun a b ↦ a.id < b.id :=
    hs.increasing.sublist hs.kept.sublist
  refine ⟨?_, ?_, ?_⟩
  · rw [StreamTrace.starts_concat_of_nil rfl]
    exact h.created
  · rw [ConsumerGroup.deliver]
    rcases hlast : batch.getLast? with - | b
    · exact h.cursor
    · have hb : b ∈ (s.stream k).entries :=
        (List.mem_filter.1 (List.mem_of_mem_take (List.mem_of_getLast? hlast))).1
      exact Or.inr (hs.bounded b (hs.kept.subset hb))
  · have hdelivered : StreamEvent.delivered k g
        (⟨.xreadgroup k g consumer count, .entries batch⟩ : StreamEvent κ γ χ φ) =
        batch.map (·, consumer) := if_pos ⟨rfl, rfl⟩
    rw [StreamTrace.delivered_concat, hdelivered, StreamTrace.added_concat_of_nil rfl,
      List.map_append, List.map_map, List.append_assoc, ← h.fifo]
    have hsplit : batch.map (Prod.fst ∘ (·, consumer)) ++
        ((s.stream k).setGroup g (gr.deliver consumer now batch)).waiting
          (gr.deliver consumer now batch).lastDelivered =
        (s.stream k).waiting gr.lastDelivered := by
      rw [show Prod.fst ∘ (fun e : StreamEntry φ ↦ (e, consumer)) = id from rfl, List.map_id]
      exact take_append_filter hsorted gr.lastDelivered count
    rw [hsplit]

/-- A group that has changed, and still lacks nothing. -/
theorem Lossless.setGroup {gr : ConsumerGroup χ} (start : StreamId)
    (hC : GroupComplete k g (t ++ [x]) ((s.stream k).setGroup g gr) gr start) :
    Lossless k g (t ++ [x]) (s.put k ((s.stream k).setGroup g gr)) := by
  have hgroup := s.group?_setGroup_self k g gr
  refine ⟨fun hnone ↦ ?_, fun gr' hgr' ↦ ⟨start, ?_⟩⟩
  · rw [hgroup] at hnone
    cases hnone
  · rw [hgroup] at hgr'
    cases hgr'
    rw [Streams.stream_put_self]
    exact hC

theorem Lossless.setGroup_of_ne (h : Lossless k g t s) {k' : κ} {g' : γ}
    (hne : ¬(k' = k ∧ g' = g)) (gr : ConsumerGroup χ) (hadded : x.added k = [])
    (hdelivered : x.delivered k g = []) (hstarts : x.starts k g = []) :
    Lossless k g (t ++ [x]) (s.put k' ((s.stream k').setGroup g' gr)) := by
  by_cases hk : k = k'
  · subst hk
    have hg : g ≠ g' := fun hg ↦ hne ⟨rfl, hg.symm⟩
    refine h.frame hadded hdelivered hstarts ?_ ?_ (s.group?_setGroup_of_ne k hg gr) <;>
      rw [Streams.stream_put_self] <;> rfl
  · refine h.frame hadded hdelivered hstarts ?_ ?_ (s.group?_put_of_ne hk _ g) <;>
      rw [Streams.stream_put_of_ne s hk]

/-- **A command that finds room loses nothing.** -/
theorem Lossless.exec (h : Lossless k g t s) (hacc : Accounts k g t s) (m : Moment)
    (c : StreamCommand κ γ χ φ) (hroom : s.HasRoom k g c) :
    Lossless k g (t ++ [⟨c, (s.exec m c).1⟩]) (s.exec m c).2 := by
  cases c with
  | xadd k' fields maxlen =>
    by_cases hk : k = k'
    swap
    · refine h.frame (if_neg (Ne.symm hk)) rfl rfl ?_ ?_ (s.group?_put_of_ne hk _ g) <;>
        exact congrArg _ (s.stream_put_of_ne hk _)
    subst hk
    have hgroup : (s.put k ((s.stream k).xadd fields maxlen m)).group? k g = s.group? k g := by
      rw [Streams.group?, Streams.stream_put_self]
      rfl
    have hroom' := hroom rfl
    refine ⟨fun hnone ↦ ?_, fun gr hgr ↦ ?_⟩
    · rw [Streams.backlog_of_none (hgroup.symm.trans hnone)] at hroom'
      have hfits : (s.stream k).entries.length + 1 - maxlen = 0 := by omega
      rw [StreamTrace.added_concat, ← h.absent (hgroup ▸ hnone), Streams.exec,
        Streams.stream_put_self, RedisStream.xadd, StreamEvent.added, if_pos rfl]
      dsimp only
      rw [RedisStream.trimmed, List.length_append, List.length_singleton, hfits, Nat.min_zero,
        List.drop_zero]
    · rw [Streams.backlog_of_some (hgroup.symm.trans hgr)] at hroom'
      obtain ⟨start, hC⟩ := h.present gr (hgroup ▸ hgr)
      obtain ⟨start', hG⟩ := hacc.present gr (hgroup ▸ hgr)
      obtain rfl : start' = start := List.singleton_inj.1 (hG.created.symm.trans hC.created)
      rw [Streams.exec, Streams.stream_put_self]
      exact ⟨start', hC.xadd hacc.toStreamAccounts hG fields m hroom'⟩
  | xgroupCreate k' g' command =>
    rw [Streams.exec]
    rcases hgr : s.group? k' g' with - | gr
    swap
    · exact h.frame rfl rfl rfl rfl rfl rfl
    by_cases hkg : k' = k ∧ g' = g
    swap
    · exact h.setGroup_of_ne hkg _ rfl rfl (if_neg hkg)
    obtain ⟨rfl, rfl⟩ := hkg
    obtain ⟨hstarts, hdelivered, -⟩ := hacc.absent hgr
    refine Lossless.setGroup (command.getD (s.stream k').lastId) ⟨?_, Or.inl rfl, ?_⟩
    · rw [StreamTrace.starts_concat, hstarts, StreamEvent.starts, if_pos ⟨rfl, rfl⟩]
      rfl
    · rw [StreamTrace.delivered_concat_of_nil rfl, hdelivered, StreamTrace.added_concat_of_nil rfl,
        ← h.absent hgr]
      rfl
  | xreadgroup k' g' consumer count =>
    rw [Streams.exec]
    rcases hgr : s.group? k' g' with - | gr
    · exact h.frame rfl rfl rfl rfl rfl rfl
    by_cases hkg : k' = k ∧ g' = g
    · obtain ⟨rfl, rfl⟩ := hkg
      obtain ⟨start, hC⟩ := h.present gr hgr
      exact Lossless.setGroup start (hC.xreadgroup hacc.toStreamAccounts consumer count m.now)
    · exact h.setGroup_of_ne hkg _ rfl (if_neg hkg) rfl
  | xack k' g' id =>
    rw [Streams.exec]
    rcases hgr : s.group? k' g' with - | gr
    · exact h.frame rfl rfl rfl rfl rfl rfl
    dsimp only
    split
    · by_cases hkg : k' = k ∧ g' = g
      · obtain ⟨rfl, rfl⟩ := hkg
        obtain ⟨start, hC⟩ := h.present gr hgr
        refine Lossless.setGroup start ⟨?_, hC.cursor, ?_⟩
        · rw [StreamTrace.starts_concat_of_nil rfl]
          exact hC.created
        · rw [StreamTrace.delivered_concat_of_nil rfl, StreamTrace.added_concat_of_nil rfl]
          exact hC.fifo
      · exact h.setGroup_of_ne hkg _ rfl rfl rfl
    · exact h.frame rfl rfl rfl rfl rfl rfl

end Step

theorem lossless_empty (k : κ) (g : γ) : Lossless k g [] (Streams.empty : Streams κ γ χ φ) where
  absent _ := rfl
  present _ hgr := nomatch hgr

end Lossless

end ZanovixCrm
