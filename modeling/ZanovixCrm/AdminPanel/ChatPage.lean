import ZanovixCrm.Database.Models
import ZanovixCrm.Library.Cursor

/-!
# The chat of the portal

`ChatPage` keeps a list of messages and, in a ref, the `created_at` of the last one that it has put
there. The initial load replaces the list; the polls, every ten seconds while the page is visible,
and `handleSend` append to it. All of them are asynchronous, and a second request for the same
messages is joined to the one in flight. The flags that gate the spinner and the button are left
out.

The page is put together here with a server that commits messages in the order of their stamps and
answers a request with the oldest 50 that are newer than `since`.
-/

namespace ZanovixCrm

/-- The state of `ChatPage`. -/
structure ChatPage where
  messages : List Message
  sinceRef : Option Time
deriving DecidableEq

/-- A call of `getMyMessages` in flight, with those who wait for it. -/
structure Fetch where
  since : Option Time
  /-- The initial load is one of them, and the first. -/
  initial : Bool
  /-- The number of polls. -/
  polls : ℕ
  /-- `items`, once the server has answered. -/
  answer : Option (List Message)
deriving DecidableEq

/-- A call of `postMyMessage` in flight. -/
structure Sending where
  body : String
  /-- The message, once the server has committed it. -/
  answer : Option Message
deriving DecidableEq

/-- The page, what it has in flight, and the thread on the server. -/
structure Chat where
  thread : List Message
  page : ChatPage
  fetches : List Fetch
  sendings : List Sending
deriving DecidableEq

/-- What happens. -/
inductive ChatEvent where
  /-- Another message is committed. -/
  | commit (m : Message)
  /-- The interval fires. -/
  | tick (visible : Bool)
  /-- The server answers a fetch, the answer arrives, or the fetch fails. -/
  | answerFetch (i : ℕ)
  | deliverFetch (i : ℕ)
  | failFetch (i : ℕ)
  /-- `handleSend`, with what is left of the text when it is trimmed. -/
  | send (trimmed : String)
  /-- The server commits the message, the answer arrives, or the request fails. -/
  | answerSend (i : ℕ) (m : Message)
  | deliverSend (i : ℕ)
  | failSend (i : ℕ)
deriving DecidableEq

/-- What `loadMessages` does with the items that it has got. -/
def ChatPage.receive (initial : Bool) (items : List Message) (page : ChatPage) : ChatPage :=
  match items.getLast? with
  | none => page
  | some latest => ⟨if initial then items else page.messages ++ items, some latest.createdAt⟩

/-- What `handleSend` does with the message that it has sent. -/
def ChatPage.append (sent : Message) (page : ChatPage) : ChatPage :=
  ⟨page.messages ++ [sent], some sent.createdAt⟩

/-- Everyone who waits for the fetch receives its items. -/
def Fetch.deliver (f : Fetch) (items : List Message) (page : ChatPage) : ChatPage :=
  (ChatPage.receive false items)^[f.polls] (if f.initial then page.receive true items else page)

/-- The number of calls that wait for the fetch. -/
def Fetch.callers (f : Fetch) : ℕ := (if f.initial then 1 else 0) + f.polls

namespace Chat

/-- The page has just been mounted: the initial load is in flight. -/
def mounted (thread : List Message) : Chat := ⟨thread, ⟨[], none⟩, [⟨none, true, 0, none⟩], []⟩

/-- The stamp comes after all others. -/
def isNewest (c : Chat) (m : Message) : Bool :=
  c.thread.all fun x ↦ decide (x.createdAt < m.createdAt)

/-- The page of the thread that the server answers. -/
def itemsSince (c : Chat) (since : Option Time) : List Message :=
  (c.thread.filter (Reader.due Message.createdAt since)).take 50

/-- `loadMessages(false)`. -/
def poll (c : Chat) : Chat :=
  if c.fetches.any fun f ↦ decide (f.since = c.page.sinceRef) then
    { c with
      fetches := c.fetches.map fun f ↦
        if f.since = c.page.sinceRef then { f with polls := f.polls + 1 } else f }
  else { c with fetches := c.fetches ++ [⟨c.page.sinceRef, false, 1, none⟩] }

/-- **One event.** One that cannot happen changes nothing. -/
def step (c : Chat) : ChatEvent → Chat
  | .commit m => if c.isNewest m then { c with thread := c.thread ++ [m] } else c
  | .tick visible => if visible then c.poll else c
  | .answerFetch i =>
    { c with
      fetches := c.fetches.modify i fun f ↦
        if f.answer.isNone then { f with answer := some (c.itemsSince f.since) } else f }
  | .deliverFetch i =>
    match c.fetches[i]? with
    | some f =>
      match f.answer with
      | some items => { c with page := f.deliver items c.page, fetches := c.fetches.eraseIdx i }
      | none => c
    | none => c
  | .failFetch i => { c with fetches := c.fetches.eraseIdx i }
  | .send trimmed =>
    if trimmed = "" then c else { c with sendings := c.sendings ++ [⟨trimmed, none⟩] }
  | .answerSend i m =>
    match c.sendings[i]? with
    | some q =>
      if q.answer.isNone && c.isNewest m && decide (m.body.val = q.body) then
        { c with
          thread := c.thread ++ [m]
          sendings := c.sendings.set i { q with answer := some m } }
      else c
    | none => c
  | .deliverSend i =>
    match c.sendings[i]? with
    | some q =>
      match q.answer with
      | some m => { c with page := c.page.append m, sendings := c.sendings.eraseIdx i }
      | none => c
    | none => c
  | .failSend i => { c with sendings := c.sendings.eraseIdx i }

end Chat

end ZanovixCrm
