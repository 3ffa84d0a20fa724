import ZanovixCrm.Library.Clients
import ZanovixCrm.Library.PythonJson
import ZanovixCrm.Library.Streams

/-!
# Messages over Redis Streams

The functions of `redis_client` that hand messages from one worker to another: put a message into a
stream, read as a member of a consumer group, acknowledge, and set aside what cannot be processed.
Each is a program that asks the Redis server; the client repeats a command whose answer does not
come in time, so that a command may be executed more than once.

`RedisSystem` is any number of calls of these functions at work on one server.
-/

namespace ZanovixCrm

/-- An exception of the client library, with its text. -/
inductive RedisException where
  | connectionError (text : String)
  /-- Any other one. -/
  | other (text : String)

/-- What goes wrong before a command is sent, or after its answer has come. -/
inductive LocalError where
  /-- `DataError`: an argument of a command is out of its range. -/
  | dataError
  /-- `ValueError`: an integer has too many digits. -/
  | valueError
  /-- `UnicodeEncodeError`: a text holds a surrogate. -/
  | unicodeEncodeError
deriving DecidableEq

/-- What a function raises. -/
inductive RedisRaised where
  | redisServiceError (message : String) (statusCode : ℕ)
  /-- An exception of the library that it does not catch. -/
  | uncaught (e : RedisException)

/-- What the functions take from the interpreter and the libraries. -/
structure RedisEnv where
  /-- `repr(float(text))`. -/
  canon : PyStr → PyStr
  /-- The text of an exception. -/
  text : LocalError → String

/-- The fields of an entry. -/
abbrev RedisFields : Type := List (PyStr × PyStr)

/-- The Redis server. Streams, groups and consumers have names. -/
abbrev RedisServer : Type := Streams String String String RedisFields

abbrev RedisCommand : Type := StreamCommand String String String RedisFields

abbrev RedisAnswer : Type := StreamAnswer RedisFields

/-- A function of the module. -/
abbrev RedisProgram (α : Type) : Type :=
  ClientProgram RedisCommand RedisAnswer RedisException RedisRaised α

/-! ### Constants -/

/-- `INCOMING_STREAM`. -/
def incomingStream : String := "incoming_messages"

/-- `CONSUMER_GROUP`. -/
def consumerGroup : String := "agent_workers"

/-- `DEAD_LETTER_STREAM`. -/
def deadLetterStream : String := "dead_letter_stream"

/-- `STREAM_MAX_LEN`. -/
def streamMaxLen : ℕ := 10000

/-! ### Functions -/

/-- The text of an identifier. -/
def streamIdText (id : StreamId) : PyStr :=
  PyJson.natDigits (ofLex id).1 ++ 0x2d :: PyJson.natDigits (ofLex id).2

/-- A text that can be sent. -/
def encodable (s : PyStr) : Bool := s.all fun c ↦ !PyJson.isHigh c && !PyJson.isLow c

/-- The name of the field that holds a message. -/
def dataKey : PyStr := PyStr.ofString "data"

/-- What three of the functions make of an exception. -/
def RedisRaised.ofException : RedisException → RedisRaised
  | .connectionError text => .redisServiceError ("Redis connection failed: " ++ text) 503
  | .other text => .redisServiceError ("Unexpected error: " ++ text) 503

/-- `add_to_stream`. -/
def addToStream (stream : String) (message : PyJson) (maxLen : ℤ := streamMaxLen) :
    RedisProgram StreamId :=
  match PyJson.dumps message with
  | .error _ => .raise (.redisServiceError "Service temporarily unavailable" 503)
  | .ok jsonMessage =>
    if maxLen < 0 then .raise (.redisServiceError "Service temporarily unavailable" 503)
    else .send (.xadd stream [(dataKey, jsonMessage)] maxLen.toNat) fun
      | .ok (.added messageId) => .ret messageId
      | .error (.connectionError _) =>
        .raise (.redisServiceError
          "Service temporarily unavailable (Redis connection failed)" 503)
      | _ => .raise (.redisServiceError "Service temporarily unavailable" 503)

/-- `create_consumer_group`. The default `start_id` is `0`, and `$` is `none`. -/
def createConsumerGroup (stream group : String) (startId : Option StreamId := some (toLex (0, 0))) :
    RedisProgram Bool :=
  .send (.xgroupCreate stream group startId) fun
    | .ok (.created _) => .ret true
    | .ok .busyGroup => .ret false
    | .ok _ => .raise (.redisServiceError "Failed to create consumer group" 503)
    | .error (.connectionError _) =>
      .raise (.redisServiceError
        "Service temporarily unavailable (Redis connection failed)" 503)
    | .error e => .raise (.uncaught e)

section Env

variable (env : RedisEnv)

/-- What `read_from_stream` makes of an entry. -/
def parseEntry (e : StreamEntry RedisFields) : Except LocalError (StreamId × PyJson) :=
  let rawData := (e.fields.reverse.lookup dataKey).getD (PyStr.ofString "\x7b\x7d")
  match PyJson.loads env.canon rawData with
  | .ok parsedData => .ok (e.id, parsedData)
  | .error .decode =>
    .ok (e.id, .dict [(PyStr.ofString "_raw", .str rawData),
      (PyStr.ofString "_parse_error", .bool true)])
  | .error .tooManyDigits => .error .valueError

/-- `read_from_stream`. -/
def readFromStream (stream group consumer : String) (count : ℤ := 1) (blockMs : ℤ := 5000) :
    RedisProgram (List (StreamId × PyJson)) :=
  if count < 1 ∨ blockMs < 0 then .raise (.ofException (.other (env.text .dataError)))
  else .send (.xreadgroup stream group consumer count.toNat) fun
    | .ok (.entries batch) =>
      match batch.mapM (parseEntry env) with
      | .ok result => .ret result
      | .error e => .raise (.ofException (.other (env.text e)))
    | .ok .noGroup => (createConsumerGroup stream group).bind fun _ ↦ .ret []
    | .ok _ => .raise (.ofException (.other ""))
    | .error e => .raise (.ofException e)

/-- `acknowledge_message`. -/
def acknowledgeMessage (stream group : String) (messageId : StreamId) : RedisProgram ℕ :=
  .send (.xack stream group messageId) fun
    | .ok (.acked ackCount) => .ret ackCount
    | .ok _ => .raise (.ofException (.other ""))
    | .error e => .raise (.ofException e)

/-- The fields of an entry of the dead letter stream. -/
def deadLetterFields (sourceStream group : String) (messageId : StreamId)
    (data error failedAt : PyStr) : RedisFields :=
  [(PyStr.ofString "original_stream", PyStr.ofString sourceStream),
    (PyStr.ofString "original_id", streamIdText messageId), (dataKey, data),
    (PyStr.ofString "error", error.take 1000), (PyStr.ofString "failed_at", failedAt),
    (PyStr.ofString "consumer_group", PyStr.ofString group)]

/-- `move_to_dead_letter`. The time, `failed_at`, is a text in ISO format. -/
def moveToDeadLetter (sourceStream group : String) (messageId : StreamId) (messageData : PyJson)
    (error failedAt : PyStr) : RedisProgram StreamId :=
  match PyJson.dumps messageData with
  | .error _ => .raise (.ofException (.other (env.text .valueError)))
  | .ok data =>
    let fields := deadLetterFields sourceStream group messageId data error failedAt
    if fields.all fun f ↦ encodable f.2 then
      .send (.xadd deadLetterStream fields streamMaxLen) fun
        | .ok (.added dlqId) => .send (.xack sourceStream group messageId) fun
          | .ok _ => .ret dlqId
          | .error e => .raise (.ofException e)
        | .ok _ => .raise (.ofException (.other ""))
        | .error e => .raise (.ofException e)
    else .raise (.ofException (.other (env.text .unicodeEncodeError)))

/-- What `get_pending_messages` says of a message. -/
structure PendingMessage where
  messageId : StreamId
  consumer : String
  idleTimeMs : ℕ
  deliveryCount : ℕ
deriving DecidableEq

/-- `get_pending_messages`, where the server is in this state at this time, or does not answer. -/
def getPendingMessages (answer : Except RedisException (ℕ × RedisServer)) (stream group : String)
    (count : ℤ := 10) : List PendingMessage :=
  match answer with
  | .error _ => []
  | .ok (now, server) =>
    if count < 0 then []
    else
      match server.xpendingRange stream group count.toNat with
      | none => []
      | some pending => pending.map fun p ↦
        ⟨p.id, p.consumer, now - p.deliveredAt, p.timesDelivered⟩

/-! ### Calls -/

/-- A call of a function. -/
inductive RedisCall where
  | addToStream (stream : String) (message : PyJson) (maxLen : ℤ)
  | createConsumerGroup (stream group : String) (startId : Option StreamId)
  | readFromStream (stream group consumer : String) (count blockMs : ℤ)
  | acknowledgeMessage (stream group : String) (messageId : StreamId)
  | moveToDeadLetter (sourceStream group : String) (messageId : StreamId) (messageData : PyJson)
    (error failedAt : PyStr)

/-- The result of a call. -/
inductive RedisResult where
  | messageId (id : StreamId)
  | created (new : Bool)
  | messages (received : List (StreamId × PyJson))
  | ackCount (count : ℕ)
  | deadLetterId (id : StreamId)

/-- What a call does. -/
def RedisCall.program : RedisCall → RedisProgram RedisResult
  | .addToStream stream message maxLen =>
    (ZanovixCrm.addToStream stream message maxLen).map .messageId
  | .createConsumerGroup stream group startId =>
    (ZanovixCrm.createConsumerGroup stream group startId).map .created
  | .readFromStream stream group consumer count blockMs =>
    (ZanovixCrm.readFromStream env stream group consumer count blockMs).map .messages
  | .acknowledgeMessage stream group messageId =>
    (ZanovixCrm.acknowledgeMessage stream group messageId).map .ackCount
  | .moveToDeadLetter sourceStream group messageId messageData error failedAt =>
    (ZanovixCrm.moveToDeadLetter env sourceStream group messageId messageData error
      failedAt).map .deadLetterId

/-- Calls at work on a server. -/
abbrev RedisSystem : Type :=
  ClientSystem RedisServer RedisCall RedisCommand RedisAnswer RedisException RedisRaised RedisResult

abbrev RedisEvent : Type := ClientEvent Moment RedisCall RedisException

/-- One more event. -/
def RedisSystem.step (s : RedisSystem) (e : RedisEvent) : RedisSystem :=
  ClientSystem.step Streams.exec (RedisCall.program env) s e

/-- **A run**: calls are made, their commands are executed in some order, and answers are lost. -/
def RedisSystem.run (events : List RedisEvent) : RedisSystem :=
  ClientSystem.run Streams.exec (RedisCall.program env) Streams.empty events

end Env

namespace RedisSystem

variable (s : RedisSystem) (stream group : String)

/-- Everything that has ever been put into a stream. -/
def added : List (StreamEntry RedisFields) := StreamTrace.added s.log stream

/-- What the server has handed to the consumers of a group, and to whom. -/
def deliveries : List (StreamEntry RedisFields × String) := StreamTrace.delivered s.log stream group

/-- What the group has acknowledged. -/
def acknowledged : List StreamId := StreamTrace.acknowledged s.log stream group

/-- What is in the stream and has not been handed to the group. -/
def waiting : List (StreamEntry RedisFields) :=
  match s.server.group? stream group with
  | some gr => (s.server.stream stream).waiting gr.lastDelivered
  | none => (s.server.stream stream).entries

/-- The identifiers that a call of `read_from_stream` on behalf of a group returns. -/
def receivedIds (stream group : String) : RedisCall → RedisResult → List StreamId
  | .readFromStream stream' group' _ _ _, .messages received =>
    if stream' = stream ∧ group' = group then received.map Prod.fst else []
  | _, _ => []

/-- What all calls of `read_from_stream` on behalf of a group have returned. -/
def received : List StreamId := s.yielded (receivedIds stream group)

/-- The event puts nothing into the stream while as many messages as that wait for the group as the
stream holds at most. -/
def HasRoom (stream group : String) (s : RedisSystem) : RedisEvent → Prop
  | .execute i _ _ =>
    match s.calls[i]? with
    | some (_, .send cmd _) => s.server.HasRoom stream group cmd
    | _ => True
  | _ => True

end RedisSystem

/-- The call was made with values of Python. -/
def RedisCall.IsData (canon : PyStr → PyStr) : RedisCall → Prop
  | .addToStream _ message _ => PyJson.IsData canon message
  | .moveToDeadLetter _ _ _ messageData _ _ => PyJson.IsData canon messageData
  | _ => True

end ZanovixCrm
