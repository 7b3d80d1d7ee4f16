import NotifyHub.Domain

/-! # Kafka envelopes and topic names -/

namespace NotifyHub

/-- The envelope for one notification dispatch attempt, shared by the producers
    (API, scheduler, replay) and the worker. -/
structure Message where
  notificationID : UUID
  tenantID : UUID
  channel : Channel
  recipientID : String
  recipientAddress : String
  templateID : Option UUID
  payload : JSONMap
  priority : Int
  attempt : Int
  maxAttempts : Int
  enqueuedAt : Time
  deriving Repr, DecidableEq

def topicForChannel (ch : Channel) : String := "notifyhub.notifications." ++ ch.text

/-- Written to a DLQ topic when a notification fails for good. -/
structure DLQMessage where
  original : Message
  originalTopic : String
  failureReason : String
  errorMessage : String
  lastAttempt : Int
  deadLetteredAt : Time
  deriving Repr, DecidableEq

/-- The envelope for one outbound webhook dispatch attempt. -/
structure WebhookMessage where
  tenantID : UUID
  endpointID : UUID
  deliveryID : UUID
  notificationID : Option UUID
  event : String
  payload : JSONMap
  endpointURL : String
  secret : String
  attempt : Int
  maxAttempts : Int
  enqueuedAt : Time
  deriving Repr, DecidableEq

/-- One publish call: topic, partition key and value. -/
structure Publication (α : Type) where
  topic : String
  key : String
  value : α
  deriving Repr, DecidableEq

/-- Encoding of envelopes: what is written is read back. -/
structure Codec (α Bytes : Type) where
  marshal : α → Bytes
  unmarshal : Bytes → Option α
  roundTrip : ∀ x, unmarshal (marshal x) = some x

end NotifyHub
