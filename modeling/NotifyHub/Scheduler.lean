import NotifyHub.NotificationRepository
import NotifyHub.Queue

/-! # `Scheduler.enqueue`

The second producer of notification messages. The envelope literal is a copy of
the service's, written out separately in the source; it leaves `TenantID` at its
zero value.
-/

namespace NotifyHub.Scheduler

def enqueue (maxRetries : Int) (n : Notification) (now : Time) : Publication Message :=
  { topic := topicForChannel n.channel
    key := n.recipientID
    value :=
      { notificationID := n.id
        tenantID := UUID.zero
        channel := n.channel
        recipientID := n.recipientID
        recipientAddress := n.recipientAddress
        templateID := n.templateID
        payload := n.payload
        priority := n.priority
        attempt := 1
        maxAttempts := maxRetries
        enqueuedAt := now } }

end NotifyHub.Scheduler
