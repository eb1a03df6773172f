import VideoShare.World

/-!
# Subscriptions

Every user is a channel that users subscribe to, themselves included. Subscribing twice is subscribing once, and leaving a channel
needs no subscription.
-/

namespace VideoShare

namespace Service

/-- Subscribes a user to a channel. -/
def subscribe (userId channelId : String) : Service Unit := transaction do
  let _ ← user userId .noUser
  let _ ← user channelId .noChannel
  if ((← database).subscription? userId channelId).isNone then
    let t ← now
    modifyDatabase (·.addSubscription ⟨userId, channelId, t⟩)

/-- Ends a user's subscription to a channel. -/
def unsubscribe (userId channelId : String) : Service Unit := transaction do
  let _ ← user userId .noUser
  modifyDatabase (·.removeSubscription userId channelId)

/-- Whether a user has subscribed to a channel. -/
def hasSubscribed (userId channelId : String) : Service Bool := do
  let _ ← user userId .noUser
  pure ((← database).subscription? userId channelId).isSome

/-- The channels a user has subscribed to, the oldest subscription first. -/
def subscribedChannels (userId : String) : Service (List User) := do
  let _ ← user userId (.noUserWithId userId)
  let db ← database
  pure ((db.subscriptionsOf userId).filterMap fun s => db.user? s.channelId)

end Service

end VideoShare
