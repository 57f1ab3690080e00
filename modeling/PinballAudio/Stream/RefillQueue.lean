import PinballAudio.Board
import PinballAudio.Stream.Ring

/-!
# The refill queue

The consumer tells the producer which half to reload by posting it to a queue of depth two; a
half already waiting is not posted again, so at most one message per half is ever queued and the
queue never overflows. The view is the list of queued halves, oldest first; the pending flag of a
half is set exactly while it is in the list.
-/

namespace PinballAudio

/-- Halves waiting to be refilled, oldest first, with a pending flag per half. -/
structure RefillQueue where
  queued : List Half := []
  lowerPending : Bool := false
  upperPending : Bool := false
  deriving DecidableEq, Repr

namespace RefillQueue

def isPending (q : RefillQueue) : Half → Bool
  | .lower => q.lowerPending
  | .upper => q.upperPending

def setPending (q : RefillQueue) (h : Half) (v : Bool) : RefillQueue :=
  match h with
  | .lower => { q with lowerPending := v }
  | .upper => { q with upperPending := v }

/-- Queue the half unless it is already waiting or the queue is full; `true` when queued. -/
def post (h : Half) (q : RefillQueue) : Bool × RefillQueue :=
  if q.isPending h then (false, q)
  else if q.queued.length < Board.refillQueueDepth then
    (true, { (q.setPending h true) with queued := q.queued ++ [h] })
  else (false, q)

/-- Take the oldest waiting half and clear its flag. -/
def tryNext (q : RefillQueue) : Option Half × RefillQueue :=
  match q.queued with
  | [] => (none, q)
  | h :: rest => (some h, { (q.setPending h false) with queued := rest })

def len (q : RefillQueue) : Nat := q.queued.length

def isEmpty (q : RefillQueue) : Bool := q.queued.isEmpty

theorem queued_setPending (q : RefillQueue) (h : Half) (v : Bool) :
    (q.setPending h v).queued = q.queued := by
  cases h <;> rfl

end RefillQueue

end PinballAudio
