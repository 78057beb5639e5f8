/-
  What can be read of a peer.

  1. **Data** — `WebSocket.pending` are the events in some messages, as far as a reader gets;
     `WebSocket.heard` is the socket of a keeper that has them in its queue.  `Socket.Reads s es s'`:
     these events can be read of a socket, one after the other.

  2. **Specification** — `next?_heard`: to read a WebSocket is to read that socket.
     `reads_events`: the events of a WebSocket are what is read of the socket up to the first close,
     and there is one, whatever the peer sends.

  3. **Crux** — each reading takes at least one message, and the end of the connection is read at
     most once before all reads as closed; so that two readings more than there are messages suffice
     (`leaves_next`).
-/
import VoiceTicket.Keeper.Socket

namespace VoiceTicket

/-- These events can be read of a socket, one after the other. -/
inductive Socket.Reads : Socket → List SocketEvent → Socket → Prop where
  | nil {s : Socket} : Reads s [] s
  | cons {s s' s'' : Socket} {e : SocketEvent} {es : List SocketEvent}
      (next : s.next? = some (e, s')) (rest : Reads s' es s'') : Reads s (e :: es) s''

namespace WebSocket

/-- The events in some messages; what is behind a close is not read. -/
def pending (drops : Bool) : List Message → List SocketEvent
  | [] => if drops then [.error resetMessage] else []
  | .text text :: rest => .text text :: pending drops rest
  | .binary bytes :: rest => .text (Text.Utf8.decodeLossy bytes) :: pending drops rest
  | .ping :: rest | .pong :: rest => pending drops rest
  | .close frame :: _ => [.closed (frame.bind CloseFrame.reason?)]

/-- The socket of a keeper whose peer has sent all that is still to be read. -/
def heard (s : WebSocket) : Socket :=
  { Socket.new false false with
    queue := if s.finished then [] else pending s.drops s.unread
    hungUp := true
    opened := true }

variable {s : WebSocket}

/-! ## One reading -/

theorem next?_heard_of_unfinished (drops : Bool) (messages : List Message) :
    (heard ⟨messages, drops, false⟩).next? =
      some ((read drops messages).1, (read drops messages).2.heard) := by
  induction messages with
  | nil => cases drops <;> rfl
  | cons message rest ih =>
    cases message with
    | text | binary | close => rfl
    -- What is passed over is neither in the queue nor read.
    | ping | pong => exact ih

/-- **To read a WebSocket is to read the socket of the keeper.** -/
theorem next?_heard (s : WebSocket) : s.heard.next? = some (s.next.1, s.next.2.heard) := by
  obtain ⟨unread, drops, finished⟩ := s
  cases finished with
  | true =>
    rw [next_of_finished rfl]
    rfl
  | false => exact next?_heard_of_unfinished drops unread

/-- What is still to be read, counted in readings up to the first close. -/
def left (s : WebSocket) : Nat := if s.finished then 1 else s.unread.length + 2

/-- What a reading comes to: a close, and the socket is finished, or something else, and less is left
to be read. -/
structure Leaves (before : Nat) (read : SocketEvent × WebSocket) : Prop where
  close : ∀ reason, read.1 = .closed reason → read.2.finished = true
  less : (∀ reason, read.1 ≠ .closed reason) → read.2.left < before

theorem leaves_read (drops : Bool) (messages : List Message) :
    Leaves (messages.length + 2) (read drops messages) := by
  induction messages with
  | nil =>
    cases drops with
    | true => exact ⟨fun reason closed => rfl, fun _ => show 1 < 2 by omega⟩
    | false => exact ⟨fun reason closed => rfl, fun others => absurd rfl (others none)⟩
  | cons message rest ih =>
    cases message with
    | text | binary =>
      refine ⟨fun reason closed => (by cases closed), fun _ => ?_⟩
      show rest.length + 2 < (rest.length + 1) + 2
      omega
    | ping | pong =>
      refine ⟨ih.close, fun others => ?_⟩
      have less := ih.less others
      show (read drops rest).2.left < (rest.length + 1) + 2
      omega
    | close frame => exact ⟨fun reason closed => rfl, fun others => absurd rfl (others _)⟩

theorem leaves_next (s : WebSocket) : Leaves s.left s.next := by
  obtain ⟨unread, drops, finished⟩ := s
  cases finished with
  | true =>
    rw [next_of_finished rfl]
    exact ⟨fun reason closed => rfl, fun others => absurd rfl (others none)⟩
  | false => exact leaves_read drops unread

/-! ## All readings -/

theorem left_pos (s : WebSocket) : 0 < s.left := by
  rw [left]
  split <;> omega

theorem eventsFor_succ (fuel : Nat) (s : WebSocket) :
    (∃ reason, s.next.1 = .closed reason ∧
      eventsFor (fuel + 1) s = ([.closed reason], s.next.2)) ∨
      (∀ reason, s.next.1 ≠ .closed reason) ∧
        eventsFor (fuel + 1) s =
          (s.next.1 :: (eventsFor fuel s.next.2).1, (eventsFor fuel s.next.2).2) := by
  rw [eventsFor]
  obtain ⟨e, s'⟩ := s.next
  cases e with
  | closed reason => exact Or.inl ⟨reason, rfl, rfl⟩
  | text | error => exact Or.inr ⟨fun reason closed => (by cases closed), rfl⟩

/-- The events of a WebSocket can be read of the socket of the keeper. -/
theorem reads_eventsFor (fuel : Nat) (s : WebSocket) :
    s.heard.Reads (eventsFor fuel s).1 (eventsFor fuel s).2.heard := by
  induction fuel generalizing s with
  | zero => exact .nil
  | succ fuel ih =>
    have next := next?_heard s
    rcases eventsFor_succ fuel s with ⟨reason, closed, same⟩ | ⟨-, same⟩
    · rw [closed] at next
      rw [same]
      exact .cons next .nil
    · rw [same]
      exact .cons next (ih s.next.2)

/-- With enough readings the last finds a close, and no other does. -/
theorem exists_closed_eventsFor {fuel : Nat} (enough : s.left ≤ fuel) :
    ∃ es reason, (eventsFor fuel s).1 = es ++ [.closed reason] ∧
      (∀ e ∈ es, ∀ reason, e ≠ .closed reason) ∧ (eventsFor fuel s).2.finished = true := by
  induction fuel generalizing s with
  | zero => exact absurd s.left_pos (by omega)
  | succ fuel ih =>
    rcases eventsFor_succ fuel s with ⟨reason, closed, same⟩ | ⟨others, same⟩
    · rw [same]
      exact ⟨[], reason, rfl, List.forall_mem_nil _, s.leaves_next.close reason closed⟩
    · have less := s.leaves_next.less others
      obtain ⟨es, reason, rest, opens, finished⟩ := ih (s := s.next.2) (by omega)
      rw [same, rest]
      exact ⟨s.next.1 :: es, reason, rfl, List.forall_mem_cons.2 ⟨others, opens⟩, finished⟩

/-- **What is read of a peer.**  The events of a WebSocket are what is read of the socket of the
keeper up to the first close; there is one, whatever the peer has sent and however it has gone, and
the socket reads as closed from then on. -/
theorem reads_events (s : WebSocket) :
    s.heard.Reads s.events.1 s.events.2.heard ∧
      (∃ es reason, s.events.1 = es ++ [.closed reason] ∧
        ∀ e ∈ es, ∀ reason, e ≠ .closed reason) ∧
      s.events.2.next = (.closed none, s.events.2) := by
  have enough : s.left ≤ s.unread.length + 2 := by
    rw [left]
    split <;> omega
  obtain ⟨es, reason, last, opens, finished⟩ := exists_closed_eventsFor enough
  exact ⟨reads_eventsFor _ s, ⟨es, reason, last, opens⟩, next_of_finished finished⟩

example :
    (events ⟨[.ping, .binary [97, 255], .close (some ⟨1001, "bye"⟩), .text "b"], true, false⟩).1 =
      [.text "a\ufffd", .closed (some "bye")] := by decide

end WebSocket

end VoiceTicket
