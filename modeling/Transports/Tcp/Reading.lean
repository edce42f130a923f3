import Transports.Tcp.Stream

/-!
# Reading to the end

A reader loop calls `recv_into` until it answers `UnexpectedEof`. Once the peer has closed,
every call that is given room and does not fail lands a byte or is that answer, so the loop
ends, and by then it has all the peer wrote.
-/

namespace Transports.Tcp

open Lib Transports.Core Transports.Udp

/-- A `recv_into` with room for a byte that the kernel does not fail. -/
def Action.reads : Action → Bool
  | .recvInto none (_ :: _) => true
  | _ => false

/-- The last call reported the end of the stream, and every byte is landed. -/
structure AtEnd (s : Conn) : Prop where
  all : s.landed = s.written.map some
  told : ∃ c, s.calls.getLast? = some c ∧ c.result = .error (.io peerClosed)

/-- The peer has closed, and `n` reads suffice. -/
structure Closing (n : Nat) (s : Conn) : Prop where
  closed : s.sock.closed = true
  intact : Intact s
  enough : s.sock.queued.length < n

section Closing

variable {b : Backend} {n : Nat} {s t : Conn} {a : Action}

/-- A call at the end of the stream. -/
theorem Closing.atEnd {fault : Option StreamFault} {dst buf : Buffer} (closing : Closing n s)
    (empty : s.sock.queued = []) :
    AtEnd { s with calls := s.calls ++ [⟨fault, s.sock, dst, .error (.io peerClosed), buf⟩] } := by
  refine ⟨?_, _, List.getLast?_concat, rfl⟩
  have all : s.landed = s.written.map some := closing.intact.queued_nil_iff.mp empty
  rw [Conn.landed, List.flatMap_append, List.flatMap_singleton]
  show s.landed ++ [] = _
  rw [List.append_nil, all]

theorem closing_step (closing : Closing n s) (h : Step s a t) :
    AtEnd t ∨ ∃ m, Closing m t ∧ m + (if a.reads then 1 else 0) ≤ n := by
  have intact := intact_step closing.intact h
  have ⟨closed, _, enough⟩ := closing
  cases h with
  | write data opened =>
      rw [closed] at opened
      cases opened
  | close => exact .inr ⟨n, ⟨rfl, intact, enough⟩, Nat.le_refl _⟩
  | probe => exact .inr ⟨n, ⟨closed, intact, enough⟩, Nat.le_refl _⟩
  | @recvInto fault dst result sock buf landing =>
      cases landing with
      | bytes ready room =>
          -- at least one byte leaves the queue
          have some := List.length_pos_iff.mpr ready
          have space := List.length_pos_iff.mpr room
          refine .inr ⟨n - 1, ⟨closed, intact, ?_⟩, ?_⟩
          · show (s.sock.queued.drop dst.length).length < n - 1
            rw [List.length_drop]
            omega
          · split <;> omega
      | noRoom ready full =>
          subst full
          exact .inr ⟨n, ⟨closed, intact, enough⟩, Nat.le_refl _⟩
      | eof empty _ => exact .inl (closing.atEnd empty)
      | idle empty opened =>
          rw [closed] at opened
          cases opened
      | failed e => exact .inr ⟨n, ⟨closed, intact, enough⟩, Nat.le_refl _⟩

end Closing

/-- **A reader loop ends.** From any state in which the peer has closed, however large the
destinations are and whatever calls fail or have no room in between: the loop has come to
`UnexpectedEof` with everything landed, or every read so far took a byte off the queue, so
that no more of them are to come than bytes are queued, and one. -/
theorem reader_terminates (b : Backend) {s t : Conn} {events : List Action}
    (reach : (stream b).Reachable s) (closed : s.sock.closed = true)
    (run : (stream b).runFrom s events = some t) :
    (∃ first later u, events = first ++ later ∧ (stream b).runFrom s first = some u ∧ AtEnd u) ∨
      events.countP Action.reads + t.sock.queued.length ≤ s.sock.queued.length := by
  have closing : Closing (s.sock.queued.length + 1) s :=
    ⟨closed, (stream_intact b s reach).1, Nat.lt_succ_self _⟩
  have step : ∀ n u a v, Closing n u → (stream b).step u a = some v →
      AtEnd v ∨ ∃ m, Closing m v ∧ m + (if a.reads then 1 else 0) ≤ n :=
    fun _ _ _ _ before taken => closing_step before (step_of_step taken)
  rcases System.runFrom_until Action.reads step closing run with ended | ⟨m, still, spent⟩
  · exact .inl ended
  · refine .inr ?_
    have left := still.enough
    omega

/-- Three bytes and a close, read into buffers of two. -/
theorem reader_terminates_three :
    ∃ first later u, [Action.recvInto none [none, none], .recvInto none [none, none],
        .recvInto none [none, none], .recvInto none [none, none]] = first ++ later ∧
      (stream .mio).runFrom (played .mio [.write [1, 2, 3], .close]) first = some u ∧
      AtEnd u := by
  have run : (stream .mio).runFrom (played .mio [.write [1, 2, 3], .close])
      [.recvInto none [none, none], .recvInto none [none, none], .recvInto none [none, none],
        .recvInto none [none, none]] =
      some (played .mio [.write [1, 2, 3], .close, .recvInto none [none, none],
        .recvInto none [none, none], .recvInto none [none, none],
        .recvInto none [none, none]]) := rfl
  rcases reader_terminates .mio (played_reachable .mio _) rfl run with ended | few
  · exact ended
  · exact absurd few (by decide)

end Transports.Tcp
