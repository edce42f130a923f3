import Transports.Lib.Framing

/-!
# The mock peer's encodings

What `MockPeer` writes for one send action, and the readers at the other end: a
MoldUDP datagram with its counted messages, a single SoupBinTCP packet, and a stream of
SoupBinTCP packets. The encoders cut a length to `u16` without a check.
-/

namespace Transports.Testing

open Lib

/-! ## Encoders -/

/-- `u16::to_be_bytes`. -/
def u16ToBeBytes (n : UInt16) : List UInt8 := toBigEndian 2 n.toNat

/-- `u64::to_be_bytes`. -/
def u64ToBeBytes (n : UInt64) : List UInt8 := toBigEndian 8 n.toNat

/-- `b"MOCKPEER01"`. -/
def mockSession : List UInt8 := [77, 79, 67, 75, 80, 69, 69, 82, 48, 49]

def encodeMoldData (seq : UInt64) (payload : List UInt8) : List UInt8 :=
  mockSession ++ u64ToBeBytes seq ++ u16ToBeBytes 1 ++ u16ToBeBytes (.ofNat payload.length) ++
    payload

def encodeMoldHeartbeat : List UInt8 :=
  mockSession ++ u64ToBeBytes 0 ++ u16ToBeBytes 0

def encodeSoup (ty : UInt8) (payload : List UInt8) : List UInt8 :=
  let len := 1 + payload.length
  u16ToBeBytes (.ofNat len) ++ [ty] ++ payload

/-! ## Readers -/

/-- A MoldUDP datagram taken apart. -/
structure MoldPacket where
  session : List UInt8
  seq : UInt64
  count : Nat
  messages : List (List UInt8)
  deriving DecidableEq, Repr

/-- Session, sequence and count, then `count` length-prefixed messages and nothing else. -/
def decodeMold (datagram : List UInt8) : Option MoldPacket := do
  let (session, rest) ← cut 10 datagram
  let (seq, rest) ← cut 8 rest
  let (count, rest) ← cut 2 rest
  let (messages, rest) ← unframeMany 2 (ofBigEndian count) rest
  if rest = [] then
    some ⟨session, .ofNat (ofBigEndian seq), ofBigEndian count, messages⟩
  else none

/-- A SoupBinTCP packet taken apart. -/
structure SoupPacket where
  length : Nat
  ty : UInt8
  payload : List UInt8
  deriving DecidableEq, Repr

/-- One packet and nothing else: the length counts the type byte and the payload. -/
def decodeSoup (datagram : List UInt8) : Option SoupPacket := do
  let (length, rest) ← cut 2 datagram
  match rest with
  | [] => none
  | ty :: payload =>
    if ofBigEndian length = 1 + payload.length then some ⟨ofBigEndian length, ty, payload⟩
    else none

/-- The frames as packets; `none` if one has no type byte. -/
def typed : List (List UInt8) → Option (List (UInt8 × List UInt8))
  | [] => some []
  | [] :: _ => none
  | (ty :: payload) :: rest => (typed rest).map ((ty, payload) :: ·)

/-- A SoupBinTCP stream, read packet by packet to its end. -/
def readSoup (stream : List UInt8) : Option (List (UInt8 × List UInt8)) :=
  (unframes 2 stream).bind typed

/-! ## Decoding undoes encoding -/

section RoundTrip

variable {seq : UInt64} {ty : UInt8} {payload : List UInt8}

theorem toBigEndian_cast (n : Nat) : u16ToBeBytes (.ofNat n) = toBigEndian 2 n :=
  toBigEndian_mod 2 n

theorem encodeMoldData_eq (seq : UInt64) (payload : List UInt8) :
    encodeMoldData seq payload =
      mockSession ++ (u64ToBeBytes seq ++ (toBigEndian 2 1 ++ frame 2 payload)) := by
  simp only [encodeMoldData, toBigEndian_cast, frame, List.append_assoc]
  rfl

theorem encodeSoup_eq (ty : UInt8) (payload : List UInt8) :
    encodeSoup ty payload = frame 2 (ty :: payload) := by
  rw [encodeSoup, toBigEndian_cast, frame, List.length_cons, Nat.add_comm, List.append_assoc]
  rfl

@[simp] theorem length_mockSession : mockSession.length = 10 := rfl

@[simp] theorem length_u64ToBeBytes (n : UInt64) : (u64ToBeBytes n).length = 8 :=
  length_toBigEndian 8 n.toNat

@[simp] theorem length_encodeMoldData (seq : UInt64) (payload : List UInt8) :
    (encodeMoldData seq payload).length = 22 + payload.length := by
  simp only [encodeMoldData_eq, List.length_append, length_mockSession, length_u64ToBeBytes,
    length_toBigEndian, length_frame]
  omega

@[simp] theorem length_encodeMoldHeartbeat : encodeMoldHeartbeat.length = 20 := rfl

@[simp] theorem length_encodeSoup (ty : UInt8) (payload : List UInt8) :
    (encodeSoup ty payload).length = 3 + payload.length := by
  rw [encodeSoup_eq, length_frame, List.length_cons]
  omega

theorem ofBigEndian_u64 (n : UInt64) : UInt64.ofNat (ofBigEndian (u64ToBeBytes n)) = n := by
  have fits : n.toNat < 256 ^ 8 := n.toNat_lt
  rw [u64ToBeBytes, ofBigEndian_of_lt fits, UInt64.ofNat_toNat]

/-- Every sequence number and every payload whose length fits its field. -/
theorem decodeMold_data (fits : payload.length < 65536) :
    decodeMold (encodeMoldData seq payload) = some ⟨mockSession, seq, 1, [payload]⟩ := by
  have one : ofBigEndian (toBigEndian 2 1) = 1 := ofBigEndian_of_lt (by omega)
  have messages : unframeMany 2 1 (frame 2 payload) = some ([payload], []) := by
    have short : ∀ p ∈ [payload], p.length < 256 ^ 2 := List.forall_mem_singleton.mpr fits
    have all := unframeMany_frames short []
    rwa [List.flatMap_singleton, List.append_nil] at all
  rw [encodeMoldData_eq, decodeMold, cut_append length_mockSession]
  simp only [Option.bind_eq_bind, Option.bind_some]
  rw [cut_append (length_u64ToBeBytes seq)]
  simp only [Option.bind_some]
  rw [cut_append (length_toBigEndian 2 1)]
  simp only [Option.bind_some, one, messages, if_true, ofBigEndian_u64]

theorem decodeMold_heartbeat :
    decodeMold encodeMoldHeartbeat = some ⟨mockSession, 0, 0, []⟩ := by
  decide

/-- No data packet, however it is cut, is a heartbeat: the counts differ. -/
theorem encodeMoldData_ne_heartbeat (seq : UInt64) (payload : List UInt8) :
    encodeMoldData seq payload ≠ encodeMoldHeartbeat := by
  intro same
  have lengths := congrArg List.length same
  rw [length_encodeMoldData, length_encodeMoldHeartbeat] at lengths
  omega

theorem decodeSoup_soup (fits : 1 + payload.length < 65536) :
    decodeSoup (encodeSoup ty payload) = some ⟨1 + payload.length, ty, payload⟩ := by
  have len : ofBigEndian (toBigEndian 2 (1 + payload.length)) = 1 + payload.length :=
    ofBigEndian_of_lt fits
  rw [encodeSoup, toBigEndian_cast, List.append_assoc, decodeSoup,
    cut_append (length_toBigEndian _ _)]
  simp only [Option.bind_eq_bind, Option.bind_some, List.singleton_append, len, if_true]

/-! ## A datagram that lost its end -/

theorem decodeMold_eq (datagram : List UInt8) :
    decodeMold datagram = (cut 10 datagram).bind fun session => (cut 8 session.2).bind fun seq =>
      (cut 2 seq.2).bind fun count => (unframeMany 2 (ofBigEndian count.1) count.2).bind fun got =>
        if got.2 = [] then
          some ⟨session.1, .ofNat (ofBigEndian seq.1), ofBigEndian count.1, got.1⟩
        else none := rfl

/-- The whole datagram decodes, and nothing longer. -/
theorem decodeMold_append {datagram : List UInt8} {packet : MoldPacket}
    (taken : decodeMold datagram = some packet) (more : List UInt8) :
    decodeMold (datagram ++ more) = if more = [] then some packet else none := by
  rw [decodeMold_eq] at taken
  obtain ⟨session, first, taken⟩ := Option.bind_eq_some_iff.mp taken
  obtain ⟨seq, second, taken⟩ := Option.bind_eq_some_iff.mp taken
  obtain ⟨count, third, taken⟩ := Option.bind_eq_some_iff.mp taken
  obtain ⟨⟨messages, left⟩, fourth, taken⟩ := Option.bind_eq_some_iff.mp taken
  obtain ⟨none_left, same⟩ := Option.ite_none_right_eq_some.mp taken
  obtain rfl : left = [] := none_left
  rw [decodeMold_eq, cut_append_right first, Option.bind_some, cut_append_right second,
    Option.bind_some, cut_append_right third, Option.bind_some, unframeMany_append_right fourth,
    Option.bind_some, same]
  rfl

theorem decodeSoup_eq_some_iff {datagram : List UInt8} {packet : SoupPacket} :
    decodeSoup datagram = some packet ↔ ∃ length ty payload,
      cut 2 datagram = some (length, ty :: payload) ∧ ofBigEndian length = 1 + payload.length ∧
        ⟨ofBigEndian length, ty, payload⟩ = packet := by
  rw [decodeSoup]
  cases taken : cut 2 datagram with
  | none => simp
  | some got =>
      obtain ⟨length, rest⟩ := got
      cases rest with
      | nil => simp
      | cons ty payload => simp [and_assoc]

theorem decodeSoup_append {datagram : List UInt8} {packet : SoupPacket}
    (taken : decodeSoup datagram = some packet) (more : List UInt8) :
    decodeSoup (datagram ++ more) = if more = [] then some packet else none := by
  by_cases whole : more = []
  · rw [whole, List.append_nil, if_pos rfl, taken]
  · obtain ⟨length, ty, payload, first, counted, _⟩ := decodeSoup_eq_some_iff.mp taken
    rw [if_neg whole, Option.eq_none_iff_forall_ne_some]
    intro other longer
    obtain ⟨length', ty', payload', first', counted', _⟩ := decodeSoup_eq_some_iff.mp longer
    rw [cut_append_right first, List.cons_append] at first'
    cases first'
    -- the length was that of the payload without the bytes behind it
    have := List.length_pos_iff.mpr whole
    rw [counted, List.length_append] at counted'
    omega

/-! ## The stream -/

theorem typed_eq_some_iff {frames : List (List UInt8)} {packets : List (UInt8 × List UInt8)} :
    typed frames = some packets ↔ frames = packets.map fun p => p.1 :: p.2 := by
  induction frames generalizing packets with
  | nil =>
      cases packets <;> simp [typed]
  | cons first rest ih =>
      cases first with
      | nil => cases packets <;> simp [typed]
      | cons ty payload =>
          show (typed rest).map ((ty, payload) :: ·) = some packets ↔ _
          rw [Option.map_eq_some_iff]
          constructor
          · intro ⟨later, tail, joined⟩
            rw [← joined, List.map_cons, ih.mp tail]
          · intro split
            cases packets with
            | nil => cases split
            | cons p later =>
                obtain ⟨same, tail⟩ := List.cons.inj split
                obtain ⟨kind, body⟩ := List.cons.inj same
                refine ⟨later, ih.mpr tail, ?_⟩
                rw [kind, body]

/-- **A stream of packets.** It reads back as what was written if and only if every type
byte and payload together fit the length field. -/
theorem readSoup_iff (packets : List (UInt8 × List UInt8)) :
    readSoup (packets.flatMap fun p => encodeSoup p.1 p.2) = some packets ↔
      ∀ p ∈ packets, p.2.length ≤ 65534 := by
  have stream : (packets.flatMap fun p => encodeSoup p.1 p.2) =
      (packets.map fun p => p.1 :: p.2).flatMap (frame 2) := by
    rw [List.flatMap_map]
    simp only [encodeSoup_eq]
  have fits : (∀ p ∈ packets, p.2.length ≤ 65534) ↔
      ∀ f ∈ packets.map fun p => p.1 :: p.2, f.length < 256 ^ 2 := by
    rw [List.forall_mem_map]
    refine forall₂_congr fun p _ => ?_
    rw [List.length_cons]
    omega
  rw [fits, ← unframes_frames_iff (by omega), ← stream, readSoup, Option.bind_eq_some_iff]
  constructor
  · intro ⟨frames, taken, split⟩
    rw [taken, typed_eq_some_iff.mp split]
  · intro taken
    exact ⟨_, taken, typed_eq_some_iff.mpr rfl⟩

end RoundTrip

end Transports.Testing
