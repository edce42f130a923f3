import Mathlib.Algebra.Ring.Nat
import Mathlib.Data.List.Induction
import Mathlib.Data.Option.Basic

/-!
# Length-prefixed frames

Numbers as big-endian bytes of a fixed width, and frames: the length of a payload in that
form, then the payload. A number that does not fit its width loses its high bytes, so a
stream of frames reads back as the payloads written exactly if every length fits. A reader
that is given a stream in pieces comes to the same payloads wherever the stream is cut.
-/

namespace Lib

/-! ## Numbers -/

/-- The low `width` bytes of a number, the highest of them first. -/
def toBigEndian : Nat → Nat → List UInt8
  | 0, _ => []
  | width + 1, n => toBigEndian width (n / 256) ++ [UInt8.ofNat n]

/-- The number these bytes spell, the highest first. -/
def ofBigEndian (bytes : List UInt8) : Nat :=
  bytes.foldl (fun n byte => 256 * n + byte.toNat) 0

@[simp] theorem length_toBigEndian (width n : Nat) : (toBigEndian width n).length = width := by
  induction width generalizing n with
  | zero => rfl
  | succ width ih => rw [toBigEndian, List.length_append, ih, List.length_singleton]

theorem ofBigEndian_concat (bytes : List UInt8) (byte : UInt8) :
    ofBigEndian (bytes ++ [byte]) = 256 * ofBigEndian bytes + byte.toNat := by
  unfold ofBigEndian
  rw [List.foldl_append]
  rfl

/-- What does not fit the width is lost, the rest reads back. -/
theorem ofBigEndian_toBigEndian (width n : Nat) :
    ofBigEndian (toBigEndian width n) = n % 256 ^ width := by
  induction width generalizing n with
  | zero => exact (Nat.mod_one n).symm
  | succ width ih =>
      have low : (UInt8.ofNat n).toNat = n % 256 := UInt8.toNat_ofNat
      calc ofBigEndian (toBigEndian (width + 1) n)
          = 256 * (n / 256 % 256 ^ width) + n % 256 := by
            rw [toBigEndian, ofBigEndian_concat, ih, low]
        _ = n % (256 * 256 ^ width) := by rw [Nat.mod_mul, Nat.add_comm]
        _ = n % 256 ^ (width + 1) := by rw [Nat.pow_succ, Nat.mul_comm]

/-- A number that fits its width reads back. -/
theorem ofBigEndian_of_lt {width n : Nat} (fits : n < 256 ^ width) :
    ofBigEndian (toBigEndian width n) = n := by
  rw [ofBigEndian_toBigEndian, Nat.mod_eq_of_lt fits]

/-- Only the remainder by the width's range is ever written. -/
theorem toBigEndian_mod (width n : Nat) :
    toBigEndian width (n % 256 ^ width) = toBigEndian width n := by
  induction width generalizing n with
  | zero => rfl
  | succ width ih =>
      have high : n % 256 ^ (width + 1) / 256 = n / 256 % 256 ^ width := by
        rw [Nat.pow_succ, Nat.mul_comm, Nat.mod_mul_right_div_self]
      have low : UInt8.ofNat (n % 256 ^ (width + 1)) = UInt8.ofNat n := by
        apply UInt8.toNat_inj.mp
        rw [UInt8.toNat_ofNat', UInt8.toNat_ofNat']
        exact Nat.mod_mod_of_dvd n ⟨256 ^ width, Nat.pow_succ'⟩
      rw [toBigEndian, toBigEndian, high, low, ih]

/-! ## Frames -/

/-- The first `size` bytes and what follows them, if there are that many. -/
def cut (size : Nat) (input : List UInt8) : Option (List UInt8 × List UInt8) :=
  if size ≤ input.length then some (input.take size, input.drop size) else none

theorem cut_eq_some_iff {size : Nat} {input front rest : List UInt8} :
    cut size input = some (front, rest) ↔ front.length = size ∧ input = front ++ rest := by
  unfold cut
  split
  case isTrue enough =>
      rw [Option.some.injEq, Prod.mk.injEq]
      constructor
      · intro ⟨first, later⟩
        rw [← first, ← later]
        exact ⟨List.length_take_of_le enough, (List.take_append_drop size input).symm⟩
      · intro ⟨long, joined⟩
        subst long joined
        exact ⟨List.take_left, List.drop_left⟩
  case isFalse short =>
      refine iff_of_false (Option.some_ne_none _).symm ?_
      intro ⟨long, joined⟩
      rw [joined, List.length_append] at short
      omega

theorem cut_append {size : Nat} {front : List UInt8} (long : front.length = size)
    (rest : List UInt8) : cut size (front ++ rest) = some (front, rest) :=
  cut_eq_some_iff.mpr ⟨long, rfl⟩

/-- A payload behind its length in `width` bytes. -/
def frame (width : Nat) (payload : List UInt8) : List UInt8 :=
  toBigEndian width payload.length ++ payload

/-- Take a length, then that many bytes. -/
def unframe (width : Nat) (input : List UInt8) : Option (List UInt8 × List UInt8) :=
  (cut width input).bind fun header => cut (ofBigEndian header.1) header.2

/-- Take this many frames, one after the other. -/
def unframeMany (width : Nat) : Nat → List UInt8 → Option (List (List UInt8) × List UInt8)
  | 0, input => some ([], input)
  | count + 1, input =>
    (unframe width input).bind fun first =>
      (unframeMany width count first.2).map fun later => (first.1 :: later.1, later.2)

/-- Take frames until nothing is left; `none` if what is left is no frame, or takes no byte. -/
def unframes (width : Nat) (input : List UInt8) : Option (List (List UInt8)) :=
  if input = [] then some []
  else match unframe width input with
    | none => none
    | some (payload, rest) =>
      if rest.length < input.length then (unframes width rest).map (payload :: ·) else none
termination_by input.length

section Frames

variable {width : Nat} {payload rest : List UInt8}

@[simp] theorem length_frame (width : Nat) (payload : List UInt8) :
    (frame width payload).length = width + payload.length := by
  rw [frame, List.length_append, length_toBigEndian]

theorem unframe_frame_append (width : Nat) (payload rest : List UInt8) :
    unframe width (frame width payload ++ rest) =
      cut (payload.length % 256 ^ width) (payload ++ rest) := by
  rw [unframe, frame, List.append_assoc, cut_append (length_toBigEndian _ _)]
  show cut (ofBigEndian (toBigEndian width payload.length)) (payload ++ rest) = _
  rw [ofBigEndian_toBigEndian]

/-- A frame whose length fits is taken off whatever follows it. -/
theorem unframe_frame (fits : payload.length < 256 ^ width) (rest : List UInt8) :
    unframe width (frame width payload ++ rest) = some (payload, rest) := by
  rw [unframe_frame_append, Nat.mod_eq_of_lt fits]
  exact cut_append rfl rest

/-- A frame whose length does not fit never gives its payload. -/
theorem fits_of_unframe {later : List UInt8}
    (taken : unframe width (frame width payload ++ rest) = some (payload, later)) :
    payload.length < 256 ^ width ∧ later = rest := by
  rw [unframe_frame_append] at taken
  obtain ⟨long, joined⟩ := cut_eq_some_iff.mp taken
  have positive : 0 < 256 ^ width := Nat.pow_pos (by omega)
  refine ⟨?_, ?_⟩
  · rw [long]
    exact Nat.mod_lt _ positive
  · exact (List.append_cancel_left joined).symm

/-- As many frames as were written, each of them fitting. -/
theorem unframeMany_frames {payloads : List (List UInt8)}
    (fits : ∀ p ∈ payloads, p.length < 256 ^ width) (rest : List UInt8) :
    unframeMany width payloads.length (payloads.flatMap (frame width) ++ rest) =
      some (payloads, rest) := by
  induction payloads with
  | nil => rfl
  | cons p later ih =>
      obtain ⟨first, others⟩ := List.forall_mem_cons.mp fits
      rw [List.flatMap_cons, List.append_assoc, List.length_cons, unframeMany,
        unframe_frame first, Option.bind_some, ih others]
      rfl

theorem unframes_of_ne_nil {input : List UInt8} (more : input ≠ []) :
    unframes width input = (unframe width input).bind fun first =>
      if first.2.length < input.length then (unframes width first.2).map (first.1 :: ·)
      else none := by
  rw [unframes, if_neg more]
  cases unframe width input <;> rfl

/-- **The stream law.** Frames one after the other read back as their payloads, with
nothing left over, if and only if every length fits its field. -/
theorem unframes_frames_iff (positive : 0 < width) (payloads : List (List UInt8)) :
    unframes width (payloads.flatMap (frame width)) = some payloads ↔
      ∀ p ∈ payloads, p.length < 256 ^ width := by
  induction payloads with
  | nil =>
      rw [List.flatMap_nil, unframes, if_pos rfl]
      exact iff_of_true rfl fun _ member => absurd member List.not_mem_nil
  | cons p rest ih =>
      have more : frame width p ++ rest.flatMap (frame width) ≠ [] := by
        apply List.ne_nil_of_length_pos
        rw [List.length_append, length_frame]
        omega
      rw [List.flatMap_cons, unframes_of_ne_nil more, List.forall_mem_cons, ← ih]
      constructor
      · intro taken
        obtain ⟨first, one, later⟩ := Option.bind_eq_some_iff.mp taken
        obtain ⟨-, later⟩ := Option.ite_none_right_eq_some.mp later
        obtain ⟨payloads, tail, joined⟩ := Option.map_eq_some_iff.mp later
        obtain ⟨same, rfl⟩ := List.cons.inj joined
        obtain ⟨payload, left⟩ := first
        subst same
        obtain ⟨fits, rfl⟩ := fits_of_unframe one
        exact ⟨fits, tail⟩
      · intro ⟨fits, tail⟩
        rw [unframe_frame fits, Option.bind_some, if_pos, tail, Option.map_some]
        show (rest.flatMap (frame width)).length < _
        rw [List.length_append, length_frame]
        omega

end Frames

/-! ## Streams in pieces -/

/-- Take frames as long as a whole one is there; also what is left in the end. -/
def unframeReady (width : Nat) (input : List UInt8) : List (List UInt8) × List UInt8 :=
  match unframe width input with
  | none => ([], input)
  | some (payload, rest) =>
    if rest.length < input.length then
      (payload :: (unframeReady width rest).1, (unframeReady width rest).2)
    else ([], input)
termination_by input.length

/-- A reader's turn: the payloads so far and the bytes left, and one more piece. -/
def feed (width : Nat) (reader : List (List UInt8) × List UInt8) (piece : List UInt8) :
    List (List UInt8) × List UInt8 :=
  let ready := unframeReady width (reader.2 ++ piece)
  (reader.1 ++ ready.1, ready.2)

section Pieces

variable {width : Nat} {payload input front rest : List UInt8}

theorem cut_append_right {size : Nat} (taken : cut size input = some (front, rest))
    (more : List UInt8) : cut size (input ++ more) = some (front, rest ++ more) := by
  obtain ⟨long, rfl⟩ := cut_eq_some_iff.mp taken
  rw [List.append_assoc]
  exact cut_append long (rest ++ more)

/-- A frame that is there stays there, whatever follows. -/
theorem unframe_append_right (taken : unframe width input = some (payload, rest))
    (more : List UInt8) : unframe width (input ++ more) = some (payload, rest ++ more) := by
  obtain ⟨⟨header, body⟩, first, second⟩ := Option.bind_eq_some_iff.mp taken
  rw [unframe, cut_append_right first, Option.bind_some]
  exact cut_append_right second more

theorem unframeMany_append_right {count : Nat} {payloads : List (List UInt8)}
    (taken : unframeMany width count input = some (payloads, rest)) (more : List UInt8) :
    unframeMany width count (input ++ more) = some (payloads, rest ++ more) := by
  induction count generalizing input payloads with
  | zero =>
      cases taken
      rfl
  | succ count ih =>
      obtain ⟨⟨payload, body⟩, first, later⟩ := Option.bind_eq_some_iff.mp taken
      obtain ⟨⟨others, left⟩, tail, joined⟩ := Option.map_eq_some_iff.mp later
      cases joined
      rw [unframeMany, unframe_append_right first, Option.bind_some, ih tail]
      rfl

/-- No frame is there before its last byte is. -/
theorem unframe_short (fits : payload.length < 256 ^ width) {input : List UInt8}
    (early : input <+: frame width payload) (short : input.length < width + payload.length) :
    unframe width input = none := by
  obtain ⟨more, whole⟩ := early
  cases taken : unframe width input with
  | none => rfl
  | some got =>
      have later := unframe_append_right taken more
      have here := unframe_frame fits []
      rw [List.append_nil, ← whole, later, Option.some.injEq, Prod.mk.injEq] at here
      have none_left : more = [] := (List.append_eq_nil_iff.mp here.2).2
      have long := congrArg List.length whole
      rw [none_left, List.append_nil, length_frame] at long
      omega

theorem unframeReady_none (none : unframe width input = none) :
    unframeReady width input = ([], input) := by
  rw [unframeReady, none]

theorem unframeReady_some (taken : unframe width input = some (payload, rest))
    (less : rest.length < input.length) :
    unframeReady width input =
      (payload :: (unframeReady width rest).1, (unframeReady width rest).2) := by
  rw [unframeReady, taken]
  show (if rest.length < input.length then _ else _) = _
  rw [if_pos less]

@[simp] theorem unframeReady_nil (width : Nat) : unframeReady width [] = ([], []) := by
  rw [unframeReady]
  split
  · rfl
  · exact if_neg (Nat.not_lt_zero _)

/-- **Pieces.** A stream reads as its front does, and then as what that leaves with the
rest behind it. -/
theorem unframeReady_append (width : Nat) (front rest : List UInt8) :
    unframeReady width (front ++ rest) =
      ((unframeReady width front).1 ++
          (unframeReady width ((unframeReady width front).2 ++ rest)).1,
        (unframeReady width ((unframeReady width front).2 ++ rest)).2) := by
  fun_induction unframeReady width front with
  | case1 front none => rw [List.nil_append]
  | case2 front payload left taken less ih =>
      have whole := unframe_append_right taken rest
      have shorter : (left ++ rest).length < (front ++ rest).length := by
        rw [List.length_append, List.length_append]
        omega
      rw [unframeReady_some whole shorter, ih, List.cons_append]
  | case3 front payload left taken kept => rw [List.nil_append]

/-- Wherever the stream is cut, the reader comes to the same. -/
theorem foldl_feed (width : Nat) (pieces : List (List UInt8)) :
    pieces.foldl (feed width) ([], []) = unframeReady width pieces.flatten := by
  induction pieces using List.reverseRecOn with
  | nil => exact (unframeReady_nil width).symm
  | append_singleton before piece ih =>
      rw [List.foldl_append, ih, List.flatten_append, List.flatten_singleton,
        unframeReady_append]
      rfl

/-- Of a part of a stream the reader has the payloads that are there in full, and keeps
less than the next frame. -/
structure ReadPart (width : Nat) (payloads : List (List UInt8)) (input : List UInt8)
    (before after : List (List UInt8)) (left : List UInt8) : Prop where
  split : payloads = before ++ after
  bytes : input = before.flatMap (frame width) ++ left
  early : left <+: after.flatMap (frame width)
  short : ∀ next ∈ after.head?, left.length < width + next.length
  read : unframeReady width input = (before, left)

/-- **Parts of a stream.** Of the first bytes of a stream of frames. -/
theorem unframeReady_part (positive : 0 < width) {payloads : List (List UInt8)}
    (fits : ∀ p ∈ payloads, p.length < 256 ^ width) {input : List UInt8}
    (part : input <+: payloads.flatMap (frame width)) :
    ∃ before after left, ReadPart width payloads input before after left := by
  induction payloads generalizing input with
  | nil =>
      obtain rfl := List.prefix_nil.mp part
      refine ⟨[], [], [], rfl, rfl, List.nil_prefix, ?_, unframeReady_nil width⟩
      intro next member
      cases member
  | cons p later ih =>
      obtain ⟨first, others⟩ := List.forall_mem_cons.mp fits
      rw [List.flatMap_cons] at part
      have here : frame width p <+: frame width p ++ later.flatMap (frame width) :=
        List.prefix_append _ _
      by_cases short : input.length < width + p.length
      · -- the first frame is not complete
        have early : input <+: frame width p := by
          refine List.prefix_of_prefix_length_le part here ?_
          rw [length_frame]
          omega
        refine ⟨[], p :: later, input, rfl, rfl, ?_, ?_, ?_⟩
        · rwa [List.flatMap_cons]
        · intro next member
          cases member
          exact short
        · exact unframeReady_none (unframe_short first early short)
      · obtain ⟨rest, rfl⟩ : frame width p <+: input := by
          refine List.prefix_of_prefix_length_le here part ?_
          rw [length_frame]
          omega
        have tail := (List.prefix_append_right_inj _).mp part
        obtain ⟨before, after, left, split, bytes, early, next, read⟩ := ih others tail
        have less : rest.length < (frame width p ++ rest).length := by
          rw [List.length_append, length_frame]
          omega
        refine ⟨p :: before, after, left, ?_, ?_, early, next, ?_⟩
        · rw [split, List.cons_append]
        · rw [bytes, List.flatMap_cons, List.append_assoc]
        · rw [unframeReady_some (unframe_frame first rest) less, read]

/-- **First parts.** A stream of frames is the first part of another if and only if its
payloads are the first of the other's. -/
theorem flatMap_frame_prefix_iff (positive : 0 < width) {first whole : List (List UInt8)}
    (fits : ∀ p ∈ first, p.length < 256 ^ width) (others : ∀ p ∈ whole, p.length < 256 ^ width) :
    first.flatMap (frame width) <+: whole.flatMap (frame width) ↔ first <+: whole := by
  constructor
  · intro part
    induction first generalizing whole with
    | nil => exact List.nil_prefix
    | cons p first ih =>
        obtain ⟨fit, fits⟩ := List.forall_mem_cons.mp fits
        obtain ⟨more, joined⟩ := part
        rw [List.flatMap_cons, List.append_assoc] at joined
        have here := unframe_frame fit (first.flatMap (frame width) ++ more)
        cases whole with
        | nil =>
            have long := congrArg List.length joined
            simp at long
            omega
        | cons q whole =>
            obtain ⟨other, others⟩ := List.forall_mem_cons.mp others
            rw [joined, List.flatMap_cons, unframe_frame other] at here
            obtain ⟨same, rest⟩ := Prod.mk.inj (Option.some.inj here)
            rw [same, List.prefix_cons_inj]
            exact ih fits others ⟨more, rest.symm⟩
  · rintro ⟨rest, rfl⟩
    rw [List.flatMap_append]
    exact List.prefix_append _ _

end Pieces

end Lib
