import Mathlib.Algebra.Order.BigOperators.Group.List
import Mathlib.Algebra.Order.Ring.Nat
import Mathlib.Data.Multiset.Range
import Mathlib.Data.Finset.Basic
import Mathlib.Data.Finset.Card
import Mathlib.Data.List.Perm.Basic
import Transports.Lib.System

/-!
# Exclusive ownership of indices

A fixed set of indices is handed out one at a time and taken back. The
implementation side is a free list next to the bag of indices that are out;
`Exclusive` says that the two together are the whole set, each index once. The
client side is `allocator`: the set of owned indices, from which any index that
is not owned may be taken.

`pick` removes one element of a list by position, and `overlay` writes a prefix
of a buffer; both are what a store of indexed buffers is stepped with.
`sum_map_eq_iff` compares two accounts kept item by item.
-/

namespace Lib

variable {ι α : Type*}

/-- The free list and the indices that are out make up `all`, each once. -/
def Exclusive (all : Finset ι) (free : List ι) (owned : Multiset ι) : Prop :=
  (free : Multiset ι) + owned = all.val

namespace Exclusive

variable {all : Finset ι} {free : List ι} {owned : Multiset ι} {i : ι}

theorem nodup (h : Exclusive all free owned) : ((free : Multiset ι) + owned).Nodup := by
  rw [show (free : Multiset ι) + owned = all.val from h]
  exact all.nodup

/-- No index is out twice. -/
theorem owned_nodup (h : Exclusive all free owned) : owned.Nodup :=
  (Multiset.nodup_add.mp h.nodup).2.1

/-- Only indices of the set are ever out. -/
theorem mem (h : Exclusive all free owned) (out : i ∈ owned) : i ∈ all := by
  have inside : i ∈ (free : Multiset ι) + owned := Multiset.mem_add.mpr (.inr out)
  rwa [show (free : Multiset ι) + owned = all.val from h] at inside

/-- An index that is out is not on the free list. -/
theorem not_mem_free (h : Exclusive all free owned) (out : i ∈ owned) : i ∉ free := by
  intro onFree
  have apart := (Multiset.nodup_add.mp h.nodup).2.2
  exact Multiset.disjoint_left.mp apart (Multiset.mem_coe.mpr onFree) out

theorem card (h : Exclusive all free owned) : free.length + owned.card = all.card := by
  have sizes := congrArg Multiset.card (show (free : Multiset ι) + owned = all.val from h)
  simpa using sizes

/-- The free list runs dry exactly when every index is out. -/
theorem free_eq_nil_iff (h : Exclusive all free owned) :
    free = [] ↔ owned.card = all.card := by
  have sizes := h.card
  constructor
  · rintro rfl
    simpa using sizes
  · intro full
    exact List.eq_nil_of_length_eq_zero (by omega)

/-- Popping the free list hands its head out. -/
theorem take (h : Exclusive all (i :: free) owned) : Exclusive all free (i ::ₘ owned) := by
  unfold Exclusive at h ⊢
  rw [← h, ← Multiset.cons_coe, Multiset.cons_add, Multiset.add_cons]

/-- The head of the free list is not out. -/
theorem head_not_owned (h : Exclusive all (i :: free) owned) : i ∉ owned := fun out =>
  h.not_mem_free out List.mem_cons_self

/-- Pushing an index that is out takes it back. -/
theorem give (h : Exclusive all free (i ::ₘ owned)) : Exclusive all (i :: free) owned := by
  unfold Exclusive at h ⊢
  rw [← h, ← Multiset.cons_coe, Multiset.cons_add, Multiset.add_cons]

end Exclusive

/-! ## The allocator its clients see -/

inductive AllocatorEvent (ι : Type*)
  | take (i : ι)
  | give (i : ι)

/-- Any index that is not owned may be taken, any owned one given back. -/
def allocator [DecidableEq ι] (all : Finset ι) : System (Finset ι) (AllocatorEvent ι) where
  init owned := owned = ∅
  step owned
    | .take i => if i ∈ all ∧ i ∉ owned then some (insert i owned) else none
    | .give i => if i ∈ owned then some (owned.erase i) else none

/-! ## Lists and buffers -/

/-- Sums of a smaller and a larger quantity agree only term by term. -/
theorem sum_map_eq_iff {f g : α → Nat} {l : List α} (le : ∀ a ∈ l, f a ≤ g a) :
    (l.map f).sum = (l.map g).sum ↔ ∀ a ∈ l, f a = g a := by
  induction l with
  | nil => simp
  | cons a rest ih =>
      have later : ∀ a ∈ rest, f a ≤ g a := fun a member => le a (List.mem_cons_of_mem _ member)
      have below : (rest.map f).sum ≤ (rest.map g).sum := List.sum_le_sum later
      have first := le a List.mem_cons_self
      simp only [List.map_cons, List.sum_cons, List.forall_mem_cons, ← ih later]
      omega

/-- The element at position `i` and the list without it. -/
def pick (l : List α) (i : Nat) : Option (α × List α) :=
  l[i]?.map fun a => (a, l.eraseIdx i)

theorem pick_perm {l rest : List α} {i : Nat} {a : α} (h : pick l i = some (a, rest)) :
    l.Perm (a :: rest) := by
  simp only [pick, Option.map_eq_some_iff, Prod.mk.injEq] at h
  obtain ⟨b, found, rfl, rfl⟩ := h
  obtain ⟨bound, rfl⟩ := List.getElem?_eq_some_iff.mp found
  exact (List.getElem_cons_eraseIdx_perm bound).symm

theorem pick_coe {l rest : List α} {i : Nat} {a : α} (h : pick l i = some (a, rest)) :
    (l : Multiset α) = a ::ₘ (rest : Multiset α) := by
  rw [Multiset.cons_coe]
  exact Multiset.coe_eq_coe.mpr (pick_perm h)

/-- `data` written over the front of `buf`; what does not fit is dropped. -/
def overlay (buf data : List α) : List α :=
  data.take buf.length ++ buf.drop data.length

@[simp] theorem length_overlay (buf data : List α) :
    (overlay buf data).length = buf.length := by
  simp only [overlay, List.length_append, List.length_take, List.length_drop]
  omega

theorem overlay_of_le {buf data : List α} (fits : data.length ≤ buf.length) :
    overlay buf data = data ++ buf.drop data.length := by
  rw [overlay, List.take_of_length_le fits]

/-- The front of an overlaid buffer is the data and nothing of what was there. -/
theorem take_overlay {buf data : List α} (fits : data.length ≤ buf.length) :
    (overlay buf data).take data.length = data := by
  rw [overlay_of_le fits, List.take_left']
  rfl

theorem drop_overlay {buf data : List α} (fits : data.length ≤ buf.length) :
    (overlay buf data).drop data.length = buf.drop data.length := by
  rw [overlay_of_le fits, List.drop_left']
  rfl

end Lib
