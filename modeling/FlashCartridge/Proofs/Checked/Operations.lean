import FlashCartridge.Memory

/-!
# Operations that can trap

Addresses are computed in machine words, and words are the indices of blocks of bytes. Every
operation that can go wrong there traps instead of giving a result. Words have 32 bits: what stays
in their range stays in the range of wider words.
-/

namespace FlashCartridge

/-- Why there is no result. -/
inductive Trap
  /-- The result of an operation on words is not a word. -/
  | overflow
  /-- An index or a slice reaches behind the end of a block. -/
  | outOfBounds
  /-- Something is not as it was asserted to be. -/
  | assertion
  /-- A branch was entered that has to be unreachable. -/
  | unreachable
  /-- The bank controller was asked for an address outside of the area it answers. -/
  | outsideArea
  /-- The saved region does not have the length that save stores keep. -/
  | regionLength
  deriving DecidableEq, Repr

/-- A result, or a trap. -/
abbrev Checked (α : Type) := Except Trap α

namespace Checked

variable {α β : Type}

@[simp]
theorem ok_bind (value : α) (next : α → Checked β) :
    ((Except.ok value : Checked α) >>= next) = next value := rfl

theorem bind_eq_ok_iff {first : Checked α} {next : α → Checked β} {result : β} :
    (first >>= next) = .ok result ↔ ∃ value, first = .ok value ∧ next value = .ok result := by
  cases first with
  | error trap => exact iff_of_false nofun nofun
  | ok value => simp

/-- Trap unless a condition holds. -/
def require (condition : Prop) [Decidable condition] (trap : Trap) : Checked Unit :=
  if condition then .ok () else .error trap

theorem require_eq_ok {condition : Prop} [Decidable condition] (holds : condition) (trap : Trap) :
    require condition trap = .ok () := if_pos holds

/-! ## Words -/

/-- The sum of two words. -/
def add (left right : UInt32) : Checked UInt32 :=
  if left.toNat + right.toNat < UInt32.size then .ok (left + right) else .error .overflow

/-- The difference of two words. -/
def sub (left right : UInt32) : Checked UInt32 :=
  if right.toNat ≤ left.toNat then .ok (left - right) else .error .overflow

/-- The product of two words. -/
def mul (left right : UInt32) : Checked UInt32 :=
  if left.toNat * right.toNat < UInt32.size then .ok (left * right) else .error .overflow

theorem toNat_ofNat {number : Nat} (small : number < UInt32.size) :
    (UInt32.ofNat number).toNat = number := UInt32.toNat_ofNat_of_lt' small

theorem ofNat_inj {left right : Nat} (leftSmall : left < UInt32.size)
    (rightSmall : right < UInt32.size) : UInt32.ofNat left = UInt32.ofNat right ↔ left = right := by
  rw [← UInt32.toNat_inj, toNat_ofNat leftSmall, toNat_ofNat rightSmall]

theorem add_ofNat {left right : Nat} (small : left + right < UInt32.size) :
    add (.ofNat left) (.ofNat right) = .ok (.ofNat (left + right)) := by
  have leftWord := toNat_ofNat (show left < UInt32.size by omega)
  have rightWord := toNat_ofNat (show right < UInt32.size by omega)
  rw [add, leftWord, rightWord, if_pos small, UInt32.ofNat_add]

theorem sub_ofNat {left right : Nat} (small : left < UInt32.size) (above : right ≤ left) :
    sub (.ofNat left) (.ofNat right) = .ok (.ofNat (left - right)) := by
  have rightWord := toNat_ofNat (show right < UInt32.size by omega)
  rw [sub, toNat_ofNat small, rightWord, if_pos above, UInt32.ofNat_sub above]

theorem mul_ofNat {left right : Nat} (leftSmall : left < UInt32.size)
    (rightSmall : right < UInt32.size) (small : left * right < UInt32.size) :
    mul (.ofNat left) (.ofNat right) = .ok (.ofNat (left * right)) := by
  rw [mul, toNat_ofNat leftSmall, toNat_ofNat rightSmall, if_pos small, UInt32.ofNat_mul]

section Mask

variable {size : Nat} (power : size.isPowerOfTwo)
include power

theorem ofNat_and_mask (number : Nat) :
    UInt32.ofNat number &&& UInt32.ofNat (size - 1) = UInt32.ofNat (number % size) := by
  obtain ⟨bits, rfl⟩ := power
  rw [← UInt32.ofNat_and, Nat.and_two_pow_sub_one_eq_mod]

/-- The high bits of a word are the multiple that its remainder starts from. -/
theorem ofNat_and_not_mask (number : Nat) :
    UInt32.ofNat number &&& ~~~UInt32.ofNat (size - 1) = UInt32.ofNat (number / size * size) := by
  obtain ⟨bits, rfl⟩ := power
  rw [← UInt32.toBitVec_inj]
  apply BitVec.eq_of_getLsbD_eq
  intro bit inside
  rw [UInt32.toBitVec_and, BitVec.getLsbD_and, UInt32.toBitVec_not, BitVec.getLsbD_not,
    UInt32.toBitVec_ofNat', UInt32.toBitVec_ofNat', UInt32.toBitVec_ofNat', BitVec.getLsbD_ofNat,
    BitVec.getLsbD_ofNat, BitVec.getLsbD_ofNat, Nat.testBit_two_pow_sub_one,
    Nat.testBit_mul_two_pow, Nat.testBit_div_two_pow]
  by_cases high : bits ≤ bit
  · rw [Nat.sub_add_cancel high]
    simp [inside, high]
  · simp [high]
    omega

end Mask

/-! ## Blocks of bytes -/

/-- The byte at an index. -/
def read (bytes : ByteArray) (index : UInt32) : Checked UInt8 :=
  if inside : index.toNat < bytes.size then .ok (bytes.get index.toNat inside)
  else .error .outOfBounds

/-- Replace the byte at an index. -/
def write (bytes : ByteArray) (index : UInt32) (value : UInt8) : Checked ByteArray :=
  if inside : index.toNat < bytes.size then .ok (bytes.set index.toNat value inside)
  else .error .outOfBounds

/-- The bytes from one index up to another. -/
def slice (bytes : ByteArray) (start stop : UInt32) : Checked ByteArray :=
  if start.toNat ≤ stop.toNat ∧ stop.toNat ≤ bytes.size then
    .ok (bytes.extract start.toNat stop.toNat)
  else
    .error .outOfBounds

/-- Change the bytes from one index up to another, each by its distance from the first. -/
def modify (bytes : ByteArray) (start stop : UInt32) (change : Nat → UInt8 → UInt8) :
    Checked ByteArray :=
  if start.toNat ≤ stop.toNat ∧ stop.toNat ≤ bytes.size then
    let block : Memory bytes.size := ⟨bytes, rfl⟩
    .ok (block.mapRange start.toNat change (stop.toNat - start.toNat)).bytes
  else
    .error .outOfBounds

section Memory

variable {size : Nat} (memory : Memory size) (small : size < UInt32.size)
include small

theorem read_ofNat (address : Fin size) :
    read memory.bytes (.ofNat address.val) = .ok (memory.get address) := by
  have word := toNat_ofNat (Nat.lt_trans address.isLt small)
  have inside : (UInt32.ofNat address.val).toNat < memory.bytes.size := by
    rw [word, memory.size_bytes]
    exact address.isLt
  rw [read, dif_pos inside]
  generalize (UInt32.ofNat address.val).toNat = index at word inside
  subst word
  rfl

theorem write_ofNat (address : Fin size) (value : UInt8) :
    write memory.bytes (.ofNat address.val) value = .ok (memory.set address value).bytes := by
  have word := toNat_ofNat (Nat.lt_trans address.isLt small)
  have inside : (UInt32.ofNat address.val).toNat < memory.bytes.size := by
    rw [word, memory.size_bytes]
    exact address.isLt
  rw [write, dif_pos inside]
  generalize (UInt32.ofNat address.val).toNat = index at word inside
  subst word
  rfl

theorem modify_ofNat {start count : Nat} (inside : start + count ≤ size)
    (change : Nat → UInt8 → UInt8) :
    modify memory.bytes (.ofNat start) (.ofNat (start + count)) change =
      .ok (memory.mapRange start change count).bytes := by
  obtain ⟨bytes, rfl⟩ := memory
  have startWord := toNat_ofNat (show start < UInt32.size by omega)
  have stopWord := toNat_ofNat (show start + count < UInt32.size by omega)
  simp only [modify, startWord, stopWord]
  rw [if_pos ⟨Nat.le_add_right _ _, inside⟩, Nat.add_sub_cancel_left]

end Memory

end Checked
end FlashCartridge
