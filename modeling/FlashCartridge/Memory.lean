/-!
# Memories of a fixed size

A memory is a block of bytes whose size belongs to its type. Everything a memory holds is seen
through `Memory.get`: two memories with the same byte at every address are equal, and every write
is described by one lemma about `get`.
-/

namespace FlashCartridge

/-- A block of exactly `size` bytes. -/
structure Memory (size : Nat) where
  /-- The bytes, from address zero on. -/
  bytes : ByteArray
  /-- The block has the size that its type promises. -/
  size_bytes : bytes.size = size

namespace Memory

variable {size : Nat}

/-- The byte at an address. -/
def get (memory : Memory size) (address : Fin size) : UInt8 :=
  memory.bytes.get address.val (by rw [memory.size_bytes]; exact address.isLt)

/-- Replace the byte at an address. -/
def set (memory : Memory size) (address : Fin size) (value : UInt8) : Memory size where
  bytes := memory.bytes.set address.val value (by rw [memory.size_bytes]; exact address.isLt)
  size_bytes := (Array.size_set ..).trans memory.size_bytes

/-- A memory that holds one value everywhere. -/
def replicate (size : Nat) (value : UInt8) : Memory size where
  bytes := ⟨Array.replicate size value⟩
  size_bytes := by simp [ByteArray.size]

/-- Apply `change` to the byte at each of the `count` addresses from `start` on that lie inside the
memory. The first argument of `change` is the distance from `start`. -/
def mapRange (start : Nat) (change : Nat → UInt8 → UInt8) : Nat → Memory size → Memory size
  | 0, memory => memory
  | count + 1, memory =>
    if inside : start + count < size then
      let address : Fin size := ⟨start + count, inside⟩
      mapRange start change count (memory.set address (change count (memory.get address)))
    else
      mapRange start change count memory

/-- Fill `count` bytes from `start` on with one value. -/
def fillRange (start count : Nat) (value : UInt8) (memory : Memory size) : Memory size :=
  memory.mapRange start (fun _ _ => value) count

@[ext]
theorem ext {left right : Memory size} (same : ∀ address, left.get address = right.get address) :
    left = right := by
  obtain ⟨⟨leftData⟩, leftSize⟩ := left
  obtain ⟨⟨rightData⟩, rightSize⟩ := right
  have data_eq : leftData = rightData := by
    apply Array.ext
    · exact leftSize.trans rightSize.symm
    · intro index inLeft _
      exact same ⟨index, leftSize ▸ inLeft⟩
  subst data_eq
  rfl

@[simp]
theorem get_set_self (memory : Memory size) (address : Fin size) (value : UInt8) :
    (memory.set address value).get address = value := by
  obtain ⟨⟨data⟩, size_data⟩ := memory
  have inside : address.val < data.size := size_data ▸ address.isLt
  exact Array.getElem_set_self inside

theorem get_set (memory : Memory size) (target address : Fin size) (value : UInt8) :
    (memory.set target value).get address =
      if target = address then value else memory.get address := by
  by_cases same : target = address
  · subst same
    simp
  · obtain ⟨⟨data⟩, size_data⟩ := memory
    have distinct : target.val ≠ address.val := fun equal => same (Fin.ext equal)
    have targetInside : target.val < data.size := size_data ▸ target.isLt
    have inside : address.val < data.size := size_data ▸ address.isLt
    rw [if_neg same]
    exact Array.getElem_set_ne targetInside inside distinct

@[simp]
theorem get_replicate (value : UInt8) (address : Fin size) :
    (replicate size value).get address = value := Array.getElem_replicate _

theorem get_mapRange (start : Nat) (change : Nat → UInt8 → UInt8) (count : Nat)
    (memory : Memory size) (address : Fin size) :
    (memory.mapRange start change count).get address =
      if start ≤ address.val ∧ address.val < start + count then
        change (address.val - start) (memory.get address)
      else
        memory.get address := by
  induction count generalizing memory with
  | zero =>
      rw [mapRange, if_neg (by omega)]
  | succ count ih =>
      rw [mapRange]
      split
      · rename_i inside
        rw [ih, get_set]
        by_cases last : address.val = start + count
        · have same : (⟨start + count, inside⟩ : Fin size) = address := Fin.ext last.symm
          rw [if_neg (by omega), if_pos same, if_pos (by omega), same]
          congr 1
          omega
        · have distinct : (⟨start + count, inside⟩ : Fin size) ≠ address := fun equal =>
            last (congrArg Fin.val equal).symm
          rw [if_neg distinct]
          by_cases within : start ≤ address.val ∧ address.val < start + count
          · rw [if_pos within, if_pos (by omega)]
          · rw [if_neg within, if_neg (by omega)]
      · have := address.isLt
        rw [ih]
        by_cases within : start ≤ address.val ∧ address.val < start + count
        · rw [if_pos within, if_pos (by omega)]
        · rw [if_neg within, if_neg (by omega)]

theorem get_fillRange (start count : Nat) (value : UInt8) (memory : Memory size)
    (address : Fin size) :
    (memory.fillRange start count value).get address =
      if start ≤ address.val ∧ address.val < start + count then value else memory.get address :=
  get_mapRange start (fun _ _ => value) count memory address

end Memory

end FlashCartridge
