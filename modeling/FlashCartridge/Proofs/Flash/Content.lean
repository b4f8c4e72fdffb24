import Mathlib.Data.List.DropRight
import FlashCartridge.Flash.Action

/-!
# What one byte of the array holds

The actions that the chip took determine every byte of the array: it is the value that the last
erasure or the start has left, masked by the bytes of all pages that were committed to it since
then. Only an erasure can set a bit.
-/

namespace FlashCartridge
namespace Flash
namespace Action

/-- Whether an action erases the byte at an address. -/
def erases (address : Address) : Action → Bool
  | .eraseChip => true
  | .eraseSector sector => address.sector = sector
  | _ => false

/-- The byte that an action merges into the byte at an address, if it commits that page. -/
def merged? (address : Address) : Action → Option UInt8
  | .commit page data => if address.page = page then some (data.get address.pageOffset) else none
  | _ => none

/-- The array after a list of actions. -/
def applyAll (actions : List Action) (array : FlashArray) : FlashArray :=
  actions.foldl (fun stored action => action.apply stored) array

/-- The bytes merged into the byte at an address since its last erasure, in order. -/
def mergedSinceErasure (address : Address) (actions : List Action) : List UInt8 :=
  (actions.rtakeWhile fun action => !action.erases address).filterMap (merged? address)

/-- The byte that its last erasure has left at an address, or the given one without an erasure. -/
def base (address : Address) (actions : List Action) (stored : UInt8) : UInt8 :=
  if actions.any (erases address) then 0xFF else stored

/-- The byte at an address after actions that found a given byte there. -/
def content (address : Address) (actions : List Action) (stored : UInt8) : UInt8 :=
  (mergedSinceErasure address actions).foldl (· &&& ·) (base address actions stored)

theorem get_apply (action : Action) (array : FlashArray) (address : Address) :
    (action.apply array).get address =
      if action.erases address then 0xFF
      else (action.merged? address).elim (array.get address) (array.get address &&& ·) := by
  cases action with
  | eraseChip => exact get_apply_eraseChip array address
  | eraseSector sector => simp [get_apply_eraseSector, erases, merged?]
  | commit page data =>
      rw [get_apply_commit]
      by_cases inside : address.page = page <;> simp [erases, merged?, inside]
  | _ => rfl

theorem content_append_singleton (address : Address) (actions : List Action) (action : Action)
    (stored : UInt8) :
    content address (actions ++ [action]) stored =
      if action.erases address then 0xFF
      else (action.merged? address).elim (content address actions stored)
        (content address actions stored &&& ·) := by
  by_cases erased : action.erases address = true
  · simp [content, base, mergedSinceErasure, erased]
  · cases merged : action.merged? address <;>
      simp [content, base, mergedSinceErasure, erased, merged]

theorem get_applyAll (actions : List Action) (array : FlashArray) (address : Address) :
    (applyAll actions array).get address = content address actions (array.get address) := by
  induction actions using List.reverseRecOn with
  | nil => rfl
  | append_singleton front action ih =>
      rw [content_append_singleton, ← ih, ← get_apply, applyAll, List.foldl_append]
      rfl

theorem applyAll_append (front back : List Action) (array : FlashArray) :
    applyAll (front ++ back) array = applyAll back (applyAll front array) :=
  List.foldl_append

/-- An action that changes a byte erases it or commits its page. -/
theorem covers_of_get_ne {action : Action} {array : FlashArray} {address : Address}
    (changed : (action.apply array).get address ≠ array.get address) :
    action.erases address = true ∨ (action.merged? address).isSome = true := by
  rw [get_apply] at changed
  cases erased : action.erases address with
  | true => exact .inl rfl
  | false =>
      cases merged : action.merged? address with
      | none => simp [erased, merged] at changed
      | some byte => exact .inr rfl

theorem erases_of_testBit {action : Action} {array : FlashArray} {address : Address} {bit : Nat}
    (clear : (array.get address).toNat.testBit bit = false)
    (set : ((action.apply array).get address).toNat.testBit bit = true) :
    action.erases address = true := by
  rw [get_apply] at set
  cases erased : action.erases address with
  | true => rfl
  | false =>
      cases merged : action.merged? address <;> simp [erased, merged, clear] at set

end Action
end Flash
end FlashCartridge
