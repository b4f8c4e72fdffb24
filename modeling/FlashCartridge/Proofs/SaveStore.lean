import FlashCartridge.SaveStore

/-!
# A save store that fails for a while

The store keeps one image, and its next saves fail a given number of times.
-/

namespace FlashCartridge

/-- A save store whose next saves fail. -/
structure FailingStore where
  /-- The kept image, if any was saved. -/
  image? : Option SaveImage
  /-- How many saves are still going to fail. -/
  failures : Nat

instance : SaveStore FailingStore where
  load store := { store, result := .ok store.image?, log := [] }
  save image store :=
    match store.failures with
    | 0 => { store := ⟨some image, 0⟩, result := .ok (), log := [] }
    | failures + 1 =>
      { store := { store with failures }, result := .error (.device "disk full"), log := [] }

end FlashCartridge
