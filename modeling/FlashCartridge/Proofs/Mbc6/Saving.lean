import FlashCartridge.Proofs.Mbc6.Routing

/-!
# What an attempt to save does

All attempts to save go through `Mbc6.flush`. It asks the save store to keep the present image if
there is a battery and something has changed, and `due?` is the answer of the store; with nothing
due it does nothing at all. Neither the memories nor the registers nor the chip take part in it.
-/

namespace FlashCartridge

/-- The request to the save store that an event reports, with what came of it. -/
def Event.attempt? : Event → Option (SaveImage × Except StoreError Unit)
  | .saveAttempt image result => some (image, result)
  | _ => none

/-- The requests to the save store in a history. -/
def Event.attempts (events : List Event) : List (SaveImage × Except StoreError Unit) :=
  events.filterMap Event.attempt?

theorem Event.attempts_append (front back : List Event) :
    Event.attempts (front ++ back) = Event.attempts front ++ Event.attempts back :=
  List.filterMap_append

@[simp]
theorem Event.attempts_storeNotes (entries : List Log.Entry) :
    Event.attempts (entries.map Event.storeNote) = [] := by
  simp [Event.attempts, Event.attempt?, List.filterMap_map]

namespace Mbc6

variable {σ : Type} [SaveStore σ]

/-- The answer of the save store to the request that is due, if one is. -/
def due? (controller : Mbc6 σ) : Option (StoreReply σ Unit) :=
  if controller.dirty then controller.battery.map (SaveStore.save controller.memory) else none

theorem due?_eq_none_iff {controller : Mbc6 σ} :
    controller.due? = none ↔ controller.dirty = false ∨ controller.battery = none := by
  cases dirty : controller.dirty <;> simp [due?, dirty]

theorem due?_eq_some_iff {controller : Mbc6 σ} {reply : StoreReply σ Unit} :
    controller.due? = some reply ↔ controller.dirty = true ∧
      ∃ store, controller.battery = some store ∧
        SaveStore.save controller.memory store = reply := by
  cases dirty : controller.dirty <;> simp [due?, dirty]

theorem flush_of_not_due {controller : Mbc6 σ} (idle : controller.due? = none) :
    controller.flush = ⟨controller, .ok (), []⟩ := by
  rcases due?_eq_none_iff.mp idle with clean | unpowered
  · simp [flush, clean]
  · simp [flush, unpowered]

/-- The result is that of the store, and the controller stays dirty unless it is a success. -/
theorem flush_of_due {controller : Mbc6 σ} {reply : StoreReply σ Unit}
    (due : controller.due? = some reply) :
    controller.flush =
      { state :=
          { controller with battery := some reply.store, dirty := !reply.result.toBool }
        value := reply.result.mapError .write
        events := .saveAttempt controller.memory reply.result :: reply.log.map .storeNote } := by
  obtain ⟨dirty, store, battery, rfl⟩ := due?_eq_some_iff.mp due
  rw [flush, if_pos dirty]
  cases result : (SaveStore.save controller.memory store).result with
  | ok =>
      simp only [battery, result]
      rfl
  | error cause =>
      have stays : controller.dirty = !(Except.error cause : Except StoreError Unit).toBool := dirty
      simp only [battery, result]
      rw [← stays]
      rfl

theorem state_flushQuietly (controller : Mbc6 σ) :
    controller.flushQuietly.state = controller.flush.state := by
  rw [flushQuietly]
  split <;> rfl

section Untouched

variable (controller : Mbc6 σ)

@[simp]
theorem memory_flush : controller.flush.state.memory = controller.memory := by
  cases due : controller.due? with
  | none => rw [flush_of_not_due due]
  | some reply => rw [flush_of_due due]

theorem memory_storeRamEnable (byte : UInt8) :
    (controller.storeRamEnable byte).state.memory = controller.memory := by
  rw [storeRamEnable]
  split
  · rw [state_flushQuietly]
    exact memory_flush controller
  · rfl

end Untouched

end Mbc6
end FlashCartridge
