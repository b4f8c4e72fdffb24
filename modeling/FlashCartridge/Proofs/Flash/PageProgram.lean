import FlashCartridge.Proofs.Flash.Sequence

/-!
# What the program command computes

Behind the program command, the page of the first write is programmed, and only its bytes matter.
For each of them the last write counts, and the second write to the last one commits the page if
its byte is zero: the bytes of the page then keep the bits that both they and the last writes to
them have set. What was in the page buffer before the command has no part in that.
-/

namespace FlashCartridge
namespace Flash

/-! ## The writes of a run -/

/-- The place and the byte of a write. -/
def Access.write? : Access → Option (Address × UInt8)
  | .write address byte => some (address, byte)
  | .enable _ | .writeEnable _ => none

/-- The writes among some accesses. -/
def Access.writes (accesses : List Access) : List (Address × UInt8) :=
  accesses.filterMap Access.write?

/-- What the write that an access is returns, namely whether it has modified the array, together
with the state of the chip right after it. -/
def Device.answer? (access : Access) (device : Device) : Option (Bool × CommandState) :=
  access.write?.map fun _ => (device.modifies access, (device.perform access).chip.state)

/-- The answers to the writes of a run, in order. -/
def Device.answers : List Access → Device → List (Bool × CommandState)
  | [], _ => []
  | access :: rest, device =>
    (device.answer? access).toList ++ answers rest (device.perform access)

@[simp]
theorem Access.writes_append_write (before rest : List Access) (address : Address) (byte : UInt8) :
    Access.writes (before ++ .write address byte :: rest) =
      Access.writes before ++ (address, byte) :: Access.writes rest := by
  rw [Access.writes, List.filterMap_append]
  rfl

theorem Access.exists_write_at {accesses : List Access} {index : Nat} {address : Address}
    {byte : UInt8} (found : (Access.writes accesses)[index]? = some (address, byte)) :
    ∃ before rest, accesses = before ++ .write address byte :: rest ∧
      (Access.writes before).length = index := by
  induction accesses generalizing index with
  | nil => contradiction
  | cons access others ih =>
      cases access with
      | write first value =>
          cases index with
          | zero =>
              obtain ⟨rfl, rfl⟩ := Prod.mk.inj (Option.some.inj found)
              exact ⟨[], others, rfl, rfl⟩
          | succ index =>
              obtain ⟨before, rest, rfl, rfl⟩ := ih found
              exact ⟨.write first value :: before, rest, rfl, rfl⟩
      | enable value =>
          obtain ⟨before, rest, rfl, rfl⟩ := ih found
          exact ⟨.enable value :: before, rest, rfl, rfl⟩
      | writeEnable value =>
          obtain ⟨before, rest, rfl, rfl⟩ := ih found
          exact ⟨.writeEnable value :: before, rest, rfl, rfl⟩

/-! ## The bytes that count -/

/-- The page that the first write chooses. -/
def chosenPage? (writes : List (Address × UInt8)) : Option Page := writes.head?.map (·.1.page)

/-- The byte that was written to an address last, or a byte with every bit set. -/
def lastByte (writes : List (Address × UInt8)) (address : Address) : UInt8 :=
  ((writes.filter (·.1 = address)).getLast?.map (·.2)).getD 0xFF

/-- The write at an index completes a page: it writes a zero to the last byte of the page, which an
earlier write was also made to. -/
def Completes (page : Page) (writes : List (Address × UInt8)) (index : Nat) : Prop :=
  writes[index]? = some (page.address lastOffset, 0x00) ∧
    ∃ earlier byte, earlier < index ∧ writes[earlier]? = some (page.address lastOffset, byte)

theorem chosenPage?_append (front back : List (Address × UInt8)) :
    chosenPage? (front ++ back) = (chosenPage? front).or (chosenPage? back) := by
  cases front <;> rfl

theorem chosenPage?_of_mem {writes : List (Address × UInt8)} {page : Page}
    (same : (chosenPage? writes).getD page = page) {write : Address × UInt8}
    (member : write ∈ writes) : chosenPage? writes = some page := by
  cases writes with
  | nil => contradiction
  | cons first rest => exact congrArg some same

theorem lastByte_append_singleton (writes : List (Address × UInt8)) (target address : Address)
    (byte : UInt8) :
    lastByte (writes ++ [(target, byte)]) address =
      if target = address then byte else lastByte writes address := by
  by_cases same : target = address <;> simp [lastByte, same]

theorem eq_address_iff {address : Address} {page : Page} {offset : Fin pageSize} :
    address = page.address offset ↔ address.page = page ∧ address.pageOffset = offset := by
  constructor
  · rintro rfl
    simp
  · rintro ⟨rfl, rfl⟩
    exact Address.ext_page (by simp) (by simp)

/-! ## The buffer behind some writes -/

/-- A buffer holds what counts of the writes since the program command. -/
structure Gathers (writes : List (Address × UInt8)) (buffer : PageBuffer) : Prop where
  /-- The page is the one that the first write has chosen. -/
  page? : buffer.page? = chosenPage? writes
  /-- For each byte of the page, the last write counts. -/
  data : ∀ page, buffer.page?.getD page = page → ∀ offset,
    buffer.data.get offset = lastByte writes (page.address offset)
  /-- It is known whether the last byte of the page was written. -/
  lastWritten : ∀ page, buffer.page?.getD page = page →
    (buffer.lastWritten = true ↔ ∃ byte, (page.address lastOffset, byte) ∈ writes)

namespace Gathers

variable {writes : List (Address × UInt8)} {buffer : PageBuffer} {address : Address} {byte : UInt8}

theorem empty : Gathers [] .empty where
  page? := rfl
  data _ _ _ := by simp [PageBuffer.empty, lastByte]
  lastWritten _ _ := by simp [PageBuffer.empty]

/-- A write to the page replaces what counted before for its byte. -/
theorem put (gathers : Gathers writes buffer)
    (same : buffer.page?.getD address.page = address.page) :
    Gathers (writes ++ [(address, byte)]) (buffer.put address.page address.pageOffset byte) where
  page? := by
    rw [chosenPage?_append, ← gathers.page?]
    cases chosen : buffer.page? with
    | none => rfl
    | some current =>
        rw [chosen, Option.getD_some] at same
        rw [same]
        rfl
  data := by
    rintro page (rfl : address.page = page) offset
    rw [PageBuffer.put, Memory.get_set, lastByte_append_singleton, gathers.data _ same]
    simp only [eq_address_iff, true_and]
  lastWritten := by
    rintro page (rfl : address.page = page)
    simp only [PageBuffer.put, Bool.or_eq_true, gathers.lastWritten _ same, decide_eq_true_eq,
      List.mem_append, List.mem_singleton, Prod.mk.injEq, exists_or, exists_and_left,
      exists_eq, and_true]
    rw [eq_comm (a := address.page.address lastOffset), eq_address_iff, and_iff_right rfl]

theorem skip (gathers : Gathers writes buffer)
    (other : buffer.page?.getD address.page ≠ address.page) :
    Gathers (writes ++ [(address, byte)]) buffer := by
  cases chosen : buffer.page? with
  | none => simp [chosen] at other
  | some current =>
      rw [chosen, Option.getD_some] at other
      have only {page : Page} (same : buffer.page?.getD page = page) : current = page := by
        rwa [chosen, Option.getD_some] at same
      have elsewhere (offset : Fin pageSize) : address ≠ current.address offset := fun same =>
        other (eq_address_iff.mp same).1.symm
      refine ⟨?page?, ?data, ?lastWritten⟩
      case page? =>
        rw [chosenPage?_append, ← gathers.page?, chosen]
        rfl
      case data =>
        intro page same offset
        obtain rfl := only same
        rw [lastByte_append_singleton, if_neg (elsewhere offset)]
        exact gathers.data current same offset
      case lastWritten =>
        intro page same
        obtain rfl := only same
        rw [gathers.lastWritten current same]
        simp [Ne.symm (elsewhere lastOffset)]

end Gathers

/-! ## One write -/

/-- A write completes the page that earlier writes are collected for. -/
def CompletesPage (writes : List (Address × UInt8)) (write : Address × UInt8) : Prop :=
  ∃ page, chosenPage? writes = some page ∧ write = (page.address lastOffset, 0x00) ∧
    ∃ byte, (page.address lastOffset, byte) ∈ writes

/-- The writes before a write decide whether it completes their page. -/
theorem completesPage_iff {front back : List (Address × UInt8)} {write : Address × UInt8}
    {page : Page} (chosen : chosenPage? (front ++ write :: back) = some page) :
    CompletesPage front write ↔ Completes page (front ++ write :: back) front.length := by
  have writtenBefore : (∃ earlier byte, earlier < front.length ∧
      (front ++ write :: back)[earlier]? = some (page.address lastOffset, byte)) ↔
        ∃ byte, (page.address lastOffset, byte) ∈ front := by
    constructor
    · rintro ⟨earlier, byte, inside, found⟩
      rw [List.getElem?_append_left inside] at found
      exact ⟨byte, List.mem_of_getElem? found⟩
    · rintro ⟨byte, member⟩
      obtain ⟨earlier, inside, found⟩ := List.getElem_of_mem member
      refine ⟨earlier, byte, inside, ?_⟩
      rw [List.getElem?_append_left inside, List.getElem?_eq_getElem inside, found]
  rw [Completes, writtenBefore, List.getElem?_append_right (Nat.le_refl _), Nat.sub_self]
  constructor
  · rintro ⟨other, chosenFront, rfl, again⟩
    rw [chosenPage?_append, chosenFront, Option.some_or] at chosen
    obtain rfl := Option.some.inj chosen
    exact ⟨rfl, again⟩
  · rintro ⟨here, again⟩
    refine ⟨page, ?_, Option.some.inj here, again⟩
    cases front with
    | nil => simp at again
    | cons first rest => exact chosen

theorem not_completesPage {done later : List (Address × UInt8)}
    (never : ∀ page index, chosenPage? (done ++ later) = some page → index < done.length →
      ¬ Completes page (done ++ later) index)
    {front back : List (Address × UInt8)} {write : Address × UInt8}
    (split : done = front ++ write :: back) : ¬ CompletesPage front write := by
  subst split
  rw [List.append_assoc, List.cons_append] at never
  intro completes
  obtain ⟨page, chosen, _⟩ := id completes
  have chosenAll : chosenPage? (front ++ write :: (back ++ later)) = some page := by
    rw [chosenPage?_append, chosen, Option.some_or]
  exact never page front.length chosenAll (by simp) ((completesPage_iff chosenAll).mp completes)

section Write

variable {writes : List (Address × UInt8)} {chip : Chip} {address : Address} {byte : UInt8}
  (programming : chip.state = .programming) (gathers : Gathers writes chip.buffer)
include programming gathers

/-- A write that does not complete the page leaves the array as it is. -/
theorem Gathers.accept (plain : ¬ IsUnlock address byte)
    (incomplete : ¬ CompletesPage writes (address, byte)) :
    (chip.action address byte).modifies = false ∧
      (chip.accept address byte).state = .programming ∧
      Gathers (writes ++ [(address, byte)]) (chip.accept address byte).buffer := by
  rw [Chip.accept, Chip.action_of_not_unlock plain]
  simp only [programming, Chip.programAction]
  split
  · rename_i other
    exact ⟨rfl, programming, gathers.skip other⟩
  · rename_i same
    rw [Decidable.not_not] at same
    rw [same]
    split
    · rename_i complete
      obtain ⟨last, written, rfl⟩ := complete
      obtain ⟨value, again⟩ := (gathers.lastWritten _ same).mp written
      have chosen := chosenPage?_of_mem (gathers.page? ▸ same) again
      have place : address = address.page.address lastOffset := eq_address_iff.mpr ⟨rfl, last⟩
      exact absurd ⟨_, chosen, congrArg (·, 0x00) place, value, again⟩ incomplete
    · exact ⟨rfl, programming, gathers.put same⟩

/-- The write that completes the page merges what counts into the array. -/
theorem Gathers.commit {page : Page} (chosen : chosenPage? writes = some page)
    (again : ∃ byte, (page.address lastOffset, byte) ∈ writes) :
    ∃ data, chip.action (page.address lastOffset) 0x00 = .commit page data ∧
      ∀ offset, data.get offset =
        lastByte (writes ++ [(page.address lastOffset, 0x00)]) (page.address offset) := by
  have current : chip.buffer.page? = some page := gathers.page?.trans chosen
  have same : chip.buffer.page?.getD page = page := by rw [current]; rfl
  have written := (gathers.lastWritten page same).mpr again
  refine ⟨_, Device.action_commit programming current written, ?_⟩
  intro offset
  rw [Memory.get_set, lastByte_append_singleton, gathers.data page same]
  simp [eq_address_iff]

end Write

/-- Behind a commit, a write that is no unlock write acknowledges it or does nothing. -/
theorem accept_of_settled {chip : Chip}
    (settled : chip.state = .committed ∨ chip.state = .idle) {address : Address} {byte : UInt8}
    (plain : ¬ IsUnlock address byte) :
    (chip.action address byte).modifies = false ∧
      ((chip.accept address byte).state = .committed ∨
        (chip.accept address byte).state = .idle) := by
  rw [Chip.accept, Chip.action_of_not_unlock plain]
  obtain state | state := settled
  · simp only [state]
    split
    · exact ⟨rfl, .inr rfl⟩
    · exact ⟨rfl, .inl state⟩
  · simp only [state, Chip.strayAction, if_true]
    exact ⟨rfl, .inr rfl⟩

/-! ## A whole run -/

namespace Device

open Access

theorem answers_append (front back : List Access) (device : Device) :
    answers (front ++ back) device = answers front device ++ answers back (run front device) := by
  induction front generalizing device with
  | nil => rfl
  | cons access front ih => simp [answers, run, ih]

theorem length_answers (accesses : List Access) (device : Device) :
    (answers accesses device).length = (writes accesses).length := by
  induction accesses generalizing device with
  | nil => rfl
  | cons access rest ih =>
      cases access with
      | write address byte => exact congrArg Nat.succ (ih _)
      | enable byte => exact ih _
      | writeEnable byte => exact ih _

/-- What every harmless write keeps, and the control bits have no part in, is kept by a run of
harmless writes. -/
theorem run_unmodified (invariant : List (Address × UInt8) → Chip → Prop)
    (harmless : List (Address × UInt8) → Address × UInt8 → Prop)
    (enable : ∀ {before chip} byte,
      invariant before chip → invariant before (chip.storeEnable byte))
    (writeEnable : ∀ {before chip} byte,
      invariant before chip → invariant before (chip.storeWriteEnable byte))
    (accept : ∀ {before chip address byte}, invariant before chip →
      harmless before (address, byte) → (chip.action address byte).modifies = false ∧
        invariant (before ++ [(address, byte)]) (chip.accept address byte))
    (before : List (Address × UInt8)) (accesses : List Access) {device : Device}
    (holds : invariant before device.chip)
    (allHarmless : ∀ front write back, writes accesses = front ++ write :: back →
      harmless (before ++ front) write) :
    (run accesses device).array = device.array ∧
      invariant (before ++ writes accesses) (run accesses device).chip ∧
      ∀ answer ∈ answers accesses device, answer.1 = false := by
  -- A write that was made joins those before it, so the induction is over all of these.
  induction accesses generalizing before device with
  | nil => exact ⟨rfl, by simpa [writes, run] using holds, by simp [answers]⟩
  | cons access rest ih =>
      cases access with
      | write address byte =>
          have here : harmless before (address, byte) := by
            simpa using allHarmless [] (address, byte) (writes rest) rfl
          obtain ⟨unmodified, kept⟩ := accept holds here
          obtain ⟨array, kept, answered⟩ := @ih _ (device.write address byte) kept
            fun front write back split => by
              simpa using allHarmless ((address, byte) :: front) write back (congrArg _ split)
          rw [List.append_assoc] at kept
          exact ⟨array.trans (Action.apply_eq_self unmodified _), kept,
            List.forall_mem_cons.mpr ⟨unmodified, answered⟩⟩
      | enable byte => exact @ih _ (device.perform (.enable byte)) (enable byte holds) allHarmless
      | writeEnable byte =>
          exact @ih _ (device.perform (.writeEnable byte)) (writeEnable byte holds) allHarmless

theorem run_gathers {accesses : List Access} {device : Device}
    (programming : device.chip.state = .programming) (gathers : Gathers [] device.chip.buffer)
    (plain : ∀ write ∈ writes accesses, ¬ IsUnlock write.1 write.2)
    (incomplete : ∀ front write back, writes accesses = front ++ write :: back →
      ¬ CompletesPage front write) :
    (run accesses device).array = device.array ∧
      ((run accesses device).chip.state = .programming ∧
        Gathers (writes accesses) (run accesses device).chip.buffer) ∧
      ∀ answer ∈ answers accesses device, answer.1 = false :=
  run_unmodified (fun before chip => chip.state = .programming ∧ Gathers before chip.buffer)
    (fun before write => ¬ IsUnlock write.1 write.2 ∧ ¬ CompletesPage before write)
    (fun _ holds => by simpa using holds) (fun _ holds => holds)
    (fun holds harmless => holds.2.accept holds.1 harmless.1 harmless.2)
    [] accesses ⟨programming, gathers⟩
    (fun front write back split =>
      ⟨plain write (by simp [split]), incomplete front write back split⟩)

/-- Once a page is committed, no further write modifies the array before the next unlock write. -/
theorem run_settled {accesses : List Access} {device : Device}
    (settled : device.chip.state = .committed ∨ device.chip.state = .idle)
    (plain : ∀ write ∈ writes accesses, ¬ IsUnlock write.1 write.2) :
    (run accesses device).array = device.array ∧
      ∀ answer ∈ answers accesses device, answer.1 = false := by
  obtain ⟨array, _, answered⟩ := run_unmodified
    (fun _ chip => chip.state = .committed ∨ chip.state = .idle)
    (fun _ write => ¬ IsUnlock write.1 write.2)
    (fun _ holds => by simpa using holds) (fun _ holds => holds)
    (fun settled plain => accept_of_settled settled plain) [] accesses settled
    (fun front write back split => plain write (by simp [split]))
  exact ⟨array, answered⟩

theorem getElem?_answers (state : CommandState) {front back : List (Bool × CommandState)}
    (quietFront : ∀ answer ∈ front, answer.1 = false)
    (quietBack : ∀ answer ∈ back, answer.1 = false) :
    (front ++ (true, state) :: back)[front.length]? = some (true, state) ∧
      ∀ index, (front ++ (true, state) :: back)[index]?.map (·.1) = some true ↔
        index = front.length := by
  have found : (front ++ (true, state) :: back)[front.length]? = some (true, state) := by simp
  refine ⟨found, fun index => ⟨?_, ?_⟩⟩
  · intro reports
    obtain ⟨answer, here, modified⟩ := Option.map_eq_some_iff.mp reports
    rcases Nat.lt_trichotomy index front.length with before | same | behind
    · rw [List.getElem?_append_left before] at here
      simp [quietFront answer (List.mem_of_getElem? here)] at modified
    · exact same
    · obtain ⟨distance, rfl⟩ := Nat.exists_eq_add_of_lt behind
      rw [List.getElem?_append_right (by omega), Nat.add_assoc, Nat.add_sub_cancel_left,
        List.getElem?_cons_succ] at here
      simp [quietBack answer (List.mem_of_getElem? here)] at modified
  · rintro rfl
    rw [found]
    rfl

/-- The first write that completes the page commits it, and no later one modifies the array. -/
theorem run_completing {before rest : List Access} {page : Page} {device : Device}
    (programming : device.chip.state = .programming) (gathers : Gathers [] device.chip.buffer)
    (plainBefore : ∀ write ∈ writes before, ¬ IsUnlock write.1 write.2)
    (plainRest : ∀ write ∈ writes rest, ¬ IsUnlock write.1 write.2)
    (incomplete : ∀ front write back, writes before = front ++ write :: back →
      ¬ CompletesPage front write)
    (chosen : chosenPage? (writes before) = some page)
    (again : ∃ byte, (page.address lastOffset, byte) ∈ writes before) :
    let accesses := before ++ .write (page.address lastOffset) 0x00 :: rest
    (answers accesses device)[(writes before).length]? = some (true, .committed) ∧
      (∀ index, (answers accesses device)[index]?.map (·.1) = some true ↔
        index = (writes before).length) ∧
      ∀ address : Address, (run accesses device).array.get address =
        if address.page = page then
          device.array.get address &&&
            lastByte (writes before ++ [(page.address lastOffset, 0x00)]) address
        else
          device.array.get address := by
  intro accesses
  obtain ⟨same, ⟨state, gathered⟩, quietBefore⟩ :=
    run_gathers programming gathers plainBefore incomplete
  obtain ⟨data, commits, counts⟩ := gathered.commit state chosen again
  let full := run before device
  let committed := full.write (page.address lastOffset) 0x00
  have after : committed = ⟨full.chip.perform (.commit page data),
      Action.apply (.commit page data) full.array⟩ := perform_write commits
  have settled : committed.chip.state = .committed := by rw [after]; rfl
  obtain ⟨kept, quietRest⟩ := run_settled (.inl settled) plainRest
  have answer : full.answer? (.write (page.address lastOffset) 0x00) = some (true, .committed) := by
    have modified : full.modifies (.write (page.address lastOffset) 0x00) = true := by
      rw [modifies, commits]
      rfl
    rw [← modified, ← settled]
    rfl
  have answered : answers accesses device =
      answers before device ++ (true, .committed) :: answers rest committed := by
    rw [answers_append, answers, answer]
    rfl
  obtain ⟨found, only⟩ := getElem?_answers .committed quietBefore quietRest
  rw [← answered, length_answers] at found only
  refine ⟨found, only, ?_⟩
  intro address
  have merged : (run accesses device).array = Action.apply (.commit page data) device.array := by
    rw [run_append, ← same]
    exact kept.trans (congrArg Device.array after)
  rw [merged, Action.get_apply_commit]
  split
  · rename_i inPage
    have place : page.address address.pageOffset = address :=
      (eq_address_iff.mpr ⟨inPage, rfl⟩).symm
    rw [counts, place]
  · rfl

/-- From any state but one behind the erase setup command, the first write that completes its page
commits what was last written to each of its bytes, and no other write modifies the array. -/
theorem run_program {chip : Chip} (unarmed : chip.state ≠ .eraseArmed)
    (writable : chip.master.writeEnabled = true) (disabled : chip.master.enabled = false)
    (array : FlashArray) {accesses : List Access}
    (plain : ∀ write ∈ Access.writes accesses, ¬ IsUnlock write.1 write.2) :
    let armed := run (command 0xA0) ⟨chip, array⟩
    let after := run accesses armed
    let writes := Access.writes accesses
    (∀ page index, chosenPage? writes = some page → Completes page writes index →
      (∀ earlier < index, ¬ Completes page writes earlier) →
        (answers accesses armed)[index]? = some (true, .committed) ∧
        (∀ other, (answers accesses armed)[other]?.map (·.1) = some true ↔ other = index) ∧
        ∀ address : Address, after.array.get address =
          if address.page = page then
            array.get address &&& lastByte (writes.take (index + 1)) address
          else
            array.get address) ∧
    ((∀ page index, chosenPage? writes = some page → ¬ Completes page writes index) →
      (∀ answer ∈ answers accesses armed, answer.1 = false) ∧ after.array = array ∧
        after.chip.state = .programming) := by
  intro armed after writes
  have allowed : chip.master.allowArming = true := by
    rw [MasterBits.allowArming, writable, disabled]
    rfl
  have arms : armed = ⟨{ chip with state := .programming, buffer := .empty }, array⟩ :=
    run_armProgram unarmed allowed
  have programming : armed.chip.state = .programming := by rw [arms]
  have gathers : Gathers [] armed.chip.buffer := by
    rw [arms]
    exact .empty
  refine ⟨?completed, ?incomplete⟩
  case completed =>
    intro page index chosen completes first
    -- The run is cut at the completing write. No write of its front part completes a page.
    obtain ⟨before, rest, rfl, rfl⟩ := Access.exists_write_at completes.1
    let later := (page.address lastOffset, 0x00) :: Access.writes rest
    have whole : writes = Access.writes before ++ later :=
      Access.writes_append_write before rest _ _
    rw [Access.writes_append_write, List.forall_mem_append, List.forall_mem_cons] at plain
    obtain ⟨plainBefore, _, plainRest⟩ := plain
    rw [whole] at chosen completes first
    obtain ⟨_, chosenBefore, same, again⟩ := (completesPage_iff chosen).mpr completes
    obtain rfl : page = _ := by simpa using congrArg (·.1.page) same
    have never : ∀ other earlier, chosenPage? (Access.writes before ++ later) = some other →
        earlier < (Access.writes before).length →
          ¬ Completes other (Access.writes before ++ later) earlier := by
      intro other earlier chosenOther small
      obtain rfl := Option.some.inj (chosen.symm.trans chosenOther)
      exact first earlier small
    have upTo : writes.take ((Access.writes before).length + 1) =
        Access.writes before ++ [(page.address lastOffset, 0x00)] := by
      rw [whole, List.take_length_add_append]
      rfl
    have blank : armed.array = array := congrArg Device.array arms
    rw [upTo, ← blank]
    exact run_completing programming gathers plainBefore plainRest
      (fun _ _ _ => not_completesPage never) chosenBefore again
  case incomplete =>
    intro incomplete
    have never : ∀ page index, chosenPage? (writes ++ []) = some page → index < writes.length →
        ¬ Completes page (writes ++ []) index := by
      rw [List.append_nil]
      exact fun page index chosen _ => incomplete page index chosen
    obtain ⟨same, ⟨state, _⟩, answered⟩ :=
      run_gathers programming gathers plain fun _ _ _ => not_completesPage never
    exact ⟨answered, same.trans (congrArg Device.array arms), state⟩

/-- Neither what was left in the buffer nor a write to another page counts, and the control bits may
change in between. -/
theorem run_program_of_staleBuffer :
    let chip : Chip :=
      { state := .programming, master := ⟨false, true⟩, identified := true, erase := {},
        buffer := ⟨Memory.replicate pageSize 0x00, some 5, true⟩ }
    let page : Page := 2
    let accesses : List Access :=
      [.write (page.address 3) 0x0F, .enable 0x01, .write (Page.address 7 lastOffset) 0x00,
        .write (page.address lastOffset) 0xF0, .writeEnable 0x00, .writeEnable 0x01,
        .write (page.address 3) 0x3C, .write (page.address lastOffset) 0x00,
        .write (page.address 3) 0x00, .write (page.address lastOffset) 0xF0]
    let armed := run (command 0xA0) ⟨chip, Memory.replicate size 0xF7⟩
    chip.state ≠ .eraseArmed ∧ chip.master.writeEnabled = true ∧ chip.master.enabled = false ∧
      (answers accesses armed)[4]? = some (true, .committed) ∧
      (run accesses armed).array.get (page.address 3) = 0x34 ∧
      (run accesses armed).array.get (page.address 4) = 0xF7 ∧
      (run accesses armed).array.get (Page.address 7 lastOffset) = 0xF7 := by
  intro chip page accesses armed
  have unarmed : chip.state ≠ .eraseArmed := by decide
  have writes : Access.writes accesses =
      [(page.address 3, 0x0F), (Page.address 7 lastOffset, 0x00), (page.address lastOffset, 0xF0),
        (page.address 3, 0x3C), (page.address lastOffset, 0x00), (page.address 3, 0x00),
        (page.address lastOffset, 0xF0)] := rfl
  have plain : ∀ write ∈ Access.writes accesses, ¬ IsUnlock write.1 write.2 := by
    have bytes : (Access.writes accesses).all (fun write => write.2 != 0xAA && write.2 != 0x55) :=
      rfl
    intro write member
    have byte := List.all_eq_true.mp bytes write member
    simp only [Bool.and_eq_true, bne_iff_ne] at byte
    exact not_isUnlock_of_byte byte.1 byte.2 _
  have chosen : chosenPage? (Access.writes accesses) = some page := by
    simp [writes, chosenPage?]
  obtain ⟨completed, _⟩ := run_program unarmed rfl rfl (Memory.replicate size 0xF7) plain
  have completes : Completes page (Access.writes accesses) 4 := ⟨rfl, 2, 0xF0, by decide, rfl⟩
  have first : ∀ earlier < 4, ¬ Completes page (Access.writes accesses) earlier := by
    have other : ∀ earlier < 4,
        (Access.writes accesses)[earlier]? ≠ some (page.address lastOffset, 0x00) := by
      rw [writes]
      decide
    exact fun earlier small completes => other earlier small completes.1
  obtain ⟨answer, _, array⟩ := completed page 4 chosen completes first
  refine ⟨unarmed, rfl, rfl, answer, ?_, ?_, ?_⟩
  · rw [array, writes, Memory.get_replicate]
    decide
  · rw [array, writes, Memory.get_replicate]
    decide
  · rw [array, Memory.get_replicate]
    decide

end Device

end Flash
end FlashCartridge
