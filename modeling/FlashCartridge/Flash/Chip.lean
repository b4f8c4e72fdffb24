import FlashCartridge.Flash.Geometry

/-!
# The state of the flash chip

The chip follows a command protocol. Two unlock writes precede every command; erasing takes the
unlock writes twice, with the erase setup command in between; programming collects one page in a
buffer before it reaches the array. The array itself is not part of the chip state: the chip
decides what a write does, and `Flash.Action` says what that means for the array.
-/

namespace FlashCartridge
namespace Flash

/-- Where the chip is in its command protocol. -/
inductive CommandState
  /-- Waiting for the first unlock write. -/
  | idle
  /-- The first unlock write was seen. -/
  | unlocking
  /-- Both unlock writes were seen, so a command may follow. -/
  | unlocked
  /-- The erase setup command was accepted, and the unlock writes have to follow again. -/
  | eraseArmed
  /-- The first unlock write after the erase setup command was seen. -/
  | eraseUnlocking
  /-- Both unlock writes after the erase setup command were seen, so an erase may follow. -/
  | eraseUnlocked
  /-- Writes fill the page buffer. -/
  | programming
  /-- A page was committed, and the chip is busy until that is acknowledged. -/
  | committed
  deriving DecidableEq, Repr

/-- The shown name of a command state. -/
def CommandState.name : CommandState → String
  | .idle => "Idle"
  | .unlocking => "GotAA"
  | .unlocked => "Got55"
  | .eraseArmed => "EraseArmed"
  | .eraseUnlocking => "ErasePending1"
  | .eraseUnlocked => "ErasePending2"
  | .programming => "Programming"
  | .committed => "BufferFlushing"

/-- The two control bits of the chip that the bus reaches without the command protocol. -/
structure MasterBits where
  /-- The enable bit. It can only be stored after the software identification command. -/
  enabled : Bool := false
  /-- The write enable bit. While it is clear, no write reaches the chip. -/
  writeEnabled : Bool := false
  deriving DecidableEq, Repr

/-- Programming and erasing are only armed while writing is enabled and the enable bit is clear. -/
def MasterBits.allowArming (master : MasterBits) : Bool := master.writeEnabled && !master.enabled

/-- Erasures that have not been acknowledged. -/
structure EraseFlags where
  /-- The whole chip was erased. -/
  chip : Bool := false
  /-- Some sector was erased. -/
  sector : Bool := false
  deriving DecidableEq, Repr

/-- Whether any erasure waits for its acknowledgement. -/
def EraseFlags.any (flags : EraseFlags) : Bool := flags.chip || flags.sector

/-- The bytes that are collected for one page. -/
structure PageBuffer where
  /-- The collected bytes. -/
  data : Memory pageSize
  /-- The page that the bytes belong to, chosen by the first write. -/
  page? : Option Page
  /-- Whether the last byte of the page was written. -/
  lastWritten : Bool

namespace PageBuffer

/-- The buffer before the first write: every bit set, and no page chosen. -/
def empty : PageBuffer where
  data := Memory.replicate pageSize 0xFF
  page? := none
  lastWritten := false

/-- Collect one byte of a page. -/
def put (buffer : PageBuffer) (page : Page) (offset : Fin pageSize) (byte : UInt8) :
    PageBuffer where
  data := buffer.data.set offset byte
  page? := some page
  lastWritten := buffer.lastWritten || offset = lastOffset

end PageBuffer

/-- What the chip remembers between two writes. -/
structure Chip where
  /-- The position in the command protocol. -/
  state : CommandState
  /-- The control bits. -/
  master : MasterBits
  /-- Whether the software identification command was ever executed. -/
  identified : Bool
  /-- The erasures that wait for their acknowledgement. -/
  erase : EraseFlags
  /-- The page buffer. -/
  buffer : PageBuffer

namespace Chip

/-- The chip after power on. -/
def initial : Chip where
  state := .idle
  master := {}
  identified := false
  erase := {}
  buffer := .empty

/-- Store bit 0 of a byte into the enable bit, which works only once the chip was identified. -/
def storeEnable (chip : Chip) (byte : UInt8) : Chip :=
  if chip.identified then
    { chip with master := { chip.master with enabled := byte &&& 1 != 0 } }
  else
    chip

/-- Store bit 0 of a byte into the write enable bit. -/
def storeWriteEnable (chip : Chip) (byte : UInt8) : Chip :=
  { chip with master := { chip.master with writeEnabled := byte &&& 1 != 0 } }

/-- What a read returns: a busy status while an erasure or a commit waits for its acknowledgement, a
zero status while a page is collected, and the stored byte otherwise. -/
def load (chip : Chip) (array : FlashArray) (address : Address) : UInt8 :=
  if chip.erase.any || chip.state = .committed then
    0x80
  else if chip.state = .programming then
    0x00
  else
    array.get address

end Chip

end Flash
end FlashCartridge
