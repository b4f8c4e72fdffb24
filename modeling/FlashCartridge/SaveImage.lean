import FlashCartridge.Flash.Geometry

/-!
# The persisted part of a cartridge

Battery-backed RAM and the flash array are kept between sessions as one image. Written out, the
32 KiB of RAM come first and the flash array follows; reading that form back gives the image again.
-/

namespace FlashCartridge

/-- Number of bytes of cartridge RAM. -/
abbrev ramSize : Nat := 0x8000

/-- The two memories that outlive a session. -/
structure SaveImage where
  /-- The cartridge RAM. -/
  ram : Memory ramSize
  /-- The stored bytes of the flash chip. -/
  flash : Flash.FlashArray

namespace SaveImage

/-- Number of bytes of a written image. -/
abbrev byteSize : Nat := ramSize + Flash.size

/-- The factory state: RAM cleared, flash erased. -/
def blank : SaveImage where
  ram := Memory.replicate ramSize 0x00
  flash := Memory.replicate Flash.size 0xFF

/-- The written form of an image. -/
def toBytes (image : SaveImage) : ByteArray := image.ram.bytes ++ image.flash.bytes

/-- The image with a given written form. -/
def ofBytes (bytes : ByteArray) (complete : bytes.size = byteSize) : SaveImage where
  ram := ⟨bytes.extract 0 ramSize, by simp [complete]⟩
  flash := ⟨bytes.extract ramSize byteSize, by simp [complete]⟩

/-- The image with a given written form, if that has the size of an image. -/
def ofBytes? (bytes : ByteArray) : Option SaveImage :=
  if complete : bytes.size = byteSize then some (ofBytes bytes complete) else none

@[ext]
theorem ext {left right : SaveImage} (ram : left.ram = right.ram)
    (flash : left.flash = right.flash) : left = right := by
  cases left
  cases right
  simp_all

@[simp]
theorem size_toBytes (image : SaveImage) : image.toBytes.size = byteSize := by
  simp [toBytes, image.ram.size_bytes, image.flash.size_bytes]

/-- Reading a written image gives that image. -/
@[simp]
theorem ofBytes?_toBytes (image : SaveImage) : ofBytes? image.toBytes = some image := by
  have complete := image.size_toBytes
  obtain ⟨⟨ram, ram_size⟩, ⟨flash, flash_size⟩⟩ := image
  simp only [toBytes] at complete
  have front : (ram ++ flash).extract 0 ramSize = ram :=
    ByteArray.extract_append_eq_left ram_size.symm
  have back : (ram ++ flash).extract ramSize byteSize = flash :=
    ByteArray.extract_append_eq_right ram_size.symm (complete.symm.trans ByteArray.size_append)
  rw [ofBytes?, dif_pos (size_toBytes _)]
  simp only [ofBytes, toBytes, front, back]

theorem toBytes_ofBytes (bytes : ByteArray) (complete : bytes.size = byteSize) :
    (ofBytes bytes complete).toBytes = bytes := by
  simp only [ofBytes, toBytes]
  rw [← ByteArray.extract_eq_extract_append_extract]
  · simp [← complete]
  · simp
  · simp

end SaveImage

end FlashCartridge
