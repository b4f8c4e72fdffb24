import FlashCartridge.Memory

/-!
# Geometry of the flash chip

The array holds one mebibyte. It is erased in sectors of 8 KiB and programmed in pages of
128 bytes, so an address splits into a sector and an offset, or into a page and an offset.
-/

namespace FlashCartridge
namespace Flash

/-- Number of bytes in the array. -/
abbrev size : Nat := 0x100000

/-- Number of bytes in one erase sector. -/
abbrev sectorSize : Nat := 0x2000

/-- Number of bytes in one program page. -/
abbrev pageSize : Nat := 0x80

/-- The stored bytes of the chip. -/
abbrev FlashArray := Memory size

/-- The place of a byte in the array. -/
abbrev Address := Fin size

/-- The number of an erase sector. -/
abbrev Sector := Fin 128

/-- The number of a program page. -/
abbrev Page := Fin 0x2000

namespace Address

/-- The sector that holds an address. -/
def sector (address : Address) : Sector :=
  ⟨address.val / sectorSize, Nat.div_lt_of_lt_mul address.isLt⟩

/-- An address selects its sector when it is the first of it. -/
def isSectorStart (address : Address) : Bool := address.val % sectorSize == 0

/-- The page that holds an address. -/
def page (address : Address) : Page :=
  ⟨address.val / pageSize, Nat.div_lt_of_lt_mul address.isLt⟩

/-- The place of an address inside its page. -/
def pageOffset (address : Address) : Fin pageSize :=
  ⟨address.val % pageSize, Nat.mod_lt _ (by decide)⟩

end Address

/-- The first address of a sector. -/
def Sector.start (sector : Sector) : Nat := sector.val * sectorSize

/-- The first address of a page. -/
def Page.start (page : Page) : Nat := page.val * pageSize

/-- The place of the last byte of a page. -/
def lastOffset : Fin pageSize := ⟨0x7F, by decide⟩

theorem Sector.start_add_le (sector : Sector) : sector.start + sectorSize ≤ size := by
  have := sector.isLt
  simp only [start, sectorSize, size]
  omega

theorem Page.start_add_le (page : Page) : page.start + pageSize ≤ size := by
  have := page.isLt
  simp only [start, pageSize, size]
  omega

theorem Page.start_add_lt (page : Page) (offset : Fin pageSize) :
    page.start + offset.val < size :=
  Nat.lt_of_lt_of_le (Nat.add_lt_add_left offset.isLt _) page.start_add_le

theorem Address.eq_start_sector {address : Address} (aligned : address.isSectorStart = true) :
    address.val = Sector.start address.sector := by
  simp only [isSectorStart, beq_iff_eq] at aligned
  exact (Nat.div_mul_cancel (Nat.dvd_of_mod_eq_zero aligned)).symm

theorem Address.eq_start_page_add (address : Address) :
    address.val = Page.start address.page + address.pageOffset.val := by
  simp only [Page.start, page, pageOffset]
  exact (Nat.div_add_mod' address.val pageSize).symm

theorem Address.ext_page {left right : Address} (page : left.page = right.page)
    (offset : left.pageOffset = right.pageOffset) : left = right := by
  apply Fin.ext
  rw [left.eq_start_page_add, right.eq_start_page_add, page, offset]

end Flash
end FlashCartridge
