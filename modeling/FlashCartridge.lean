import FlashCartridge.Main
import FlashCartridge.Mbc6.Description
import FlashCartridge.Proofs.Flash.UnlockGate
import FlashCartridge.Proofs.Mbc6.Durability
import FlashCartridge.Proofs.Mbc6.FlashContent
import FlashCartridge.Proofs.Flash.Sequence
import FlashCartridge.Proofs.Mbc6.Driver
import FlashCartridge.Proofs.Mbc6.Saving
import FlashCartridge.Proofs.Mbc6.RamContent
import FlashCartridge.Proofs.Mbc6.SaveAccounting
import FlashCartridge.Proofs.Mbc6.PowerCycle
import FlashCartridge.Proofs.Checked.Chip
import FlashCartridge.Proofs.Checked.Banks
import FlashCartridge.Proofs.Checked.Controller
import FlashCartridge.Proofs.Checked.Bus
import FlashCartridge.Proofs.Mbc6.FlashAccess
import FlashCartridge.Proofs.CommandLine.Replay
import FlashCartridge.Proofs.Mbc6.View
import FlashCartridge.Proofs.Mbc6.WithoutBattery
import FlashCartridge.Proofs.Script.Flushes
import FlashCartridge.Proofs.CommandLine.SaveFile
import FlashCartridge.Proofs.Bus.Moments
import FlashCartridge.Proofs.Flash.Command
import FlashCartridge.Proofs.Mbc6.Command
import FlashCartridge.Proofs.Mbc6.BusyStatus
import FlashCartridge.Proofs.Mbc6.MappingRegisters
import FlashCartridge.Proofs.Script.Grammar
import FlashCartridge.Proofs.Flash.PageProgram
import FlashCartridge.Proofs.Flash.EraseChain
import FlashCartridge.Proofs.Mbc6.Recovery
import FlashCartridge.Proofs.Script.Concatenation
import FlashCartridge.Proofs.Storage.LastSaved
import FlashCartridge.Proofs.Checked.Device
import FlashCartridge.Proofs.Script.Numeral
import FlashCartridge.Proofs.Flash.Invariant
