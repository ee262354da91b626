import SmuTelemetry.History
import SmuTelemetry.Main
import SmuTelemetry.Proofs.PmTable.GraniteRidge
import SmuTelemetry.Proofs.Session.MemoryFrequency
import SmuTelemetry.Proofs.Session.RailVoltages
import SmuTelemetry.Proofs.Dram.RoundTrip
import SmuTelemetry.Proofs.PmTable.NamedReadings
import SmuTelemetry.Proofs.PmTable.SlotIndependence
import SmuTelemetry.Proofs.PmTable.FirstPlausible
import SmuTelemetry.Proofs.PmTable.PlausibleReadings
import SmuTelemetry.Proofs.PmTable.HeldReadings
import SmuTelemetry.Proofs.OverclockingRegion.FieldDumps
import SmuTelemetry.Proofs.Dram.Channels
import SmuTelemetry.Proofs.Driver.RegisterReads
import SmuTelemetry.Proofs.OverclockingRegion.VoltageScan
import SmuTelemetry.Proofs.Session.RegisterFile
import SmuTelemetry.Proofs.Files.Readings
import SmuTelemetry.Proofs.Cpu.Frequencies
import SmuTelemetry.Proofs.Session.PollReadings
import SmuTelemetry.Proofs.Session.FailedPolls
import SmuTelemetry.Proofs.Acpi.DeclarationPlace
import SmuTelemetry.Proofs.Indexing.Trap
import SmuTelemetry.Proofs.PmTable.CoreWrites
import SmuTelemetry.Proofs.PmTable.DecoderPasses
import SmuTelemetry.Proofs.Dram.HalfRate
import SmuTelemetry.Proofs.PmTable.Temperatures
import SmuTelemetry.Proofs.Plausibility.LooserLimits
import SmuTelemetry.Proofs.Acpi.TableEnumeration
import SmuTelemetry.Proofs.Acpi.TableSearch
import SmuTelemetry.Proofs.Acpi.TableFormat
import SmuTelemetry.Proofs.FirmwareVersion
import SmuTelemetry.Proofs.Cpu.Usage
import SmuTelemetry.Proofs.Cpu.SmtPairs
import SmuTelemetry.Proofs.Dram.RefreshSelection
import SmuTelemetry.Proofs.Cpu.CoreFrequencies
import SmuTelemetry.Proofs.Configuration.Spelling
import SmuTelemetry.Proofs.Configuration.Overrides
import SmuTelemetry.Proofs.Configuration.RailOffsets
import SmuTelemetry.Proofs.PmTable.LastNamedSlot
import SmuTelemetry.Proofs.PmTable.CoreWindows
import SmuTelemetry.Proofs.Binary32.Sum
import SmuTelemetry.Proofs.Binary32.Quotient
import SmuTelemetry.Proofs.Cpu.SmtFolding
import SmuTelemetry.Proofs.Cpu.ReferenceClock
import SmuTelemetry.Proofs.Session.ReferenceClock
import SmuTelemetry.Proofs.Word.ReaderAgreement
import SmuTelemetry.Proofs.Word.SliceAlgebra
