import Jaglink.Lib.CString
import Jaglink.Lib.CMemory
import Jaglink.Lib.FirstMatch
import Jaglink.Lib.PrefixCode
import Jaglink.Lib.Runs
import Jaglink.Lib.Registers
import Jaglink.VinTables
import Jaglink.Profile
import Jaglink.ProfileValid
import Jaglink.VinDecode
import Jaglink.VinSummary
import Jaglink.LinkFlow
import Jaglink.LinuxShell
import Jaglink.AppleController
import Jaglink.FaceAgreement
import Jaglink.LinuxSession
import Jaglink.LinuxHistory
import Jaglink.ProfileStore
import Jaglink.ViewModel
import Jaglink.OfflineView
import Jaglink.SavedVehicles
import Jaglink.CsvExport
import Jaglink.Manufacturer
import Jaglink.ProfileLookup
import Jaglink.RefreshOnce
import Jaglink.SnapshotRoundTrip
import Jaglink.Garage
import Jaglink.GarageRefinement
import Jaglink.SessionVin
import Jaglink.SavedListing
import Jaglink.FactoryCards
import Jaglink.FaultCodes
import Jaglink.FuelSignals
import Jaglink.FuelEconomy
import Jaglink.LinuxSections
import Jaglink.CsvRelease
import Jaglink.VinVehicle
import Jaglink.FaceTexts
import Jaglink.ProfileGrowth
import Jaglink.FaceSession
import Jaglink.NetworkList
import Jaglink.ParameterTiles
